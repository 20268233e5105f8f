import Mathlib.Data.List.Nodup
import RpcPipeline.Proofs.Queue.Lanes

/-!
# `RpcPipeline.Proofs.Queue.Order`: lanes under one fairness

As long as the fairness does not change, every call stands in the lane of its own key,
and no key has two lanes (`Lanes.Tidy`). The calls of one key then form a queue of their
own (`Lanes.waitersOf`), and what the operations do to it does not depend on where its
lane stands:

* `waitersOf_push`: a call joins the end of the queue of its key.
* `waitersOf_of_pop`: the call that is taken was the head of the queue of its key.
* `waitersOf_remove`: a call leaves the queue of its key.
* `restore_of_pop`: putting back the call that was just taken restores all lanes. If the fairness
  may have changed since it joined, that depends on the lane that it stood in
  (`restore_of_front`).

That no key has two lanes, and that calls suit the keys of their lanes in one way or another
(`Lanes.Each`), is kept by each operation on its own account (`nodup_push`, `Each.push` and so on),
also where the fairness changes.

The keys of the lanes are in the order of their turns (`Lanes.keys`). A lane moves in
that order only if it is the front one and its call is taken (`keys_of_pop`). A new lane
starts at the back (`keys_push`), and withdrawals let lanes vanish without moving any
(`keys_remove`).
-/

set_option autoImplicit false

open scoped List

namespace RpcPipeline

/-- The key of the lane for calls of an endpoint. -/
def Fairness.keyOf : Fairness → Endpoint → Option Endpoint
  | .fifo, _ => none
  | .roundRobin, e => some e

theorem Fairness.key_eq (f : Fairness) (w : Waiter) : f.key w = f.keyOf w.endpoint := by
  cases f <;> rfl

namespace Lanes

variable {f : Fairness} {ls rest : Lanes} {w : Waiter}
  {suits : Option Endpoint → Waiter → Prop}

/-- The keys of the lanes, in the order of their turns. -/
def keys (ls : Lanes) : List (Option Endpoint) := ls.map Lane.key

/-- Every call suits the key of the lane that it stands in. -/
def Each (suits : Option Endpoint → Waiter → Prop) (ls : Lanes) : Prop :=
  ∀ l ∈ ls, ∀ w ∈ l.waiters, suits l.key w

/-- No key has two lanes, and every call stands in the lane of its key. -/
structure Tidy (f : Fairness) (ls : Lanes) : Prop where
  nodup : ls.keys.Nodup
  own : ∀ l ∈ ls, ∀ w ∈ l.waiters, f.key w = l.key

@[simp] theorem keys_nil : keys [] = [] := rfl

@[simp] theorem keys_cons (l : Lane) (ls : Lanes) : keys (l :: ls) = l.key :: keys ls := rfl

@[simp] theorem keys_append (as bs : Lanes) : keys (as ++ bs) = keys as ++ keys bs :=
  List.map_append

@[simp] theorem waitersOf_nil (key : Option Endpoint) : waitersOf key [] = [] := rfl

theorem waitersOf_cons (key : Option Endpoint) (l : Lane) (ls : Lanes) :
    waitersOf key (l :: ls) = if l.key = key then l.waiters else ls.waitersOf key := by
  by_cases h : l.key = key <;> simp [waitersOf, h]

theorem waitersOf_eq_nil {key : Option Endpoint} (h : key ∉ ls.keys) : ls.waitersOf key = [] := by
  induction ls with
  | nil => rfl
  | cons l ls ih =>
    rw [keys_cons, List.mem_cons, not_or] at h
    rw [waitersOf_cons, if_neg (Ne.symm h.1), ih h.2]

theorem waitersOf_append (key : Option Endpoint) (as bs : Lanes) :
    waitersOf key (as ++ bs) =
      if key ∈ as.keys then as.waitersOf key else bs.waitersOf key := by
  induction as with
  | nil => simp
  | cons l as ih =>
    rw [List.cons_append, waitersOf_cons, waitersOf_cons, keys_cons, ih]
    by_cases h : l.key = key
    · simp [h]
    · simp [h, Ne.symm h]

theorem Tidy.each (h : ls.Tidy f) : ls.Each fun key w => f.key w = key := h.own

theorem Each.of_mem_waitersOf (h : ls.Each suits) {key : Option Endpoint}
    (hw : w ∈ ls.waitersOf key) : suits key w := by
  unfold waitersOf at hw
  split at hw
  · next l hl =>
    have hkey : l.key = key := by simpa using List.find?_some hl
    exact hkey ▸ h l (List.mem_of_find?_eq_some hl) w hw
  · exact absurd hw List.not_mem_nil

theorem keys_eraseP (key : Option Endpoint) (ls : Lanes) :
    keys (ls.eraseP (·.key = key)) = ls.keys.erase key := by
  induction ls with
  | nil => rfl
  | cons l ls ih =>
    by_cases h : l.key = key
    · rw [List.eraseP_cons_of_pos (by simpa using h), keys_cons, h, List.erase_cons_head]
    · rw [List.eraseP_cons_of_neg (by simpa using h), keys_cons, keys_cons, ih,
        List.erase_cons_tail (by simpa using h)]

theorem Tidy.nil (f : Fairness) : Tidy f [] := ⟨List.nodup_nil, by simp⟩

theorem Tidy.of_cons {l : Lane} (h : Tidy f (l :: ls)) : Tidy f ls :=
  ⟨(List.nodup_cons.mp h.nodup).2, fun l' hl' => h.own l' (List.mem_cons_of_mem l hl')⟩

theorem Tidy.notMem {l : Lane} (h : Tidy f (l :: ls)) : l.key ∉ ls.keys :=
  (List.nodup_cons.mp h.nodup).1

/-- A call stands in the lane of its key and in no other. -/
theorem mem_waitersOf (h : ls.Tidy f) {key : Option Endpoint} :
    w ∈ ls.waitersOf key ↔ w ∈ ls.waiters ∧ f.key w = key := by
  induction ls with
  | nil => simp
  | cons l ls ih =>
    have hown := h.own l List.mem_cons_self
    rw [waitersOf_cons, waiters_cons, List.mem_append]
    by_cases hl : l.key = key
    · rw [if_pos hl]
      subst hl
      refine ⟨fun hw => ⟨.inl hw, hown w hw⟩, fun ⟨hw, hkey⟩ => hw.resolve_right fun hw => ?_⟩
      -- A call of this key that stands further back would stand in a second lane of it.
      have hof := (ih h.of_cons).mpr ⟨hw, hkey⟩
      rw [waitersOf_eq_nil h.notMem] at hof
      exact List.not_mem_nil hof
    · rw [if_neg hl, ih h.of_cons]
      refine ⟨fun ⟨hw, hkey⟩ => ⟨.inr hw, hkey⟩, fun ⟨hw, hkey⟩ => ⟨?_, hkey⟩⟩
      exact hw.resolve_left fun hw => hl ((hown w hw).symm.trans hkey)

/-! ### Joining -/

theorem keys_join (key : Option Endpoint) (w : Waiter) (ls : Lanes) :
    (ls.join key w).keys = if key ∈ ls.keys then ls.keys else ls.keys ++ [key] := by
  induction ls with
  | nil => simp [join]
  | cons l ls ih =>
    simp only [join]
    by_cases h : l.key = key
    · rw [if_pos h, keys_cons, keys_cons]
      exact (if_pos (by simp [h])).symm
    · rw [if_neg h, keys_cons, keys_cons, ih]
      by_cases hk : key ∈ keys ls <;> simp [hk, Ne.symm h]

theorem waitersOf_join (key key' : Option Endpoint) (w : Waiter) (ls : Lanes) :
    (ls.join key w).waitersOf key' =
      ls.waitersOf key' ++ if key' = key then [w] else [] := by
  induction ls with
  | nil => simp [join, waitersOf_cons, eq_comm]
  | cons l ls ih =>
    simp only [join]
    by_cases h : l.key = key
    · rw [if_pos h, waitersOf_cons, waitersOf_cons, ← h]
      by_cases hk : l.key = key'
      · rw [if_pos hk, if_pos hk, if_pos hk.symm]
      · rw [if_neg hk, if_neg hk, if_neg (Ne.symm hk), List.append_nil]
    · rw [if_neg h, waitersOf_cons, waitersOf_cons, ih]
      by_cases hk : l.key = key'
      · have hne : key' ≠ key := hk ▸ h
        rw [if_pos hk, if_pos hk, if_neg hne, List.append_nil]
      · rw [if_neg hk, if_neg hk]

/-- A key that is not in use gets a lane at the back. -/
theorem keys_push (f : Fairness) (w : Waiter) (ls : Lanes) :
    (ls.push f w).keys =
      if f.key w ∈ ls.keys then ls.keys else ls.keys ++ [f.key w] :=
  keys_join _ w ls

/-- A call joins the end of the queue of its key. -/
theorem waitersOf_push (f : Fairness) (w : Waiter) (ls : Lanes) (key : Option Endpoint) :
    (ls.push f w).waitersOf key =
      ls.waitersOf key ++ if key = f.key w then [w] else [] :=
  waitersOf_join _ key w ls

theorem Each.join {key : Option Endpoint} (h : ls.Each suits) (hw : suits key w) :
    (ls.join key w).Each suits := by
  induction ls with
  | nil =>
    intro l hl v hv
    rw [List.mem_singleton.mp hl] at hv ⊢
    rwa [List.mem_singleton.mp hv]
  | cons l ls ih =>
    have hhead := h l List.mem_cons_self
    have hothers : ∀ l' ∈ ls, ∀ v ∈ l'.waiters, suits l'.key v := fun l' hl' =>
      h l' (List.mem_cons_of_mem l hl')
    simp only [Lanes.join]
    split
    · next hkey =>
      refine List.forall_mem_cons.mpr ⟨fun v hv => ?_, hothers⟩
      rcases List.mem_append.mp hv with hv | hv
      · exact hhead v hv
      · rwa [List.mem_singleton.mp hv, hkey]
    · exact List.forall_mem_cons.mpr ⟨hhead, ih hothers⟩

theorem Each.push (h : ls.Each suits) (hw : suits (f.key w) w) : (ls.push f w).Each suits :=
  h.join hw

theorem nodup_push (h : ls.keys.Nodup) (f : Fairness) (w : Waiter) :
    (ls.push f w).keys.Nodup := by
  rw [keys_push]
  split
  · exact h
  · next hnew => exact List.nodup_append_comm.mp (List.nodup_cons.mpr ⟨hnew, h⟩)

theorem Tidy.push (h : ls.Tidy f) (w : Waiter) : (ls.push f w).Tidy f :=
  ⟨nodup_push h.nodup f w, h.each.push rfl⟩

/-! ### Taking and putting back -/

/-- Taking a call takes the head of the front lane, which then either goes to the back
or, if it was the only one in it, vanishes. -/
theorem pop_cases (hp : ls.pop = some (w, rest)) :
    (∃ key ls', ls = ⟨key, [w]⟩ :: ls' ∧ rest = ls') ∨
      ∃ key v left ls', ls = ⟨key, w :: v :: left⟩ :: ls' ∧ rest = ls' ++ [⟨key, v :: left⟩] := by
  match ls, hp with
  | ⟨key, [_]⟩ :: ls', hp =>
    simp only [pop, Option.some.injEq, Prod.mk.injEq] at hp
    obtain ⟨rfl, rfl⟩ := hp
    exact .inl ⟨key, _, rfl, rfl⟩
  | ⟨key, _ :: v :: left⟩ :: ls', hp =>
    simp only [pop, Option.some.injEq, Prod.mk.injEq] at hp
    obtain ⟨rfl, rfl⟩ := hp
    exact .inr ⟨key, v, left, ls', rfl, rfl⟩

/-- The call that is taken was the head of the front lane. -/
theorem front_of_pop (hp : ls.pop = some (w, rest)) :
    ∃ key ws ls', ls = ⟨key, w :: ws⟩ :: ls' := by
  rcases pop_cases hp with ⟨key, ls', rfl, -⟩ | ⟨key, v, left, ls', rfl, -⟩
  · exact ⟨key, [], ls', rfl⟩
  · exact ⟨key, v :: left, ls', rfl⟩

theorem pop_cons (key : Option Endpoint) (w : Waiter) (ws : List Waiter) (ls : Lanes) :
    ∃ rest, pop (⟨key, w :: ws⟩ :: ls) = some (w, rest) := by
  cases ws with
  | nil => exact ⟨ls, rfl⟩
  | cons v vs => exact ⟨ls ++ [⟨key, v :: vs⟩], rfl⟩

/-- A call that goes back to its place is next. -/
theorem pop_restore (f : Fairness) (w : Waiter) (ls : Lanes) :
    ∃ rest, (ls.restore f w).pop = some (w, rest) :=
  pop_cons _ _ _ _

/-- The lane of the call that is taken is the front one. It goes to the back or
vanishes. -/
theorem keys_of_pop (h : ls.Tidy f) (hp : ls.pop = some (w, rest)) :
    ∃ keys, ls.keys = f.key w :: keys ∧ (rest.keys = keys ∨ rest.keys = keys ++ [f.key w]) := by
  rcases pop_cases hp with ⟨key, ls', rfl, rfl⟩ | ⟨key, v, left, ls', rfl, rfl⟩
  · have hkey : f.key w = key := h.own _ List.mem_cons_self w (by simp)
    exact ⟨rest.keys, by rw [keys_cons, hkey], .inl rfl⟩
  · have hkey : f.key w = key := h.own _ List.mem_cons_self w (by simp)
    exact ⟨keys ls', by rw [keys_cons, hkey], .inr (by simp [hkey])⟩

theorem nodup_of_pop (h : ls.keys.Nodup) (hp : ls.pop = some (w, rest)) : rest.keys.Nodup := by
  rcases pop_cases hp with ⟨key, ls', rfl, rfl⟩ | ⟨key, v, left, ls', rfl, rfl⟩
  · exact (List.nodup_cons.mp h).2
  · rw [keys_append]
    exact List.nodup_append_comm.mp h

theorem Each.of_pop (h : ls.Each suits) (hp : ls.pop = some (w, rest)) : rest.Each suits := by
  rcases pop_cases hp with ⟨key, ls', rfl, rfl⟩ | ⟨key, v, left, ls', rfl, rfl⟩
  · exact (List.forall_mem_cons.mp h).2
  · obtain ⟨hfront, hothers⟩ := List.forall_mem_cons.mp h
    refine List.forall_mem_append.mpr ⟨hothers, fun l hl => ?_⟩
    rw [List.mem_singleton.mp hl]
    exact fun u hu => hfront u (List.mem_cons_of_mem w hu)

theorem Tidy.of_pop (h : ls.Tidy f) (hp : ls.pop = some (w, rest)) : rest.Tidy f :=
  ⟨nodup_of_pop h.nodup hp, h.each.of_pop hp⟩

/-- The call that is taken was the head of the queue of its key. -/
theorem waitersOf_of_pop (h : ls.Tidy f) (hp : ls.pop = some (w, rest)) (key : Option Endpoint) :
    ls.waitersOf key = (if key = f.key w then [w] else []) ++ rest.waitersOf key := by
  rcases pop_cases hp with ⟨key', ls', rfl, rfl⟩ | ⟨key', v, left, ls', rfl, rfl⟩
  · have hkey : f.key w = key' := h.own _ List.mem_cons_self w (by simp)
    rw [waitersOf_cons, hkey]
    by_cases hk : key' = key
    · subst hk
      simp [waitersOf_eq_nil h.notMem]
    · simp [hk, Ne.symm hk]
  · have hkey : f.key w = key' := h.own _ List.mem_cons_self w (by simp)
    rw [waitersOf_cons, hkey, waitersOf_append]
    by_cases hk : key' = key
    · subst hk
      have hnot : key' ∉ keys ls' := h.notMem
      simp [hnot, waitersOf_cons]
    · by_cases hmem : key ∈ keys ls'
      · simp [hk, Ne.symm hk, hmem]
      · simp [hk, Ne.symm hk, hmem, waitersOf_cons, waitersOf_eq_nil hmem]

theorem eraseP_key_of_notMem {key : Option Endpoint} (h : key ∉ ls.keys) :
    ls.eraseP (fun l => l.key = key) = ls := by
  refine List.eraseP_of_forall_not fun l hl hkey => h ?_
  rw [← of_decide_eq_true hkey]
  exact List.mem_map_of_mem hl

theorem nodup_restore (h : ls.keys.Nodup) (f : Fairness) (w : Waiter) :
    (ls.restore f w).keys.Nodup := by
  simp only [restore, keys_cons, keys_eraseP]
  exact List.nodup_cons.mpr ⟨h.not_mem_erase, h.erase _⟩

theorem Each.restore (h : ls.Each suits) (hw : suits (f.key w) w) :
    (ls.restore f w).Each suits := by
  refine List.forall_mem_cons.mpr ⟨?_, fun l hl => h l (List.mem_of_mem_eraseP hl)⟩
  exact List.forall_mem_cons.mpr ⟨hw, fun v hv => h.of_mem_waitersOf hv⟩

/-- Putting back the call that was just taken restores all lanes, if the front one was the lane of
its key. -/
theorem restore_of_front (h : ls.keys.Nodup) (hfront : ls.keys.head? = some (f.key w))
    (hp : ls.pop = some (w, rest)) : rest.restore f w = ls := by
  rcases pop_cases hp with ⟨key, ls', rfl, rfl⟩ | ⟨key, v, left, ls', rfl, rfl⟩
  · have hkey : f.key w = key := (Option.some.inj hfront).symm
    have hnot : key ∉ rest.keys := (List.nodup_cons.mp h).1
    simp only [restore, hkey]
    rw [waitersOf_eq_nil hnot, eraseP_key_of_notMem hnot]
  · have hkey : f.key w = key := (Option.some.inj hfront).symm
    have hnot : key ∉ keys ls' := (List.nodup_cons.mp h).1
    have hof : waitersOf key (ls' ++ [⟨key, v :: left⟩]) = v :: left := by
      rw [waitersOf_append, if_neg hnot, waitersOf_cons, if_pos rfl]
    have hothers : (ls' ++ [(⟨key, v :: left⟩ : Lane)]).eraseP (fun l => l.key = key) = ls' := by
      have hfirst : ∀ l ∈ ls', ¬ (decide (l.key = key) = true) := by
        intro l hl hl'
        rw [← of_decide_eq_true hl'] at hnot
        exact hnot (List.mem_map_of_mem hl)
      rw [List.eraseP_append_right _ hfirst]
      simp
    simp only [restore, hkey]
    rw [hof, hothers]

/-- Under one fairness, that is the lane of every call. -/
theorem restore_of_pop (h : ls.Tidy f) (hp : ls.pop = some (w, rest)) :
    rest.restore f w = ls := by
  obtain ⟨keys, hkeys, -⟩ := keys_of_pop h hp
  exact restore_of_front h.nodup (by rw [hkeys]; rfl) hp

/-! ### Leaving -/

/-- Lanes vanish when a call leaves, and the others keep their order. -/
theorem keys_remove (id : Nat) (ls : Lanes) : (ls.remove id).keys <+ ls.keys := by
  have hsub := (List.filter_sublist (l := ls.map fun l =>
    { l with waiters := l.waiters.filter (·.id ≠ id) }) (p := fun l => !l.waiters.isEmpty)).map
      Lane.key
  rw [List.map_map] at hsub
  exact hsub

theorem nodup_remove (h : ls.keys.Nodup) (id : Nat) : (ls.remove id).keys.Nodup :=
  h.sublist (keys_remove id ls)

theorem Each.remove (h : ls.Each suits) (id : Nat) : (ls.remove id).Each suits := by
  intro l hl v hv
  obtain ⟨l', hl', rfl⟩ := List.mem_map.mp (List.mem_filter.mp hl).1
  exact h l' hl' v (List.mem_filter.mp hv).1

theorem Tidy.remove (h : ls.Tidy f) (id : Nat) : (ls.remove id).Tidy f :=
  ⟨nodup_remove h.nodup id, h.each.remove id⟩

/-- A call leaves the queue of its key. -/
theorem waitersOf_remove (h : ls.keys.Nodup) (id : Nat) (key : Option Endpoint) :
    (ls.remove id).waitersOf key = (ls.waitersOf key).filter (·.id ≠ id) := by
  induction ls with
  | nil => rfl
  | cons l ls ih =>
    obtain ⟨hnotMem, hnodup⟩ := List.nodup_cons.mp h
    rw [remove_cons, waitersOf_cons]
    by_cases hk : l.key = key
    · subst hk
      rw [if_pos rfl]
      split
      · next hnone =>
        -- The lane has vanished, and no other has its key.
        have hgone : l.key ∉ keys (remove id ls) :=
          fun hmem => hnotMem ((keys_remove id ls).subset hmem)
        rw [waitersOf_eq_nil hgone, hnone]
      · rw [waitersOf_cons, if_pos rfl]
    · rw [if_neg hk, ← ih hnodup]
      split
      · rfl
      · rw [waitersOf_cons, if_neg hk]

end Lanes

end RpcPipeline
