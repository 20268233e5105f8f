import Mathlib.Data.List.Nodup
import Mathlib.Data.List.Perm.Basic
import RpcPipeline.Queue.Lanes

/-!
# `RpcPipeline.Proofs.Queue.Lanes`: what the lanes hold

The operations on lanes move waiting calls about. Which calls wait is a matter of
`Lanes.waiters` up to order, so each operation has one lemma that says what it does
to the waiters as a permutation:

* `waiters_push`: one more.
* `waiters_of_pop`: one less, the one that is taken.
* `waiters_restore`: the one that was taken is back.
* `waiters_remove`: the ones with an identity are gone. That is at most one if there is no call
  twice, and the first one found (`ids_remove_perm`, `remove_eq_removeFirst`).

Taking a call looks at the front lane only, so it depends on no lane being empty
(`Lanes.Occupied`). Every operation keeps that, and then `pop` fails only if
nothing waits (`exists_pop`).

None of this depends on the keys of the lanes. It holds for every fairness, also
if that changes from one operation to the next.
-/

set_option autoImplicit false

open scoped List

namespace RpcPipeline

namespace Lanes

/-- No lane is empty. -/
def Occupied (ls : Lanes) : Prop := ∀ l ∈ ls, l.waiters ≠ []

/-- The identities of the waiting calls, lane by lane. -/
def ids (ls : Lanes) : List Nat := ls.waiters.map (·.id)

variable {ls rest : Lanes} {w : Waiter} {id : Nat}

@[simp] theorem waiters_nil : waiters [] = [] := rfl

@[simp] theorem waiters_cons (l : Lane) (ls : Lanes) :
    waiters (l :: ls) = l.waiters ++ waiters ls := by
  simp [waiters]

@[simp] theorem waiters_append (as bs : Lanes) :
    waiters (as ++ bs) = waiters as ++ waiters bs := by
  simp [waiters]

@[simp] theorem ids_nil : ids [] = [] := rfl

theorem ids_cons (l : Lane) (ls : Lanes) : ids (l :: ls) = l.waiters.map (·.id) ++ ids ls := by
  rw [ids, waiters_cons, List.map_append, ids]

theorem length_ids (ls : Lanes) : ls.ids.length = ls.count := by simp [ids, count]

/-- The lanes are known to hold a call by its identity. -/
theorem has_iff {id : Nat} {ls : Lanes} : ls.has id = true ↔ id ∈ ls.ids := by
  simp [has, ids]

/-- Without an empty lane, nothing waits only if there is no lane. -/
theorem eq_nil_of_waiters {ls : Lanes} (h : ls.Occupied) (hw : ls.waiters = []) : ls = [] := by
  cases ls with
  | nil => rfl
  | cons l ls =>
    rw [waiters_cons, List.append_eq_nil_iff] at hw
    exact absurd hw.1 (h l (by simp))

/-- Without an empty lane, the count is zero only if there is no lane. -/
theorem eq_nil_of_count {ls : Lanes} (h : ls.Occupied) (hc : ls.count = 0) : ls = [] :=
  eq_nil_of_waiters h (List.length_eq_zero_iff.mp hc)

theorem occupied_append {as bs : Lanes} :
    Occupied (as ++ bs) ↔ as.Occupied ∧ bs.Occupied := by
  simp only [Occupied, List.mem_append]
  exact ⟨fun h => ⟨fun l hl => h l (.inl hl), fun l hl => h l (.inr hl)⟩,
    fun h l hl => hl.elim (h.1 l) (h.2 l)⟩

/-! ### Joining -/

/-- Joining a lane adds one call, wherever the lane stands. -/
theorem waiters_join (key : Option Endpoint) (w : Waiter) (ls : Lanes) :
    (ls.join key w).waiters.Perm (w :: ls.waiters) := by
  induction ls with
  | nil => simp [join]
  | cons l ls ih =>
    simp only [join]
    split
    · simp only [waiters_cons, List.append_assoc, List.singleton_append]
      exact List.perm_middle
    · rw [waiters_cons, waiters_cons]
      exact (ih.append_left l.waiters).trans List.perm_middle

theorem occupied_join {key : Option Endpoint} {w : Waiter} {ls : Lanes} (h : ls.Occupied) :
    (ls.join key w).Occupied := by
  induction ls with
  | nil => simp [join, Occupied]
  | cons l ls ih =>
    have hls : Occupied ls := fun l' hl' => h l' (by simp [hl'])
    simp only [join]
    split
    · intro l' hl'
      rcases List.mem_cons.mp hl' with rfl | hl'
      · simp
      · exact hls l' hl'
    · intro l' hl'
      rcases List.mem_cons.mp hl' with rfl | hl'
      · exact h l' (by simp)
      · exact ih hls l' hl'

theorem waiters_push (fairness : Fairness) (w : Waiter) (ls : Lanes) :
    (ls.push fairness w).waiters.Perm (w :: ls.waiters) :=
  waiters_join _ w ls

theorem ids_push (fairness : Fairness) (w : Waiter) (ls : Lanes) :
    (ls.push fairness w).ids.Perm (w.id :: ls.ids) :=
  (waiters_push fairness w ls).map _

theorem occupied_push {fairness : Fairness} {w : Waiter} {ls : Lanes} (h : ls.Occupied) :
    (ls.push fairness w).Occupied :=
  occupied_join h

/-! ### Taking and putting back -/

/-- Without an empty lane there is always a next call, unless there is no lane. -/
theorem exists_pop {ls : Lanes} (h : ls.Occupied) (hne : ls ≠ []) :
    ∃ w rest, ls.pop = some (w, rest) := by
  match ls, h, hne with
  | ⟨_, []⟩ :: _, h, _ => exact absurd rfl (h ⟨_, []⟩ List.mem_cons_self)
  | ⟨_, [w]⟩ :: ls, _, _ => exact ⟨w, ls, rfl⟩
  | ⟨key, w :: w' :: rest⟩ :: ls, _, _ => exact ⟨w, ls ++ [⟨key, w' :: rest⟩], rfl⟩

/-- A call that is taken leaves the others behind. -/
theorem waiters_of_pop {ls rest : Lanes} {w : Waiter} (h : ls.pop = some (w, rest)) :
    ls.waiters.Perm (w :: rest.waiters) := by
  match ls, h with
  | ⟨_, [_]⟩ :: _, h =>
    simp only [pop, Option.some.injEq, Prod.mk.injEq] at h
    obtain ⟨rfl, rfl⟩ := h
    simp
  | ⟨key, v :: v' :: left⟩ :: ls, h =>
    simp only [pop, Option.some.injEq, Prod.mk.injEq] at h
    obtain ⟨rfl, rfl⟩ := h
    -- What is left of the front lane has gone to the back.
    have hback : ((v' :: left) ++ waiters ls).Perm (waiters ls ++ (v' :: left)) :=
      List.perm_append_comm
    simpa using hback.cons v

theorem occupied_of_pop {ls rest : Lanes} {w : Waiter} (ho : ls.Occupied)
    (h : ls.pop = some (w, rest)) : rest.Occupied := by
  match ls, h with
  | ⟨_, [_]⟩ :: ls, h =>
    simp only [pop, Option.some.injEq, Prod.mk.injEq] at h
    obtain ⟨rfl, rfl⟩ := h
    exact fun l hl => ho l (by simp [hl])
  | ⟨_, _ :: _ :: _⟩ :: ls, h =>
    simp only [pop, Option.some.injEq, Prod.mk.injEq] at h
    obtain ⟨rfl, rfl⟩ := h
    refine occupied_append.mpr ⟨fun l hl => ho l (by simp [hl]), ?_⟩
    intro l hl
    rw [List.mem_singleton] at hl
    simp [hl]

/-- The first lane of a key and the lanes without it hold what all lanes hold. -/
theorem waiters_eraseP (key : Option Endpoint) (ls : Lanes) :
    (ls.waitersOf key ++ waiters (ls.eraseP (·.key = key))).Perm ls.waiters := by
  induction ls with
  | nil => simp [waitersOf]
  | cons l ls ih =>
    by_cases h : l.key = key
    · simp [waitersOf, h]
    · have hof : waitersOf key (l :: ls) = waitersOf key ls := by simp [waitersOf, h]
      rw [hof, List.eraseP_cons_of_neg (by simpa using h), waiters_cons, waiters_cons]
      calc waitersOf key ls ++ (l.waiters ++ waiters (ls.eraseP (·.key = key)))
        _ ~ l.waiters ++ (waitersOf key ls ++ waiters (ls.eraseP (·.key = key))) := by
            rw [← List.append_assoc, ← List.append_assoc]
            exact List.perm_append_comm.append_right _
        _ ~ l.waiters ++ waiters ls := ih.append_left _

theorem waiters_restore (fairness : Fairness) (w : Waiter) (ls : Lanes) :
    (ls.restore fairness w).waiters.Perm (w :: ls.waiters) := by
  simp only [restore, waiters_cons, List.cons_append]
  exact (waiters_eraseP _ ls).cons w

theorem ids_restore (fairness : Fairness) (w : Waiter) (ls : Lanes) :
    (ls.restore fairness w).ids.Perm (w.id :: ls.ids) :=
  (waiters_restore fairness w ls).map _

theorem ids_of_pop {ls rest : Lanes} {w : Waiter} (h : ls.pop = some (w, rest)) :
    ls.ids.Perm (w.id :: rest.ids) :=
  (waiters_of_pop h).map _

theorem occupied_restore {fairness : Fairness} {w : Waiter} {ls : Lanes} (h : ls.Occupied) :
    (ls.restore fairness w).Occupied := by
  intro l hl
  rcases List.mem_cons.mp hl with rfl | hl
  · simp
  · exact h l (List.mem_of_mem_eraseP hl)

/-! ### Leaving -/

theorem remove_cons (id : Nat) (l : Lane) (ls : Lanes) :
    remove id (l :: ls) =
      if l.waiters.filter (·.id ≠ id) = [] then remove id ls
      else ⟨l.key, l.waiters.filter (·.id ≠ id)⟩ :: remove id ls := by
  rw [remove, List.map_cons, List.filter_cons]
  by_cases h : l.waiters.filter (·.id ≠ id) = []
  · rw [if_pos h, if_neg (by simpa using h)]
    rfl
  · rw [if_neg h, if_pos (by simpa using h)]
    rfl

/-- Exactly the calls with an identity leave. -/
theorem waiters_remove (id : Nat) (ls : Lanes) :
    (ls.remove id).waiters = ls.waiters.filter (·.id ≠ id) := by
  induction ls with
  | nil => rfl
  | cons l ls ih =>
    rw [remove_cons, waiters_cons, List.filter_append, ← ih]
    split
    · next hnone => rw [hnone, List.nil_append]
    · rw [waiters_cons]

theorem ids_remove (id : Nat) (ls : Lanes) : (ls.remove id).ids = ls.ids.filter (· ≠ id) := by
  rw [ids, waiters_remove, ids, List.filter_map]
  rfl

theorem occupied_remove (id : Nat) (ls : Lanes) : (ls.remove id).Occupied := by
  intro l hl
  have h := (List.mem_filter.mp hl).2
  simpa using h

/-- If there is no call twice, one leaves. -/
theorem ids_remove_perm (hd : ls.ids.Nodup) (hid : id ∈ ls.ids) :
    ls.ids ~ id :: (ls.remove id).ids := by
  have herase : (ls.remove id).ids = ls.ids.erase id := by
    rw [ids_remove, hd.erase_eq_filter]
    exact List.filter_congr fun x _ => Bool.eq_iff_iff.mpr (by simp)
  rw [herase]
  exact List.perm_cons_erase hid

theorem count_remove (hd : ls.ids.Nodup) (hid : id ∈ ls.ids) :
    (ls.remove id).count + 1 = ls.count := by
  have hlength := (ids_remove_perm hd hid).length_eq
  rw [List.length_cons, length_ids, length_ids] at hlength
  exact hlength.symm

/-- Nothing leaves if a call does not wait. -/
theorem remove_of_notMem (ho : ls.Occupied) (hid : id ∉ ls.ids) : ls.remove id = ls := by
  induction ls with
  | nil => rfl
  | cons l ls ih =>
    obtain ⟨hl, hls⟩ := List.forall_mem_cons.mp ho
    rw [ids_cons, List.mem_append, not_or] at hid
    have hstay : l.waiters.filter (·.id ≠ id) = l.waiters :=
      List.filter_eq_self.mpr fun w hw => decide_eq_true fun heq =>
        hid.1 (heq ▸ List.mem_map_of_mem hw)
    rw [remove_cons, hstay, if_neg hl, ih hls hid.2]

/-- The first call with an identity leaves. If no other is left in its lane, that goes with
it. -/
def removeFirst (id : Nat) : Lanes → Lanes
  | [] => []
  | l :: ls =>
    if l.waiters.any (·.id = id) then
      match l.waiters.eraseP (·.id = id) with
      | [] => ls
      | left => ⟨l.key, left⟩ :: ls
    else l :: removeFirst id ls

theorem filter_eq_eraseP {ws : List Waiter} (hd : (ws.map (·.id)).Nodup) (id : Nat) :
    ws.filter (·.id ≠ id) = ws.eraseP (·.id = id) := by
  induction ws with
  | nil => rfl
  | cons w ws ih =>
    obtain ⟨hnotMem, hd⟩ := List.nodup_cons.mp hd
    by_cases h : w.id = id
    · -- No other call has this identity.
      have hothers : ∀ v ∈ ws, v.id ≠ id := fun v hv heq =>
        hnotMem (List.mem_map.mpr ⟨v, hv, heq.trans h.symm⟩)
      rw [List.filter_cons_of_neg (by simpa using h), List.eraseP_cons_of_pos (by simpa using h)]
      exact List.filter_eq_self.mpr fun v hv => decide_eq_true (hothers v hv)
    · rw [List.filter_cons_of_pos (by simpa using h), List.eraseP_cons_of_neg (by simpa using h),
        ih hd]

/-- If there is no call twice, it is enough to look for the first one. -/
theorem remove_eq_removeFirst (ho : ls.Occupied) (hd : ls.ids.Nodup) (id : Nat) :
    ls.remove id = ls.removeFirst id := by
  induction ls with
  | nil => rfl
  | cons l ls ih =>
    obtain ⟨hl, hls⟩ := List.forall_mem_cons.mp ho
    rw [ids_cons] at hd
    obtain ⟨hdl, hdls, hdisjoint⟩ := List.nodup_append.mp hd
    rw [remove_cons, filter_eq_eraseP hdl, removeFirst]
    by_cases hin : id ∈ l.waiters.map (·.id)
    · have hany : l.waiters.any (·.id = id) = true := by simpa using hin
      have hout : id ∉ ids ls := fun hmem => hdisjoint id hin id hmem rfl
      rw [if_pos hany, remove_of_notMem hls hout]
      cases l.waiters.eraseP (·.id = id) with
      | nil => rfl
      | cons v left => rfl
    · have hany : ¬ l.waiters.any (·.id = id) = true := by simpa using hin
      have hstay : l.waiters.eraseP (·.id = id) = l.waiters :=
        List.eraseP_of_forall_not fun w hw heq =>
          hin (List.mem_map.mpr ⟨w, hw, of_decide_eq_true heq⟩)
      rw [hstay, if_neg hl, if_neg hany, ih hls hdls]

end Lanes

/-! ### Counting -/

namespace WaitingRoom

variable {r left : WaitingRoom}

theorem pop_eq_some {w : Waiter} :
    r.pop = some (w, left) ↔ r.lanes.pop = some (w, left.lanes) ∧ left.len = r.len := by
  rw [pop, Option.map_eq_some_iff]
  constructor
  · rintro ⟨⟨v, rest⟩, hpop, heq⟩
    cases heq
    exact ⟨hpop, rfl⟩
  · rintro ⟨hpop, hlen⟩
    exact ⟨_, hpop, by rw [← hlen]⟩

theorem remove?_eq_some {id : Nat} :
    r.remove? id = some left ↔
      id ∈ r.lanes.ids ∧ left.lanes = r.lanes.remove id ∧ left.len = r.len - 1 := by
  rw [remove?, Option.ite_none_right_eq_some, Lanes.has_iff, Option.some.injEq]
  refine and_congr_right fun _ => ⟨?_, ?_⟩
  · rintro rfl
    exact ⟨rfl, rfl⟩
  · rintro ⟨hlanes, hlen⟩
    rw [← hlanes, ← hlen]

end WaitingRoom

end RpcPipeline
