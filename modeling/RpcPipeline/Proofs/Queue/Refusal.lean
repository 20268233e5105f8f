import RpcPipeline.Proofs.Queue.Order

/-!
# `RpcPipeline.Proofs.Queue.Refusal`: a refused call leaves no trace

A call that a pass has taken is offered outside of the lanes. While it is out, other calls come
and go: its lane can grow, vanish, and come back in another place. If the call is refused and
put back, none of that shows that it was ever away.

The reason is that putting it back can be moved past every change. A new call joins the same
lane before and after (`push_restore`). Another call that leaves was in the same lane
(`remove_restore`), and it leaves if it would have left (`has_restore`). Without the changes
between them, taking a call and putting it back cancel (`Lanes.restore_of_pop`).

* `restore_change`, `restore_changes`: one change, and any number of them.
* `pop_restore_changes`: a refusal in the midst of changes.
-/

set_option autoImplicit false

namespace RpcPipeline

namespace Lanes

variable {ls : Lanes} {w : Waiter}

/-! ### The lanes without one -/

/-- It does not matter for the other lanes whether a call joins the one that is away. -/
theorem eraseP_join_self (key : Option Endpoint) (w : Waiter) (ls : Lanes) :
    (ls.join key w).eraseP (·.key = key) = ls.eraseP (·.key = key) := by
  induction ls with
  | nil => simp [join]
  | cons l ls ih =>
    by_cases hl : l.key = key
    · simp [join, hl]
    · simp [join, hl, ih]

/-- Calls can join a lane while another one is away. -/
theorem eraseP_join_of_ne {key key' : Option Endpoint} (hne : key' ≠ key) (w : Waiter)
    (ls : Lanes) :
    (ls.join key' w).eraseP (·.key = key) = join key' w (ls.eraseP (·.key = key)) := by
  induction ls with
  | nil => simp [join, hne]
  | cons l ls ih =>
    by_cases hl : l.key = key
    · simp [join, hl, hne.symm]
    · by_cases h : l.key = key'
      · simp [join, h, hne]
      · simp [join, hl, h, ih]

theorem eraseP_remove (h : ls.keys.Nodup) (id : Nat) (key : Option Endpoint) :
    (ls.remove id).eraseP (·.key = key) = remove id (ls.eraseP (·.key = key)) := by
  induction ls with
  | nil => rfl
  | cons l ls ih =>
    obtain ⟨hnotMem, hnodup⟩ := List.nodup_cons.mp h
    rw [remove_cons]
    by_cases hl : l.key = key
    · rw [List.eraseP_cons_of_pos (by simpa using hl)]
      split
      · -- The lane has vanished before, and no other has its key.
        have hgone : key ∉ keys (remove id ls) :=
          fun hmem => hnotMem (hl ▸ (keys_remove id ls).subset hmem)
        exact eraseP_key_of_notMem hgone
      · rw [List.eraseP_cons_of_pos (by simpa using hl)]
    · rw [List.eraseP_cons_of_neg (by simpa using hl), remove_cons]
      split
      · exact ih hnodup
      · rw [List.eraseP_cons_of_neg (by simpa using hl), ih hnodup]

/-! ### Putting back later -/

/-- Calls can join before or after one is put back, even under another fairness. -/
theorem push_restore (f g : Fairness) (w v : Waiter) (ls : Lanes) :
    (ls.restore f w).push g v = (ls.push g v).restore f w := by
  simp only [push, restore, waitersOf_join, join]
  by_cases h : f.key w = g.key v
  · rw [if_pos h, if_pos h, h, eraseP_join_self, List.cons_append]
  · rw [if_neg h, if_neg h, eraseP_join_of_ne (Ne.symm h), List.append_nil]

/-- Other calls can leave before or after one is put back. -/
theorem remove_restore (h : ls.keys.Nodup) (f : Fairness) {id : Nat} (hid : id ≠ w.id) :
    (ls.restore f w).remove id = (ls.remove id).restore f w := by
  simp only [restore, waitersOf_remove h, eraseP_remove h, remove_cons]
  rw [List.filter_cons_of_pos (by simpa using hid.symm), if_neg (List.cons_ne_nil _ _)]

theorem has_restore (f : Fairness) {id : Nat} (hid : id ≠ w.id) :
    (ls.restore f w).has id = ls.has id := by
  rw [Bool.eq_iff_iff, has_iff, has_iff, (ids_restore f w ls).mem_iff, List.mem_cons,
    or_iff_right hid]

end Lanes

namespace WaitingRoom

/-- What happens to waiting calls while one is out. -/
inductive Change where
  | push (fairness : Fairness) (w : Waiter)
  | remove (id : Nat)

/-- Another call than a given one leaves, if any does. -/
def Change.Spares (id : Nat) : Change → Prop
  | .push _ _ => True
  | .remove id' => id' ≠ id

/-- One change. If a call should leave that does not wait, there is none. -/
def change (r : WaitingRoom) : Change → WaitingRoom
  | .push fairness w => r.push fairness w
  | .remove id => (r.remove? id).getD r

/-- Changes one after the other. -/
def changes (r : WaitingRoom) (cs : List Change) : WaitingRoom := cs.foldl change r

variable {f : Fairness} {w : Waiter} {r : WaitingRoom}

theorem nodup_change (h : r.lanes.keys.Nodup) (c : Change) : (r.change c).lanes.keys.Nodup := by
  cases c with
  | push g v => exact Lanes.nodup_push h g v
  | remove id =>
    simp only [change, remove?]
    split
    · exact Lanes.nodup_remove h id
    · exact h

/-- A call can be put back before or after a change. -/
theorem restore_change (h : r.lanes.keys.Nodup) {c : Change} (hc : c.Spares w.id) :
    (r.change c).restore f w = (r.restore f w).change c := by
  cases c with
  | push g v => simp only [change, push, restore, Lanes.push_restore]
  | remove id =>
    simp only [change, remove?, restore, Lanes.has_restore f hc, Lanes.remove_restore h f hc]
    split
    · rfl
    · rfl

/-- A call can be put back before or after any changes. -/
theorem restore_changes (h : r.lanes.keys.Nodup) {cs : List Change}
    (hcs : ∀ c ∈ cs, c.Spares w.id) :
    (r.changes cs).restore f w = (r.restore f w).changes cs := by
  induction cs generalizing r with
  | nil => rfl
  | cons c cs ih =>
    obtain ⟨hc, hcs⟩ := List.forall_mem_cons.mp hcs
    calc ((r.change c).changes cs).restore f w
      _ = ((r.change c).restore f w).changes cs := ih (nodup_change h c) hcs
      _ = ((r.restore f w).change c).changes cs := by rw [restore_change h hc]

/-- A call that is put back at once is where it was. -/
theorem restore_of_pop (h : r.lanes.Tidy f) {left : WaitingRoom} (hpop : r.pop = some (w, left)) :
    left.restore f w = r := by
  obtain ⟨hlanes, hlen⟩ := pop_eq_some.mp hpop
  rw [restore, Lanes.restore_of_pop h hlanes, hlen]

/-- There is a next call unless no lane is left. If it is taken, and put back once others have
come and gone, the lanes and the count are what the others alone would have made of them. -/
theorem pop_restore_changes (htidy : r.lanes.Tidy f) (hocc : r.lanes.Occupied) :
    (r.pop = none ↔ r.lanes = []) ∧
      ∀ w left, r.pop = some (w, left) → ∀ cs, (∀ c ∈ cs, c.Spares w.id) →
        (left.changes cs).restore f w = r.changes cs := by
  refine ⟨?_, fun w left hpop cs hcs => ?_⟩
  · unfold pop
    rw [Option.map_eq_none_iff]
    constructor
    · intro hnone
      by_contra hne
      obtain ⟨w, rest, hsome⟩ := Lanes.exists_pop hocc hne
      rw [hsome] at hnone
      cases hnone
    · intro hnil
      rw [hnil]
      rfl
  · have hnodup : left.lanes.keys.Nodup := Lanes.nodup_of_pop htidy.nodup (pop_eq_some.mp hpop).1
    rw [restore_changes hnodup hcs, restore_of_pop htidy hpop]

/-- While the first call is out, both lanes vanish and come back the other way round. -/
theorem pop_restore_changes_catalog :
    let list : Endpoint := ⟨"catalog", "list", "1.0", "GET", ⟨[]⟩⟩
    let get : Endpoint := ⟨"catalog", "get", "1.0", "GET", ⟨[]⟩⟩
    let call (id : Nat) (e : Endpoint) : Waiter := ⟨id, e, .blank 0⟩
    let r : WaitingRoom :=
      ⟨[⟨some list, [call 0 list, call 1 list]⟩, ⟨some get, [call 2 get]⟩], 3⟩
    let left : WaitingRoom :=
      ⟨[⟨some get, [call 2 get]⟩, ⟨some list, [call 1 list]⟩], 3⟩
    let cs : List Change :=
      [.remove 1, .remove 2, .push .roundRobin (call 3 get), .push .roundRobin (call 4 list)]
    r.lanes.Tidy .roundRobin ∧ r.lanes.Occupied ∧ r.pop = some (call 0 list, left) ∧
      (∀ c ∈ cs, c.Spares 0) ∧
      (left.changes cs).lanes = [⟨some get, [call 3 get]⟩, ⟨some list, [call 4 list]⟩] ∧
      (left.changes cs).restore .roundRobin (call 0 list) =
        ⟨[⟨some list, [call 0 list, call 4 list]⟩, ⟨some get, [call 3 get]⟩], 3⟩ := by
  intro list get call r left cs
  have htidy : r.lanes.Tidy .roundRobin := ⟨by decide, by decide⟩
  have hocc : r.lanes.Occupied := by simp [r, Lanes.Occupied]
  have hcs : ∀ c ∈ cs, c.Spares 0 := by simp [cs, Change.Spares]
  exact ⟨htidy, hocc, rfl, hcs, rfl, (pop_restore_changes htidy hocc).2 _ left rfl cs hcs⟩

end WaitingRoom

end RpcPipeline
