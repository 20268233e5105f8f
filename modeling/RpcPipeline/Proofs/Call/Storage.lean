import Mathlib.Data.List.Count
import RpcPipeline.Call.Storage

/-!
# `RpcPipeline.Proofs.Call.Storage`: a change is seen through one handle only

The number that a storage keeps with a value is the number of handles that are out. So a handle
that is said to be the only one is the only one, and whatever is changed in place is seen by
nobody else. Every other change is made to a copy.

* `Storage.Holds`: which handles are out, each as often as it is listed.
* `Holds.put`, `Holds.share`, `Holds.release`, `Holds.set`: what an operation does to the
  handles that are out and to the values that they are on.
-/

set_option autoImplicit false

namespace RpcPipeline

namespace Storage

variable {τ : Type}

/-- The handles that are out, each as often as it is listed. -/
structure Holds (s : Storage τ) (held : List Mark) : Prop where
  counted : ∀ m, s.handles m = held.count m
  given : ∀ m ∈ held, m < s.next
  /-- A value without handles is gone. -/
  gone : ∀ m, m ∉ held → s.cells.get? m = none

variable {s : Storage τ} {held : List Mark} {m : Mark}

theorem empty_holds : (empty : Storage τ).Holds [] where
  counted _ := rfl
  given _ h := absurd h List.not_mem_nil
  gone _ _ := rfl

theorem Holds.perm {held' : List Mark} (h : s.Holds held) (hperm : held.Perm held') :
    s.Holds held' where
  counted m := (h.counted m).trans (hperm.count_eq m)
  given m hm := h.given m (hperm.mem_iff.mpr hm)
  gone m hm := h.gone m fun hmem => hm (hperm.mem_iff.mp hmem)

theorem handles_of_get? {c : Stored τ} (h : s.cells.get? m = some c) :
    s.handles m = c.handles := by
  rw [handles, h]
  rfl

/-- There is a value behind each handle. -/
theorem Holds.stored (h : s.Holds held) (hm : m ∈ held) :
    ∃ c, s.cells.get? m = some c ∧ c.handles = held.count m := by
  have hcounted := h.counted m
  cases hget : s.cells.get? m with
  | some c => exact ⟨c, rfl, (handles_of_get? hget).symm.trans hcounted⟩
  | none =>
    rw [handles, hget] at hcounted
    exact absurd hm (List.count_eq_zero.mp hcounted.symm)

/-- The mark of the next value has no handles. -/
theorem Holds.next_not_mem (h : s.Holds held) : s.next ∉ held := fun hmem =>
  Nat.lt_irrefl _ (h.given _ hmem)

/-! ### Handles come and go -/

theorem Holds.put (h : s.Holds held) (value : τ) : (s.put value).2.Holds (s.next :: held) where
  counted m := by
    have hcounted := h.counted m
    simp only [handles, Storage.put, Table.get?_insert, List.count_cons, beq_iff_eq] at hcounted ⊢
    by_cases heq : m = s.next
    · subst heq
      simp [List.count_eq_zero.mpr h.next_not_mem]
    · simp [heq, Ne.symm heq, hcounted]
  given m hm := by
    rcases List.mem_cons.mp hm with rfl | hm
    · exact Nat.lt_succ_self _
    · exact Nat.lt_succ_of_lt (h.given m hm)
  gone m hm := by
    obtain ⟨hne, hm⟩ := List.ne_and_not_mem_of_not_mem_cons hm
    rw [Storage.put, Table.get?_insert, if_neg hne]
    exact h.gone m hm

theorem Holds.share (h : s.Holds held) (hm : m ∈ held) : (s.share m).Holds (m :: held) where
  counted x := by
    obtain ⟨c, hget, hcount⟩ := h.stored hm
    have hcounted := h.counted x
    simp only [handles, Storage.share, Table.get?_modify, List.count_cons, beq_iff_eq] at hcounted ⊢
    by_cases heq : x = m
    · subst heq
      simp [hget, hcount]
    · simp [heq, Ne.symm heq, hcounted]
  given x hx := by
    rcases List.mem_cons.mp hx with rfl | hx
    · exact h.given x hm
    · exact h.given x hx
  gone x hx := by
    obtain ⟨hne, hx⟩ := List.ne_and_not_mem_of_not_mem_cons hx
    rw [Storage.share, Table.get?_modify, if_neg hne]
    exact h.gone x hx

theorem Holds.release (h : s.Holds (m :: held)) : (s.release m).Holds held := by
  have hgiven : ∀ x ∈ held, x < s.next := fun x hx => h.given x (List.mem_cons_of_mem m hx)
  have hothers : ∀ x, x ≠ m → s.handles x = held.count x := fun x hne => by
    rw [h.counted, List.count_cons_of_ne (Ne.symm hne)]
  have hlast : s.handles m = held.count m + 1 := by rw [h.counted, List.count_cons_self]
  unfold Storage.release
  split
  · -- The last handle takes the value along.
    next hone =>
    have hm : m ∉ held := List.count_eq_zero.mp (by omega)
    refine ⟨fun x => ?_, hgiven, fun x hx => ?_⟩
    · by_cases heq : x = m
      · subst heq
        simp [handles, List.count_eq_zero.mpr hm]
      · rw [← hothers x heq]
        simp [handles, heq]
    · rw [Table.get?_erase]
      split
      · rfl
      · next hne => exact h.gone x (List.not_mem_cons_of_ne_of_not_mem hne hx)
  · next hseveral =>
    have hm : m ∈ held := List.count_pos_iff.mp (by omega)
    obtain ⟨c, hget, -⟩ := h.stored List.mem_cons_self
    refine ⟨fun x => ?_, hgiven, fun x hx => ?_⟩
    · by_cases heq : x = m
      · subst heq
        have hcount : c.handles = held.count x + 1 := (handles_of_get? hget).symm.trans hlast
        simp [handles, hget, hcount]
      · rw [← hothers x heq]
        simp [handles, heq]
    · have hne : x ≠ m := fun heq => hx (heq ▸ hm)
      rw [Table.get?_modify, if_neg hne]
      exact h.gone x (List.not_mem_cons_of_ne_of_not_mem hne hx)

/-! ### Values -/

variable [Inhabited τ]

theorem read_put_self (s : Storage τ) (value : τ) : (s.put value).2.read s.next = value := by
  simp [read, put]

theorem Holds.read_put (h : s.Holds held) (value : τ) {x : Mark} (hx : x ∈ held) :
    (s.put value).2.read x = s.read x := by
  have hne : x ≠ s.next := Nat.ne_of_lt (h.given x hx)
  rw [read, Storage.put, Table.get?_insert, if_neg hne, read]

@[simp] theorem read_share (s : Storage τ) (m x : Mark) : (s.share m).read x = s.read x := by
  rw [read, share, Table.get?_modify, read]
  split
  · next heq =>
    subst heq
    cases s.cells.get? x <;> rfl
  · rfl

theorem Holds.read_release (h : s.Holds (m :: held)) {x : Mark} (hx : x ∈ held) :
    (s.release m).read x = s.read x := by
  have hlast : s.handles m = held.count m + 1 := by rw [h.counted, List.count_cons_self]
  unfold Storage.release
  split
  · next hone =>
    have hm : m ∉ held := List.count_eq_zero.mp (by omega)
    have hne : x ≠ m := fun heq => hm (heq ▸ hx)
    rw [read, Table.get?_erase, if_neg hne, read]
  · rw [read, Table.get?_modify, read]
    split
    · next heq =>
      subst heq
      cases s.cells.get? x <;> rfl
    · rfl

/-- A handle that is the only one on its value, in exchange for a given one. -/
theorem Holds.own (h : s.Holds (m :: held)) :
    (s.own m).2.Holds ((s.own m).1 :: held) ∧ (s.own m).1 ∉ held ∧
      ∀ x ∈ held, (s.own m).2.read x = s.read x := by
  unfold Storage.own
  split
  · next hone =>
    -- The count says that no other handle is out, and it is right.
    rw [h.counted, List.count_cons_self] at hone
    have halone : held.count m = 0 := by omega
    exact ⟨h, List.count_eq_zero.mp halone, fun x _ => rfl⟩
  · have hput := (h.put (s.read m)).perm (List.Perm.swap m s.next held)
    have hnew : s.next ∉ held := fun hmem => h.next_not_mem (List.mem_cons_of_mem m hmem)
    refine ⟨hput.release, hnew, fun x hx => ?_⟩
    exact (hput.read_release (List.mem_cons_of_mem s.next hx)).trans
      (h.read_put _ (List.mem_cons_of_mem m hx))

omit [Inhabited τ] in
theorem Holds.overwrite (h : s.Holds held) (m : Mark) (value : τ) :
    (s.overwrite m value).Holds held where
  counted x := by
    rw [← h.counted x, handles, Storage.overwrite, Table.get?_modify, handles]
    split
    · next heq =>
      subst heq
      cases s.cells.get? x <;> rfl
    · rfl
  given := h.given
  gone x hx := by
    rw [Storage.overwrite, Table.get?_modify]
    split
    · next heq =>
      subst heq
      rw [h.gone x hx]
      rfl
    · exact h.gone x hx

theorem read_overwrite_of_ne (s : Storage τ) (value : τ) {x : Mark} (hne : x ≠ m) :
    (s.overwrite m value).read x = s.read x := by
  rw [read, overwrite, Table.get?_modify, if_neg hne, read]

theorem Holds.read_overwrite (h : s.Holds held) (hm : m ∈ held) (value : τ) :
    (s.overwrite m value).read m = value := by
  obtain ⟨c, hget, -⟩ := h.stored hm
  simp [read, Storage.overwrite, hget]

/-- Who changes a value has the only handle on it afterwards, and nobody else sees the change. -/
theorem Holds.set (h : s.Holds (m :: held)) (value : τ) :
    (s.set m value).2.Holds ((s.set m value).1 :: held) ∧ (s.set m value).1 ∉ held ∧
      (s.set m value).2.read (s.set m value).1 = value ∧
      ∀ x ∈ held, (s.set m value).2.read x = s.read x := by
  obtain ⟨hholds, halone, hread⟩ := h.own
  refine ⟨hholds.overwrite _ value, halone, hholds.read_overwrite List.mem_cons_self value,
    fun x hx => ?_⟩
  have hne : x ≠ (s.own m).1 := fun heq => halone (heq ▸ hx)
  exact (read_overwrite_of_ne _ value hne).trans (hread x hx)

end Storage

end RpcPipeline
