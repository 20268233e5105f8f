import RpcPipeline.Text.Pieces

/-!
# `RpcPipeline.Proofs.Text.Pieces`: a text comes apart at its separators

The pieces of a text are those that `List.splitOnP` finds (`pieces_eq_splitOnP`). There is no
separator inside a piece (`notMem_of_mem_splitOn`). And where texts without separators were
written one after the other, each behind a separator, they are what the result comes apart
into, with nothing before the first separator (`splitOn_flatMap`).
-/

set_option autoImplicit false

namespace RpcPipeline.Text

theorem pieces_eq_splitOnP (separates : Char → Bool) (cs : List Char) :
    pieces separates cs = cs.splitOnP separates := by
  induction cs with
  | nil => rfl
  | cons c rest ih =>
    rw [pieces, ih, List.splitOnP_cons_eq_if_modifyHead]
    cases hrest : rest.splitOnP separates with
    | nil => exact absurd hrest (List.splitOnP_ne_nil _ _)
    | cons first others => rfl

variable {separator : Char}

theorem pieces_eq_splitOn (cs : List Char) :
    pieces (· = separator) cs = cs.splitOn separator := by
  rw [pieces_eq_splitOnP, List.splitOn_eq_splitOnP]
  rfl

/-- No piece holds a separator. -/
theorem notMem_of_mem_splitOn {cs piece : List Char} (h : piece ∈ cs.splitOn separator) :
    separator ∉ piece := by
  induction cs generalizing piece with
  | nil =>
    rw [List.splitOn_nil, List.mem_singleton] at h
    rw [h]
    exact List.not_mem_nil
  | cons c rest ih =>
    rw [List.splitOn_cons_eq_if_modifyHead] at h
    cases hrest : rest.splitOn separator with
    | nil => exact absurd hrest (List.splitOn_ne_nil _ _)
    | cons first others =>
      rw [hrest] at h ih
      split at h
      · rcases List.mem_cons.mp h with rfl | h
        · exact List.not_mem_nil
        · exact ih h
      · next hne =>
        rw [List.modifyHead_cons] at h
        rcases List.mem_cons.mp h with rfl | h
        · -- What was put in front of the first piece is not a separator.
          rw [List.mem_cons, not_or]
          exact ⟨fun heq => hne (beq_iff_eq.mpr heq.symm), ih List.mem_cons_self⟩
        · exact ih (List.mem_cons_of_mem first h)

theorem splitOn_append_flatMap {first : List Char} {others : List (List Char)}
    (hfirst : separator ∉ first) (hothers : ∀ piece ∈ others, separator ∉ piece) :
    (first ++ others.flatMap (separator :: ·)).splitOn separator = first :: others := by
  induction others generalizing first with
  | nil => rw [List.flatMap_nil, List.append_nil, List.splitOn_eq_singleton hfirst]
  | cons second others ih =>
    rw [List.forall_mem_cons] at hothers
    rw [List.flatMap_cons, List.cons_append, List.splitOn_append_cons_self_of_not_mem hfirst,
      ih hothers.1 hothers.2]

/-- Pieces that were each written behind a separator are found again. -/
theorem splitOn_flatMap {written : List (List Char)} (h : ∀ piece ∈ written, separator ∉ piece) :
    (written.flatMap (separator :: ·)).splitOn separator = [] :: written :=
  splitOn_append_flatMap List.not_mem_nil h

end RpcPipeline.Text
