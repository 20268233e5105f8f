import RpcPipeline.Number.Scalar

/-!
# `RpcPipeline.Proofs.Number.Ordered`: numbers that are ordered

The rules of a pipeline compare numbers, add their inverses to them and multiply them by
ratios. `Scalar.Ordered` puts down what can be relied on. A number that is not at most
itself is an undefined one, so nothing here says that two numbers can be compared at all.
`Proofs/Number/Exact` has the laws for fractions, and `Proofs/Number/Double` for doubles.

* `clamp_eq_self`, `le_clamp`, `clamp_le`: a number brought between two bounds.
* `le_smaller`, `smaller_le`, `le_larger`, `larger_le`: choices between two numbers.
-/

set_option autoImplicit false

namespace RpcPipeline

namespace Scalar

/-- The laws that the rules rely on. What is compared is defined, and of two defined
numbers one is at most the other. -/
class Ordered (α : Type) [Scalar α] : Prop where
  le_trans : ∀ {a b c : α}, a ≤ b → b ≤ c → a ≤ c
  defined_left : ∀ {a b : α}, a ≤ b → a ≤ a
  defined_right : ∀ {a b : α}, a ≤ b → b ≤ b
  not_lt : ∀ {a b : α}, a ≤ a → b ≤ b → (¬a < b ↔ b ≤ a)
  /-- Adding its inverse to a number from one on does not make it smaller. -/
  le_add_inv : ∀ {a : α}, 1 ≤ a → a ≤ a + 1 / a
  /-- Neither does a ratio below one make it larger. -/
  mul_le : ∀ {a r : α}, 1 ≤ a → 0 < r → r < 1 → a * r ≤ a

variable {α : Type} [Scalar α] [Ordered α] {a b low high : α}

/-- A number between the bounds stays as it is. -/
theorem clamp_eq_self (hlow : low ≤ a) (hhigh : a ≤ high) : clamp a low high = a := by
  have ha := Ordered.defined_right hlow
  have hnotLow : ¬a < low := (Ordered.not_lt ha (Ordered.defined_left hlow)).mpr hlow
  have hnotHigh : ¬high < a := (Ordered.not_lt (Ordered.defined_right hhigh) ha).mpr hhigh
  rw [clamp, if_neg hnotLow, if_neg hnotHigh]

theorem le_clamp (ha : a ≤ a) (hbounds : low ≤ high) : low ≤ clamp a low high := by
  unfold clamp
  split
  · exact Ordered.defined_left hbounds
  · next hnot =>
    split
    · exact hbounds
    · exact (Ordered.not_lt ha (Ordered.defined_left hbounds)).mp hnot

theorem clamp_le (ha : a ≤ a) (hbounds : low ≤ high) : clamp a low high ≤ high := by
  unfold clamp
  split
  · exact hbounds
  · split
    · exact Ordered.defined_right hbounds
    · next hnot => exact (Ordered.not_lt (Ordered.defined_right hbounds) ha).mp hnot

omit [Ordered α] in
theorem smaller_le (hb : b ≤ b) : smaller a b ≤ b := by
  unfold smaller
  rw [if_pos hb]
  split
  · assumption
  · exact hb

theorem le_smaller {c : α} (ha : c ≤ a) (hb : c ≤ b) : c ≤ smaller a b := by
  unfold smaller
  split
  · exact ha
  · rw [if_pos (Ordered.defined_right hb)]
    exact hb

omit [Ordered α] in
theorem le_larger (hb : b ≤ b) : b ≤ larger a b := by
  unfold larger
  rw [if_pos hb]
  split
  · assumption
  · exact hb

theorem larger_le {c : α} (ha : a ≤ c) (hb : b ≤ c) : larger a b ≤ c := by
  unfold larger
  split
  · exact ha
  · rw [if_pos (Ordered.defined_left hb)]
    exact hb

end Scalar

end RpcPipeline
