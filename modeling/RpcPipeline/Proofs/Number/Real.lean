import RpcPipeline.Proofs.Number.Exact

/-!
# `RpcPipeline.Proofs.Number.Real`: numbers that stand for real numbers

A score is a sum, and hosts are ordered by their scores. In double precision such a sum is
rounded, and a small random share can be lost beside a large load. `Scalar.Exact` puts down
what it means that nothing is lost: every number stands for a real number, and is added,
divided and compared like it.

* `Scalar.Exact`: exact arithmetic.
* `Scalar.ranksBefore_total`, `Scalar.ranksBefore_trans`: exact numbers are in order.
* `RandomStream.unit53_mem`: a number that is drawn is less than one.
-/

set_option autoImplicit false

namespace RpcPipeline

namespace Scalar

/-- What scores are made of is exact: every number stands for a real number. -/
class Exact (α : Type) [Scalar α] where
  /-- The real number that a number stands for. -/
  value : α → ℝ
  value_zero : value 0 = 0
  value_ofNat : ∀ n : Nat, value (Scalar.ofNat n) = n
  value_add : ∀ a b : α, value (a + b) = value a + value b
  value_div : ∀ a b : α, value (a / b) = value a / value b
  ranksBefore_iff : ∀ a b : α, Scalar.ranksBefore a b = true ↔ value a ≤ value b
  /-- What is left of a quantity after a while is a share of it. -/
  value_decay : ∀ elapsed halfLife : Nanos, ∃ share : ℝ,
    ∀ a : α, value (Scalar.decay a elapsed halfLife) = value a * share

/-- Fractions are exact. -/
instance : Exact Rat where
  value := Rat.cast
  value_zero := Rat.cast_zero
  value_ofNat := Rat.cast_natCast
  value_add := Rat.cast_add
  value_div := Rat.cast_div
  ranksBefore_iff a b := decide_eq_true_iff.trans Rat.cast_le.symm
  value_decay elapsed halfLife := by
    -- The share is what is left of one.
    refine ⟨((decay (1 : Rat) elapsed halfLife : Rat) : ℝ), fun a => ?_⟩
    have hshare : decay a elapsed halfLife = a * decay 1 elapsed halfLife := by
      simp only [decay]
      ring
    rw [hshare]
    exact Rat.cast_mul _ _

/-- Real numbers, of which messages show the whole part. A quantity halves every half-life, and
decays at every moment in between. -/
noncomputable instance : Scalar ℝ where
  decideLE := Classical.decRel _
  decideLT := Classical.decRel _
  ofNat n := n
  isFinite _ := true
  floor x := ⌊x⌋₊
  stretch span factor := ⌊(span : ℝ) * factor⌋₊
  grow factor delay := min Nanos.longest ⌊factor * (delay : ℝ)⌋₊
  decay value elapsed halfLife := value * (1 / 2) ^ ((elapsed : ℝ) / (halfLife : ℝ))
  ranksBefore a b := @decide (a ≤ b) (Classical.dec _)
  text x := toString ⌊x⌋

noncomputable instance : Exact ℝ where
  value x := x
  value_zero := rfl
  value_ofNat _ := rfl
  value_add _ _ := rfl
  value_div _ _ := rfl
  ranksBefore_iff _ _ := decide_eq_true_iff
  value_decay elapsed halfLife := ⟨(1 / 2) ^ ((elapsed : ℝ) / (halfLife : ℝ)), fun _ => rfl⟩

variable {α : Type} [Scalar α] [Exact α]

theorem ranksBefore_total (a b : α) : (ranksBefore a b || ranksBefore b a) = true := by
  rw [Bool.or_eq_true, Exact.ranksBefore_iff, Exact.ranksBefore_iff]
  exact le_total (Exact.value a) (Exact.value b)

theorem ranksBefore_trans (a b c : α) (hab : ranksBefore a b = true)
    (hbc : ranksBefore b c = true) : ranksBefore a c = true := by
  rw [Exact.ranksBefore_iff] at hab hbc ⊢
  exact hab.trans hbc

/-- Nothing is left of nothing. -/
theorem value_decay_zero {a : α} (h : Exact.value a = 0) (elapsed halfLife : Nanos) :
    Exact.value (decay a elapsed halfLife) = 0 := by
  obtain ⟨share, hshare⟩ := Exact.value_decay (α := α) elapsed halfLife
  rw [hshare, h, zero_mul]

end Scalar

/-- A number that is drawn is not negative and less than one. -/
theorem RandomStream.unit53_mem {α : Type} [Scalar α] [Scalar.Exact α] (s : RandomStream) :
    0 ≤ Scalar.Exact.value (s.unit53 : α × RandomStream).1 ∧
      Scalar.Exact.value (s.unit53 : α × RandomStream).1 < 1 := by
  have hdraw : Scalar.Exact.value (s.unit53 : α × RandomStream).1 =
      ((s.next64.1 / Nat.pow 2 11 : Nat) : ℝ) / ((Nat.pow 2 53 : Nat) : ℝ) := by
    show Scalar.Exact.value
      (Scalar.ofNat (s.next64.1 / Nat.pow 2 11) / Scalar.ofNat (Nat.pow 2 53) : α) = _
    rw [Scalar.Exact.value_div, Scalar.Exact.value_ofNat, Scalar.Exact.value_ofNat]
  have hbits : s.next64.1 / Nat.pow 2 11 < Nat.pow 2 53 := by
    refine Nat.div_lt_of_lt_mul (s.next64_lt.trans_eq ?_)
    decide
  have hpos : (0 : ℝ) < ((Nat.pow 2 53 : Nat) : ℝ) := Nat.cast_pos.mpr (by decide)
  rw [hdraw]
  exact ⟨div_nonneg (Nat.cast_nonneg _) hpos.le, (div_lt_one hpos).mpr (Nat.cast_lt.mpr hbits)⟩

end RpcPipeline
