import Mathlib
import RpcPipeline.Proofs.Number.Ordered
import RpcPipeline.Random.Stream

/-!
# `RpcPipeline.Proofs.Number.Exact`: exact numbers

The rules of a pipeline are written for any type of numbers. Over fractions every one of
them can be evaluated within a proof, which double precision does not allow.
-/

set_option autoImplicit false

namespace RpcPipeline

/-- Fractions. Spans are cut off to whole nanoseconds. A quantity halves every half-life, and in
between it falls at an even rate. -/
instance : Scalar Rat where
  decideLE := inferInstance
  decideLT := inferInstance
  ofNat n := n
  isFinite _ := true
  floor x := x.floor.toNat
  stretch span factor := ((span : Rat) * factor).floor.toNat
  grow factor delay := min Nanos.longest (factor * (delay : Rat)).floor.toNat
  decay value elapsed halfLife :=
    value / 2 ^ (elapsed / halfLife) * (1 - ((elapsed % halfLife : Nat) : Rat) / halfLife / 2)
  ranksBefore a b := decide (a ≤ b)
  text x := toString x

/-- Fractions are ordered, and every one of them is defined. -/
instance : Scalar.Ordered Rat where
  le_trans hab hbc := hab.trans hbc
  defined_left _ := le_refl _
  defined_right _ := le_refl _
  not_lt _ _ := not_lt
  le_add_inv {a} ha := by
    have hpos : 0 < a := zero_lt_one.trans_le ha
    exact le_add_of_nonneg_right (one_div_pos.mpr hpos).le
  mul_le {a r} ha hpos hlt := by
    have hnonneg : 0 ≤ a := zero_le_one.trans ha
    exact mul_le_of_le_one_right hnonneg hlt.le

namespace Scalar

variable {span : Nanos} {a b : Rat}

/-- Cutting off a whole number leaves it as it is. -/
theorem toNat_floor_natCast (n : Nat) : (n : Rat).floor.toNat = n :=
  congrArg Int.toNat (Rat.floor_intCast (n : Int))

/-- Cutting off makes a number no larger. -/
theorem toNat_floor_le (h : 0 ≤ a) : (a.floor.toNat : Rat) ≤ a := by
  have hnonneg : 0 ≤ a.floor := Rat.le_floor_iff.mpr h
  rw [← Int.cast_natCast, Int.toNat_of_nonneg hnonneg]
  exact Rat.floor_le a

/-- A span grows by no more than the factor. -/
theorem grow_le (h : 0 ≤ a) : (grow a span : Rat) ≤ a * span := by
  have hmin : grow a span ≤ (a * (span : Rat)).floor.toNat := Nat.min_le_right _ _
  exact (Nat.cast_le.mpr hmin).trans (toNat_floor_le (mul_nonneg h (Nat.cast_nonneg span)))

/-- A span is stretched by no more than the factor. -/
theorem stretch_le (h : 0 ≤ a) : (stretch span a : Rat) ≤ span * a :=
  toNat_floor_le (mul_nonneg (Nat.cast_nonneg span) h)

/-- A factor of one changes nothing. -/
theorem stretch_one : stretch span (1 : Rat) = span := by
  show ((span : Rat) * 1).floor.toNat = span
  rw [mul_one, toNat_floor_natCast]

/-- A larger factor stretches no less. -/
theorem stretch_le_stretch (h : a ≤ b) : stretch span a ≤ stretch span b :=
  Int.toNat_le_toNat (Rat.floor_monotone (mul_le_mul_of_nonneg_left h (Nat.cast_nonneg span)))

/-- A factor of one or more does not shorten. -/
theorem le_stretch (h : 1 ≤ a) : span ≤ stretch span a :=
  calc span = stretch span (1 : Rat) := stretch_one.symm
    _ ≤ stretch span a := stretch_le_stretch h

/-- Cutting off to whole nanoseconds makes no difference to a comparison with a span that is
not shorter than the one that is stretched. -/
theorem stretch_lt_iff {n : Nanos} (h : span ≤ n) :
    stretch span a < n ↔ (span : Rat) * a < n := by
  show ((span : Rat) * a).floor.toNat < n ↔ (span : Rat) * a < n
  rcases Nat.eq_zero_or_pos n with rfl | hpos
  · -- Both sides are zero, and no factor stretches that.
    have hspan : span = 0 := Nat.le_zero.mp h
    simp [hspan]
  · rw [Int.toNat_lt' hpos, Rat.floor_lt_iff, Int.cast_natCast]

/-- Whatever is left at some time, half of it is left a half-life later. -/
theorem decay_add_halfLife {halfLife : Nanos} (h : 0 < halfLife) (elapsed : Nanos) :
    decay a (elapsed + halfLife) halfLife = decay a elapsed halfLife / 2 := by
  show a / 2 ^ ((elapsed + halfLife) / halfLife) *
      (1 - (((elapsed + halfLife) % halfLife : Nat) : Rat) / halfLife / 2) =
    a / 2 ^ (elapsed / halfLife) * (1 - ((elapsed % halfLife : Nat) : Rat) / halfLife / 2) / 2
  rw [Nat.add_div_right elapsed h, Nat.add_mod_right, pow_succ]
  ring

example : [0, 1, 2, 3, 4].map (fun elapsed => decay (8 : Rat) elapsed 2) = [8, 6, 4, 3, 2] := by
  decide +kernel

theorem smaller_eq_min : smaller a b = min a b := by
  unfold smaller
  rw [if_pos (le_refl b)]
  split
  · next hle => exact (min_eq_left hle).symm
  · next hnot => exact (min_eq_right (not_le.mp hnot).le).symm

end Scalar

namespace RandomStream

theorem next64_lt (s : RandomStream) : s.next64.1 < UInt32.size * UInt32.size := by
  have hlow : s.next32.1 < UInt32.size := (s.word s.position).toNat_lt
  have hhigh : s.next32.2.next32.1 < UInt32.size := (s.word (s.position + 1)).toNat_lt
  have hupper : UInt32.size * s.next32.2.next32.1 + UInt32.size ≤ UInt32.size * UInt32.size := by
    rw [← Nat.mul_succ]
    exact Nat.mul_le_mul_left _ hhigh
  show s.next32.1 + UInt32.size * s.next32.2.next32.1 < UInt32.size * UInt32.size
  omega

/-- A number that is drawn lies between zero and one. -/
theorem unit52_mem (s : RandomStream) :
    0 ≤ (s.unit52 : Rat × RandomStream).1 ∧ (s.unit52 : Rat × RandomStream).1 ≤ 1 := by
  have hdraw : (s.unit52 : Rat × RandomStream).1 =
      ((s.next64.1 / Nat.pow 2 12 : Nat) : Rat) / ((Nat.pow 2 52 : Nat) : Rat) := rfl
  have hbits : s.next64.1 / Nat.pow 2 12 ≤ Nat.pow 2 52 := by
    refine Nat.div_le_of_le_mul (Nat.le_of_lt (s.next64_lt.trans_eq ?_))
    decide
  rw [hdraw]
  exact ⟨div_nonneg (Nat.cast_nonneg _) (Nat.cast_nonneg _),
    div_le_one_of_le₀ (Nat.cast_le.mpr hbits) (Nat.cast_nonneg _)⟩

end RandomStream

end RpcPipeline
