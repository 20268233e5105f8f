/-!
# `RpcPipeline.Number.Binary`: floats as exact dyadic numbers

Every conversion between a float and a whole number of nanoseconds, and every
decimal text of a float, starts from the exact value `± mantissa * 2 ^ exponent`
that the float stands for. This module reads that value off the bits, and
rounds quotients of whole numbers.

* `roundDiv`: the whole number nearest to a quotient, a tie going to the even
  neighbour.
* `dyadic64?` / `dyadic32?`: the exact value of a finite float.
* `Dyadic.scaled`: the whole number nearest to `value * factor`.
-/

set_option autoImplicit false

namespace RpcPipeline.Number

/-- The whole number nearest to `num / den`; a quotient half way between two
whole numbers goes to the even one. -/
def roundDiv (num den : Nat) : Nat :=
  let quotient := num / den
  let rest := num % den
  if 2 * rest < den then quotient
  else if den < 2 * rest then quotient + 1
  else if quotient % 2 = 0 then quotient
  else quotient + 1

/-- A quotient without rest is not rounded. -/
theorem roundDiv_mul_self (k : Nat) {den : Nat} (h : 0 < den) : roundDiv (k * den) den = k := by
  simp [roundDiv, Nat.mul_div_cancel _ h, h]

/-- The number `± mantissa * 2 ^ exponent`. The sign is kept beside the
magnitude, so that a negative zero stays distinguishable. -/
structure Dyadic where
  negative : Bool
  mantissa : Nat
  exponent : Int
  deriving Repr, DecidableEq

/-- The exact value of a float given by its raw fields: `fractionBits` explicit
fraction bits and an exponent field biased by `bias`. `none` is returned for
infinities and for values that are no numbers, whose exponent field is
`topExponent`. -/
def Dyadic.ofFields (fractionBits : Nat) (bias topExponent : Nat)
    (negative : Bool) (exponentField fraction : Nat) : Option Dyadic :=
  if exponentField = topExponent then none
  else if exponentField = 0 then
    some ⟨negative, fraction, 1 - (bias + fractionBits : Nat)⟩
  else
    some ⟨negative, Nat.pow 2 fractionBits + fraction,
      (exponentField : Int) - (bias + fractionBits : Nat)⟩

/-- The exact value of a finite double-precision float. -/
def dyadic64? (x : Float) : Option Dyadic :=
  let bits := x.toBits.toNat
  Dyadic.ofFields 52 1023 2047 (Nat.pow 2 63 ≤ bits) (bits / Nat.pow 2 52 % 2048)
    (bits % Nat.pow 2 52)

/-- The exact value of a finite single-precision float. -/
def dyadic32? (x : Float32) : Option Dyadic :=
  let bits := x.toBits.toNat
  Dyadic.ofFields 23 127 255 (Nat.pow 2 31 ≤ bits) (bits / Nat.pow 2 23 % 256)
    (bits % Nat.pow 2 23)

/-- The magnitude as a quotient of whole numbers. -/
def Dyadic.numerator (d : Dyadic) : Nat := d.mantissa * Nat.pow 2 d.exponent.toNat

/-- The denominator that goes with `numerator`: a power of two. -/
def Dyadic.denominator (d : Dyadic) : Nat := Nat.pow 2 (-d.exponent).toNat

/-- The whole number nearest to `magnitude * factor`, ties to even. -/
def Dyadic.scaled (d : Dyadic) (factor : Nat) : Nat :=
  roundDiv (d.numerator * factor) d.denominator

/-- The whole part of the magnitude. -/
def Dyadic.floor (d : Dyadic) : Nat := d.numerator / d.denominator

end RpcPipeline.Number
