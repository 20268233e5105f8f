import RpcPipeline.Number.Decimal
import RpcPipeline.Time.Nanos

/-!
# `RpcPipeline.Number.Scalar`: the numbers that limits and delays are made of

Limits, penalties, ratios and jitter are fractional. The pipeline runs them in
double precision, but none of its rules depend on that: they are written for any
type with the operations of `Scalar`, so that a statement about them can be read
over exact numbers as well.

* `Scalar`: the operations that the rules need.
* `Scalar.smaller`, `Scalar.larger`, `Scalar.clamp`: choices between two numbers.
* `Scalar.seconds`: a span of time as a number of seconds.
-/

set_option autoImplicit false

namespace RpcPipeline

/-- The operations on fractional numbers that the rules of the pipeline need. -/
class Scalar (α : Type) extends Zero α, One α, Add α, Sub α, Mul α, Div α, LE α, LT α where
  decideLE : DecidableLE α
  decideLT : DecidableLT α
  /-- A whole number as a fractional one. -/
  ofNat : Nat → α
  /-- Whether the number is neither infinite nor undefined. -/
  isFinite : α → Bool
  /-- The largest whole number below, not less than zero. -/
  floor : α → Nat
  /-- A span of time, stretched by a factor. Where the product is not a span, the
  result is up to the type of numbers. -/
  stretch : Nanos → α → Nanos
  /-- The delay that follows a delay when delays grow by a factor. -/
  grow : α → Nanos → Nanos
  /-- What is left of a quantity that halves every `halfLife`, after `elapsed`. -/
  decay : α → (elapsed : Nanos) → (halfLife : Nanos) → α
  /-- Whether one number stands before another, or at the same place, in
  ascending order. Unlike `≤` it places every number. -/
  ranksBefore : α → α → Bool
  /-- The number as messages show it. -/
  text : α → String

attribute [reducible, instance] Scalar.decideLE Scalar.decideLT

namespace Scalar

variable {α : Type} [Scalar α]

/-- The smaller of two numbers; of an undefined number and another, the other. -/
def smaller (a b : α) : α := if a ≤ b then a else if b ≤ b then b else a

/-- The larger of two numbers; of an undefined number and another, the other. -/
def larger (a b : α) : α := if b ≤ a then a else if b ≤ b then b else a

/-- The number brought between two bounds. -/
def clamp (a low high : α) : α := if a < low then low else if high < a then high else a

/-- Whether a number lies between zero and one, both included. -/
def isShare (a : α) : Bool := decide (0 ≤ a) && decide (a ≤ 1)

end Scalar

namespace Number

/-- A span of time in seconds. -/
def seconds64 (span : Nanos) : Float :=
  Float.ofNat (span / Nanos.perSecond) + Float.ofNat (span % Nanos.perSecond) / 1e9

/-- A span of time in seconds, in single precision. -/
def seconds32 (span : Nanos) : Float32 :=
  Float32.ofNat (span / Nanos.perSecond) + Float32.ofNat (span % Nanos.perSecond) / 1e9

/-- The span nearest to a number of seconds, if the number is not negative and
its whole seconds fit in 64 bits. -/
def spanOfSeconds? (exact : Option Dyadic) : Option Nanos :=
  match exact with
  | none => none
  | some d =>
    if d.negative && d.mantissa ≠ 0 then none
    else
      let span := d.scaled Nanos.perSecond
      if span ≤ Nanos.longest then some span else none

/-- The place of a float in ascending order: undefined ones, then negative numbers
from the largest magnitude down, then positive ones, with the two zeros apart. -/
def rank (x : Float) : Int :=
  let bits := x.toBits.toNat
  -- Arithmetic makes undefined numbers with the sign bit set, which come first.
  if x.isNaN then -UInt64.size
  else if bits < UInt64.size / 2 then bits
  else UInt64.size / 2 - 1 - (bits : Int)

end Number

/-- Double-precision floats. Stretching multiplies in seconds and rounds the
product to the nearest nanosecond. Growing does the same in single precision,
and a delay that cannot be represented becomes the longest one. For a stretched
span there is no such rule: a program stops where the product is negative,
undefined or too long for a span. Here every product is a span, and the longest
one stands for those. -/
instance : Scalar Float where
  decideLE := Float.decLe
  decideLT := Float.decLt
  ofNat := Float.ofNat
  isFinite := Float.isFinite
  floor x := (Float.floor x).toUInt64.toNat
  stretch span factor :=
    (Number.spanOfSeconds? (Number.dyadic64? (factor * Number.seconds64 span))).getD Nanos.longest
  grow factor delay :=
    (Number.spanOfSeconds?
      (Number.dyadic32? (factor.toFloat32 * Number.seconds32 delay))).getD Nanos.longest
  decay value elapsed halfLife :=
    value * Float.pow 0.5 (Number.seconds64 elapsed / Number.seconds64 halfLife)
  ranksBefore a b := decide (Number.rank a ≤ Number.rank b)
  text := Number.Layout.message.render

end RpcPipeline
