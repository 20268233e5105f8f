import RpcPipeline.Number.Shortest

/-!
# `RpcPipeline.Number.Decimal`: decimal texts of floats

The digits of a float are always its shortest ones; texts differ only in how the
digits are laid out. A `Layout` says which decimal points are written in
position, whether a whole number keeps its point, and how an exponent is signed.

* `Layout.message`: how messages show a number, never with an exponent.
* `Layout.debug`: how debug texts show a number.
* `Layout.value`: how a rejected configuration value is quoted.
-/

set_option autoImplicit false

namespace RpcPipeline.Number

/-- How the digits of a float are laid out. -/
structure Layout where
  /-- Whether a number whose decimal point stands at this position (relative to
  its first digit) is written without an exponent. -/
  positional : Int → Bool
  /-- Whether a whole number ends in `.0`. -/
  keepPoint : Bool
  /-- Whether an exponent that is not negative has a plus sign. -/
  plusSign : Bool

/-- Messages write every number in position and whole numbers bare. -/
def Layout.message : Layout := ⟨fun _ => true, false, false⟩

/-- Debug texts write numbers from `0.0001` up to, but without, `10 ^ 16` in
position, and whole numbers with `.0`. -/
def Layout.debug : Layout := ⟨fun point => decide (-3 ≤ point ∧ point ≤ 16), true, false⟩

/-- Rejected values are quoted in position from `0.00001` up to, but without,
`10 ^ 16`, and whole numbers with `.0`. An exponent always has a sign. -/
def Layout.value : Layout := ⟨fun point => decide (-4 ≤ point ∧ point ≤ 16), true, true⟩

/-- A decimal written without exponent: zeros are filled in on the side where
the point lies outside the digits. -/
def Decimal.inPosition (d : Decimal) (keepPoint : Bool) : String :=
  let text := toString d.digits
  let length := text.length
  if d.point ≤ 0 then
    "0." ++ String.ofList (List.replicate (-d.point).toNat '0') ++ text
  else if length ≤ d.point.toNat then
    let whole := text ++ String.ofList (List.replicate (d.point.toNat - length) '0')
    if keepPoint then whole ++ ".0" else whole
  else
    let cs := text.toList
    String.ofList (cs.take d.point.toNat) ++ "." ++ String.ofList (cs.drop d.point.toNat)

/-- A decimal written with one digit before the point and a power of ten. -/
def Decimal.scientific (d : Decimal) (plusSign : Bool) : String :=
  let exponent := (if plusSign && 1 ≤ d.point then "+" else "") ++ toString (d.point - 1)
  match (toString d.digits).toList with
  | [] => "0e" ++ exponent
  | [c] => String.singleton c ++ "e" ++ exponent
  | c :: rest => String.singleton c ++ "." ++ String.ofList rest ++ "e" ++ exponent

/-- The text of a float in a layout. -/
def Layout.render (layout : Layout) (x : Float) : String :=
  match dyadic64? x with
  | none =>
    if x.isNaN then "NaN" else if x < 0.0 then "-inf" else "inf"
  | some d =>
    let sign := if d.negative then "-" else ""
    if d.mantissa = 0 then
      sign ++ (if layout.keepPoint then "0.0" else "0")
    else
      let decimal := shortest d
      sign ++ (if layout.positional decimal.point then decimal.inPosition layout.keepPoint
        else decimal.scientific layout.plusSign)

end RpcPipeline.Number
