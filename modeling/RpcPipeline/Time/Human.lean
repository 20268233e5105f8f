import RpcPipeline.Text.Blank
import RpcPipeline.Time.Nanos

/-!
# `RpcPipeline.Time.Human`: durations as people write them

A duration is written as a sum of spans, each a number and a unit: `1h 30m`,
`250ms`, `1.5 s`. Blanks may stand before a number, inside it, before the unit
and after it; a unit ends at the next digit or blank. The text `0` alone is the
empty duration.

* `parse?` reads such a text, one character at a time.
* `render` writes a duration in years, months, days, hours, minutes, seconds and
  below, leaving out parts that are zero.

Every number is held in 64 bits on the way, and a text that would need more is
refused.
-/

set_option autoImplicit false

namespace RpcPipeline.Human

open RpcPipeline.Text (isBlank)

/-- A unit of time as the reader counts it: small units in nanoseconds, large
ones in seconds. A span of a unit below the second has to fit in 64 bits of
nanoseconds. -/
structure Scale where
  /-- Seconds in one unit, for units that are counted in seconds. -/
  seconds : Nat
  /-- Nanoseconds in one unit, for units that are counted in nanoseconds. -/
  nanos : Nat
  /-- What a fraction of the unit is counted in: `none` if the unit cannot be
  divided, `some (true, n)` for `n` seconds, `some (false, n)` for `n`
  nanoseconds. -/
  fraction : Option (Bool × Nat)

/-- A unit counted in nanoseconds. -/
def Scale.small (n : Nat) : Scale := ⟨0, n, some (false, n)⟩

/-- A unit counted in seconds, the fractions of which come in seconds too. -/
def Scale.large (n : Nat) : Scale := ⟨n, 0, some (true, n)⟩

/-- The units and the words for them. -/
def units : List (List String × Scale) :=
  [ (["nanos", "nsec", "ns"], ⟨0, 1, none⟩),
    (["usec", "us", "µs"], .small 1000),
    (["millis", "msec", "ms"], .small 1000000),
    (["seconds", "second", "secs", "sec", "s"], ⟨1, 0, some (false, 1000000000)⟩),
    (["minutes", "minute", "min", "mins", "m"], ⟨60, 0, some (false, 60000000000)⟩),
    (["hours", "hour", "hr", "hrs", "h"], .large 3600),
    (["days", "day", "d"], .large 86400),
    (["weeks", "week", "wk", "wks", "w"], .large 604800),
    (["months", "month", "M"], .large 2630016),
    (["years", "year", "yr", "yrs", "y"], .large 31557600) ]

/-- The unit that a word names. -/
def scaleOf? (word : String) : Option Scale :=
  (units.find? fun (words, _) => words.contains word).map (·.2)

/-- Numbers are held in 64 bits. -/
def limit : Nat := UInt64.size

/-- A number, if it fits in 64 bits. -/
def fit (n : Nat) : Option Nat := if n < limit then some n else none

/-- The fraction digits of a number: the digits and the power of ten they are
divided by. -/
structure Fraction where
  numerator : Nat
  denominator : Nat

/-- Adds whole seconds and nanoseconds to a duration. -/
def addSpan (total : Nanos) (seconds nanos : Nat) : Option Nanos := do
  -- The nanoseconds are added first and carry into the seconds.
  let below ← fit (total % Nanos.perSecond + nanos)
  let whole ← fit (total / Nanos.perSecond + seconds + below / Nanos.perSecond)
  some (whole * Nanos.perSecond + below % Nanos.perSecond)

/-- Adds `n` units and a fraction of one to a duration. A fraction has to come
out as a whole number of what its unit is counted in. -/
def addUnits (total : Nanos) (scale : Scale) (n : Nat) (fraction : Option Fraction) :
    Option Nanos := do
  let total ← addSpan total (← fit (n * scale.seconds)) (← fit (n * scale.nanos))
  match fraction with
  | none => some total
  | some f =>
    let (inSeconds, perUnit) ← scale.fraction
    let amount ← fit (f.numerator * perUnit)
    if amount % f.denominator = 0 then
      let part := amount / f.denominator
      if inSeconds then addSpan total part 0 else addSpan total 0 part
    else none

/-- How far the reader has come. `total` is the sum of the spans read so far. -/
inductive Reading where
  /-- Before the number of a span; no sum yet at the start of the text. -/
  | between (total : Option Nanos)
  /-- In the whole part of a number. -/
  | whole (total : Nanos) (n : Nat)
  /-- In the fraction part of a number. -/
  | fraction (total : Nanos) (n : Nat) (f : Fraction)
  /-- In a unit, the letters of which are collected in reverse. -/
  | unit (total : Nanos) (n : Nat) (f : Option Fraction) (letters : List Char)

/-- The value of a decimal digit. -/
def digit? (c : Char) : Option Nat := if c.isDigit then some (c.toNat - 48) else none

/-- Letters of units. -/
def isUnitLetter (c : Char) : Bool := c.isAlpha || c = 'µ'

/-- Ends a span: looks its unit up and adds it to the sum. -/
def closeSpan (total : Nanos) (n : Nat) (f : Option Fraction) (letters : List Char) :
    Option Nanos := do
  addUnits total (← scaleOf? (String.ofList letters.reverse)) n f

/-- Reads one character. -/
def Reading.step (r : Reading) (c : Char) : Option Reading :=
  match r with
  | .between total =>
    match digit? c with
    | some d => some (.whole (total.getD 0) d)
    | none => if isBlank c then some (.between total) else none
  | .whole total n =>
    match digit? c with
    | some d => (fit (10 * n + d)).map (.whole total)
    | none =>
      if isBlank c then some (.whole total n)
      else if c = '.' then some (.fraction total n ⟨0, 1⟩)
      else if isUnitLetter c then some (.unit total n none [c])
      else none
  | .fraction total n f =>
    match digit? c with
    | some d => do
      let denominator ← fit (10 * f.denominator)
      let numerator ← fit (10 * f.numerator + d)
      some (.fraction total n ⟨numerator, denominator⟩)
    | none =>
      if isBlank c then some (.fraction total n f)
      -- A denominator of one means that no digit has followed the point.
      else if isUnitLetter c && f.denominator ≠ 1 then some (.unit total n (some f) [c])
      else none
  | .unit total n f letters =>
    match digit? c with
    -- A digit ends the unit and begins the next span.
    | some d => (closeSpan total n f letters).map (.whole · d)
    | none =>
      if isBlank c then (closeSpan total n f letters).map (.between <| some ·)
      else if isUnitLetter c then some (.unit total n f (c :: letters))
      else none

/-- The duration read once the text has ended. -/
def Reading.finish (r : Reading) : Option Nanos :=
  match r with
  | .between total => total
  | .unit total n f letters => closeSpan total n f letters
  | _ => none

/-- Reads a duration. -/
def parse? (text : String) : Option Nanos :=
  if text = "0" then some 0
  else do (← text.toList.foldlM Reading.step (.between none)).finish

/-- The parts of a duration, from years down to nanoseconds, each with the word
for it. Years, months and days take an `s` above one. -/
def parts (span : Nanos) : List (Nat × String) :=
  let seconds := span / Nanos.perSecond
  let nanos := span % Nanos.perSecond
  let inYear := seconds % 31557600
  let inMonth := inYear % 2630016
  let inDay := inMonth % 86400
  let plural (n : Nat) (word : String) : Nat × String := (n, if 1 < n then word ++ "s" else word)
  [ plural (seconds / 31557600) "year", plural (inYear / 2630016) "month",
    plural (inMonth / 86400) "day", (inDay / 3600, "h"), (inDay % 3600 / 60, "m"),
    (inDay % 60, "s"), (nanos / 1000000, "ms"), (nanos / 1000 % 1000, "us"),
    (nanos % 1000, "ns") ]

/-- Writes a duration; the empty one is `0s`. -/
def render (span : Nanos) : String :=
  if span = 0 then "0s"
  else " ".intercalate <|
    ((parts span).filter (·.1 ≠ 0)).map fun (n, word) => toString n ++ word

end RpcPipeline.Human
