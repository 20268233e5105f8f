/-!
# `RpcPipeline.Uri.Punycode`: international labels in ASCII

A label with characters outside ASCII is written with its ASCII characters
first, then a series of numbers that say which other character goes where. Each
number is the distance to the next insertion, counted through all places of the
text for one character before it turns to the next. The digits of a number run
from the lowest up, and a digit below its threshold ends it.

* `encode`: the ASCII form of a label.
* `decode?`: the label of an ASCII form.
-/

set_option autoImplicit false

namespace RpcPipeline.Punycode

/-- A digit from 0 to 35 as a character. -/
def digitChar (d : Nat) : Char :=
  if d < 26 then Char.ofNat (97 + d) else Char.ofNat (22 + d)

/-- The value of a digit; letters stand before numerals. -/
def digitValue? (c : Char) : Option Nat :=
  let n := c.toNat
  if 97 ≤ n && n ≤ 122 then some (n - 97)
  else if 65 ≤ n && n ≤ 90 then some (n - 65)
  else if 48 ≤ n && n ≤ 57 then some (n - 22)
  else none

/-- The threshold of the digit at a place. -/
def threshold (place bias : Nat) : Nat :=
  let base := 36 * (place + 1)
  if base ≤ bias + 1 then 1 else if bias + 26 ≤ base then 26 else base - bias

theorem threshold_pos (place bias : Nat) : 0 < threshold place bias := by
  simp only [threshold]
  split
  · decide
  · split <;> omega

/-- Divides by 35 until at most 455 is left, counting 36 for each division. -/
def settle (delta count : Nat) : Nat :=
  if h : 455 < delta then settle (delta / 35) (count + 36)
  else count + 36 * delta / (delta + 38)
termination_by delta
decreasing_by omega

/-- The bias after a number: it follows the size of the numbers. -/
def adapt (delta places : Nat) (first : Bool) : Nat :=
  let delta := if first then delta / 700 else delta / 2
  settle (delta + delta / places) 0

/-- The digits of a number, the lowest first. -/
def digits (number place bias : Nat) : List Char :=
  let t := threshold place bias
  if h : number < t then [digitChar number]
  else
    digitChar (t + (number - t) % (36 - t)) :: digits ((number - t) / (36 - t)) (place + 1) bias
termination_by number
decreasing_by
  have := threshold_pos place bias
  have := Nat.div_le_self (number - threshold place bias) (36 - threshold place bias)
  show (number - threshold place bias) / (36 - threshold place bias) < number
  have : ¬number < threshold place bias := h
  omega

/-- How far the writer has come: the distance since the last insertion, the
bias, and the number of characters written. -/
structure Writing where
  delta : Nat
  bias : Nat
  done : Nat
  text : List Char

/-- Walks over a label once for the character numbered `n`, and writes a number
at each place where it stands. -/
def Writing.pass (n : Nat) (label : List Char) (w : Writing) (basic : Nat) : Writing :=
  label.foldl
    (fun w c =>
      if c.toNat < n then { w with delta := w.delta + 1 }
      else if c.toNat = n then
        { delta := 0, bias := adapt w.delta (w.done + 1) (w.done == basic), done := w.done + 1,
          text := w.text ++ digits w.delta 0 w.bias }
      else w)
    w

/-- Writes all characters of a list of ascending numbers. -/
def Writing.run (label : List Char) (basic : Nat) : List Nat → (reached : Nat) → Writing → Writing
  | [], _, w => w
  | n :: rest, reached, w =>
    -- Each character number that is skipped costs one walk over the text so far.
    let w := { w with delta := w.delta + (n - reached) * (w.done + 1) }
    let w := w.pass n label basic
    run label basic rest (n + 1) { w with delta := w.delta + 1 }

/-- The ASCII form of a label, without what marks it as such. -/
def encode (label : List Char) : List Char :=
  let ascii := label.filter (·.toNat < 128)
  let others := ((label.filter (128 ≤ ·.toNat)).map Char.toNat).mergeSort.eraseDups
  let head := if ascii.isEmpty then [] else ascii ++ ['-']
  let start : Writing := { delta := 0, bias := 72, done := ascii.length, text := head }
  (Writing.run label ascii.length others 128 start).text

/-- How far the reader has come. `place` and `weight` belong to the number being
read, `index` counts through the places. -/
structure Reading where
  text : List Char
  code : Nat
  index : Nat
  bias : Nat
  start : Nat
  place : Nat
  weight : Nat

/-- Reads one digit; at the end of a number, inserts its character. -/
def Reading.step (r : Reading) (c : Char) : Option Reading := do
  let digit ← digitValue? c
  let index := r.index + digit * r.weight
  -- Distances and weights beyond 32 bits are refused.
  if UInt32.size ≤ index then none
  let t := threshold r.place r.bias
  if t ≤ digit then
    let weight := r.weight * (36 - t)
    if UInt32.size ≤ weight then none
    some { r with index := index, place := r.place + 1, weight := weight }
  else
    -- The number is complete: whole rounds raise the character, the rest is the place.
    let places := r.text.length + 1
    let code := r.code + index / places
    if h : code.isValidChar then
      some
        { text := r.text.insertIdx (index % places) (Char.ofNatAux code h)
          code := code
          index := index % places + 1
          bias := adapt (index - r.start) places (r.start == 0)
          start := index % places + 1
          place := 0
          weight := 1 }
    else none

/-- The label of an ASCII form. A number must not break off, and the hyphen before
the numbers must end some ASCII characters. -/
def decode? (form : List Char) : Option (List Char) := do
  let tail := (form.reverse.takeWhile (· ≠ '-')).reverse
  let head := form.take (form.length - tail.length - 1)
  if form.head? = some '-' && head.isEmpty then none
  if !head.all (·.toNat < 128) then none
  let r ← tail.foldlM Reading.step
    { text := head, code := 128, index := 0, bias := 72, start := 0, place := 0, weight := 1 }
  -- Otherwise the last number broke off.
  if r.place = 0 then some r.text else none

end RpcPipeline.Punycode
