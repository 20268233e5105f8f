import RpcPipeline.Data.Value
import RpcPipeline.Table
import RpcPipeline.Text.Percent

/-!
# `RpcPipeline.Data.Json`: plain data as JSON text

Plain data is read from JSON text and written to it. Of several entries of an
object under one name the last counts. A number with a point or an exponent is a
fractional one, and so is a whole number that does not fit into 64 bits. A
fractional number is read in two steps, each of which rounds: its leading digits,
as many as fit into 64 bits, and then the power of ten.

* `Json.read`: the data of a text.
* `Json.write`: the text of data.

Reading goes on for as many steps as the text has characters, which is enough,
since every step takes one.
-/

set_option autoImplicit false

namespace RpcPipeline.Json

/-- What reading comes to: something, and the text behind it. -/
abbrev Result (τ : Type) := Option (τ × List Char)

/-- Whether a character may stand between the parts of a text. -/
def isBlank (c : Char) : Bool := c = ' ' || c = '\t' || c = '\n' || c = '\r'

/-- The text from the first character that is no blank. -/
def skip (cs : List Char) : List Char := cs.dropWhile isBlank

/-- The number written with four hexadecimal digits. -/
def code? (a b c d : Char) : Option Nat := do
  let a ← Text.Percent.hexValue? a
  let b ← Text.Percent.hexValue? b
  let c ← Text.Percent.hexValue? c
  let d ← Text.Percent.hexValue? d
  some (4096 * a + 256 * b + 16 * c + d)

/-- The character that an escape of one letter stands for. -/
def escaped (c : Char) : Char :=
  match c with
  | 'n' => '\n'
  | 't' => '\t'
  | 'r' => '\r'
  | 'b' => '\x08'
  | 'f' => '\x0c'
  | c => c

/-- Reads the rest of a quoted text, behind some of its characters in reverse. -/
def readText : Nat → List Char → List Char → Result String
  | 0, _, _ => none
  | fuel + 1, acc, cs =>
    match cs with
    | '"' :: rest => some (String.ofList acc.reverse, rest)
    | '\\' :: 'u' :: a :: b :: c :: d :: rest =>
      match code? a b c d with
      | none => none
      | some high =>
        match rest with
        | '\\' :: 'u' :: e :: f :: g :: h :: more =>
          match code? e f g h with
          | none => none
          | some low =>
            if 0xD800 ≤ high && high < 0xDC00 then
              let both := 0x10000 + (high - 0xD800) * 0x400 + (low - 0xDC00)
              readText fuel (Char.ofNat both :: acc) more
            else readText fuel (Char.ofNat high :: acc) rest
        | rest => readText fuel (Char.ofNat high :: acc) rest
    | '\\' :: c :: rest => readText fuel (escaped c :: acc) rest
    | c :: rest => readText fuel (c :: acc) rest
    | [] => none

/-- The number that a row of digits stands for. -/
def numberOf (digits : List Char) : Nat :=
  digits.foldl (fun n c => 10 * n + (c.toNat - 48)) 0

/-- Reads the digits behind a point, if there is one. -/
def readFraction : List Char → Option (List Char) × List Char
  | '.' :: rest => (some (rest.takeWhile Char.isDigit), rest.dropWhile Char.isDigit)
  | rest => (none, rest)

/-- Reads an exponent, if there is one. -/
def readExponent (cs : List Char) : Option Int × List Char :=
  let digits (sign : Int) (rest : List Char) : Option Int × List Char :=
    (some (sign * numberOf (rest.takeWhile Char.isDigit)), rest.dropWhile Char.isDigit)
  match cs with
  | e :: rest =>
    if e = 'e' || e = 'E' then
      match rest with
      | '-' :: rest => digits (-1) rest
      | '+' :: rest => digits 1 rest
      | rest => digits 1 rest
    else (none, cs)
  | [] => (none, cs)

/-- Appends digits to a number as long as it fits into 64 bits: the number, and how
many digits were left out. -/
def append (n : Nat) : List Char → Nat × Nat
  | [] => (n, 0)
  | c :: rest =>
    let next := 10 * n + (c.toNat - 48)
    if next < UInt64.size then append next rest else (n, rest.length + 1)

/-- The float nearest to a power of ten. -/
def tenTo (n : Nat) : Float := Float.ofScientific 1 false n

/-- The largest power of ten that is a float. -/
def largestPower : Nat := 308

/-- Divides by a power of ten, in more than one step if it is no float itself. -/
def lower (x : Float) (places : Nat) : Float :=
  if places ≤ largestPower then x / tenTo places
  else if x == 0.0 then x
  else lower (x / tenTo largestPower) (places - largestPower)
termination_by places
decreasing_by simp only [largestPower] at *; omega

/-- The float for `digits * 10 ^ exponent`, unless it is too large. -/
def decimal? (digits : Nat) (exponent : Int) : Option Float :=
  let x := Float.ofNat digits
  if exponent < 0 then some (lower x exponent.natAbs)
  else if exponent ≤ largestPower then
    let raised := x * tenTo exponent.natAbs
    if raised.isInf then none else some raised
  else if digits = 0 then some x
  else none

/-- Reads a number, whose sign was read already. -/
def readNumber (isNegative : Bool) (cs : List Char) : Result (Value Float) :=
  let whole := cs.takeWhile Char.isDigit
  if whole.isEmpty then none
  else
    let (fraction, rest) := readFraction (cs.dropWhile Char.isDigit)
    let (exponent, rest) := readExponent rest
    let n := numberOf whole
    let isWhole := fraction.isNone && exponent.isNone
    if isWhole && !isNegative && n < UInt64.size then some (.natural n, rest)
    else if isWhole && isNegative && n ≠ 0 && n ≤ UInt64.size / 2 then some (.negative n, rest)
    else
      let places := fraction.getD []
      -- A digit left out before the point still counts for the size of the number.
      let (digits, missing) := append 0 whole
      let (digits, ignored) := append digits places
      let power := exponent.getD 0 + missing - (places.length - ignored : Nat)
      (decimal? digits power).map fun x => (.real (if isNegative then -x else x), rest)

/-- Reads a given word and yields what it stands for. -/
def readWord {τ : Type} (word : String) (value : τ) (cs : List Char) : Result τ :=
  if word.toList.isPrefixOf cs then some (value, cs.drop word.toList.length) else none

mutual

/-- Reads one value. -/
def readValue : Nat → List Char → Result (Value Float)
  | 0, _ => none
  | fuel + 1, cs =>
    match skip cs with
    | '\x7b' :: rest =>
      match skip rest with
      | '\x7d' :: rest => some (.object [], rest)
      | rest => readEntries fuel {} rest
    | '[' :: rest =>
      match skip rest with
      | ']' :: rest => some (.list [], rest)
      | rest => readItems fuel [] rest
    | '"' :: rest => (readText fuel [] rest).map fun (s, rest) => (.text s, rest)
    | '-' :: rest => readNumber true rest
    | 't' :: rest => readWord "rue" (.bool true) rest
    | 'f' :: rest => readWord "alse" (.bool false) rest
    | 'n' :: rest => readWord "ull" .null rest
    | rest => readNumber false rest

/-- Reads the rest of a list, behind some of its items in reverse. -/
def readItems : Nat → List (Value Float) → List Char → Result (Value Float)
  | 0, _, _ => none
  | fuel + 1, acc, cs =>
    match readValue fuel cs with
    | none => none
    | some (item, rest) =>
      match skip rest with
      | ',' :: rest => readItems fuel (item :: acc) rest
      | ']' :: rest => some (.list (item :: acc).reverse, rest)
      | _ => none

/-- Reads the rest of an object, behind some of its entries. -/
def readEntries : Nat → Table String (Value Float) → List Char → Result (Value Float)
  | 0, _, _ => none
  | fuel + 1, acc, cs =>
    match skip cs with
    | '"' :: rest =>
      match readText fuel [] rest with
      | none => none
      | some (name, rest) =>
        match skip rest with
        | ':' :: rest =>
          match readValue fuel rest with
          | none => none
          | some (v, rest) =>
            let acc := acc.insert name v
            match skip rest with
            | ',' :: rest => readEntries fuel acc rest
            | '\x7d' :: rest => some (.object acc.entries, rest)
            | _ => none
        | _ => none
    | _ => none

end

/-- The data of a text. -/
def read (s : String) : Option (Value Float) :=
  let cs := s.toList
  match readValue (2 * cs.length + 1) cs with
  | some (v, rest) => if (skip rest).isEmpty then some v else none
  | none => none

/-- A number in hexadecimal digits, with zeros in front up to a width. -/
def hex (width n : Nat) : String :=
  let digits := Nat.toDigits 16 n
  String.ofList (List.replicate (width - digits.length) '0' ++ digits)

/-- A character of a quoted text. -/
def quoteChar (c : Char) : String :=
  if c = '"' then "\\\""
  else if c = '\\' then "\\\\"
  else if c.toNat < 0x20 then "\\u" ++ hex 4 c.toNat
  else c.toString

/-- A text in quotes. -/
def quote (s : String) : String :=
  "\"" ++ s.toList.foldl (fun acc c => acc ++ quoteChar c) "" ++ "\""

variable {α : Type}

mutual

/-- The text of data, given the text of a fractional number. -/
def write (real : α → String) : Value α → String
  | .null => "null"
  | .bool b => toString b
  | .natural n => toString n
  | .negative n => "-" ++ toString n
  | .real x => real x
  | .text s => quote s
  | .list items => "[" ++ writeItems real items
  | .object entries => "\x7b" ++ writeEntries real entries

/-- The text of the rest of a list. -/
def writeItems (real : α → String) : List (Value α) → String
  | [] => "]"
  | [v] => write real v ++ "]"
  | v :: vs => write real v ++ "," ++ writeItems real vs

/-- The text of the rest of an object. -/
def writeEntries (real : α → String) : List (String × Value α) → String
  | [] => "\x7d"
  | [(name, v)] => quote name ++ ":" ++ write real v ++ "\x7d"
  | (name, v) :: rest => quote name ++ ":" ++ write real v ++ "," ++ writeEntries real rest

end

end RpcPipeline.Json
