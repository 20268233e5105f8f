import RpcPipeline.Number.Scalar
import RpcPipeline.Text.Quoted

/-!
# `RpcPipeline.Data.Value`: data that configuration is read from

Configuration comes as plain data: nothing, truth values, numbers, texts, lists
and objects. Whole numbers and fractional ones are kept apart, and an object
holds its entries in ascending order of their names.

* `Value`: plain data.
* `ReadError`: why data does not say what it should.
* `ReadError.message`: the text of such an error.
-/

set_option autoImplicit false

namespace RpcPipeline

/-- Plain data, with fractional numbers of type `α`. -/
inductive Value (α : Type) where
  | null
  | bool (b : Bool)
  | natural (n : Nat)
  /-- The number `-n`, below zero. -/
  | negative (n : Nat)
  | real (x : α)
  | text (s : String)
  | list (items : List (Value α))
  | object (entries : List (String × Value α))
  deriving Repr

namespace Value

variable {α : Type}

/-- The entry of an object under a name; anything else has none. -/
def get? (v : Value α) (name : String) : Option (Value α) :=
  match v with
  | object entries => (entries.find? (·.1 = name)).map (·.2)
  | _ => none

end Value

/-- What was found in the place of something else. -/
inductive Found (α : Type) where
  | null
  | bool (b : Bool)
  | natural (n : Nat)
  | negative (n : Nat)
  | real (x : α)
  | text (s : String)
  | list
  | object
  deriving Repr

/-- What data is found to be. -/
def Value.found {α : Type} : Value α → Found α
  | null => .null
  | bool b => .bool b
  | natural n => .natural n
  | negative n => .negative n
  | real x => .real x
  | text s => .text s
  | list _ => .list
  | object _ => .object

/-- Why data does not say what it should. -/
inductive ReadError (α : Type) where
  /-- The data is of the wrong kind. -/
  | wrongKind (found : Found α) (expected : String)
  /-- The data is of the right kind, but not one of the values allowed. -/
  | wrongValue (found : Found α) (expected : String)
  /-- A name that stands for nothing. -/
  | unknownName (name : String) (known : List String)
  /-- A list with more items than there are fields. -/
  | surplus (count : Nat)
  deriving Repr

/-- What was found, in words. -/
def Found.words : Found Float → String
  | null => "null"
  | bool b => s!"boolean `{b}`"
  | natural n => s!"integer `{n}`"
  | negative n => s!"integer `-{n}`"
  | real x => "floating point `" ++ Number.Layout.value.render x ++ "`"
  | text s => "string " ++ Text.quote s
  | list => "sequence"
  | object => "map"

/-- Names in a row, quoted. -/
def knownNames (names : List String) : String :=
  let quoted := names.map fun name => "`" ++ name ++ "`"
  match quoted with
  | [a, b] => a ++ " or " ++ b
  | _ => "one of " ++ ", ".intercalate quoted

/-- The text of an error. -/
def ReadError.message : ReadError Float → String
  | wrongKind found expected => "invalid type: " ++ found.words ++ ", expected " ++ expected
  | wrongValue found expected => "invalid value: " ++ found.words ++ ", expected " ++ expected
  | unknownName name known =>
    "unknown variant `" ++ name ++ "`, expected " ++ knownNames known
  | surplus count => s!"invalid length {count}, expected fewer elements in array"

end RpcPipeline
