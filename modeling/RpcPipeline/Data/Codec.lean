import RpcPipeline.Data.Value
import RpcPipeline.Table
import RpcPipeline.Time.Human

/-!
# `RpcPipeline.Data.Codec`: reading and writing plain data

A codec reads a value of some type from plain data and writes it back. A record
is read from an object, with a default for every field that is absent, or from
a list of its fields in order. The entries of an object are read in ascending
order of their names, so of several bad ones the first by name is reported;
names of no field are passed over.

* `Codec.bool`, `Codec.natural`, `Codec.real`, `Codec.text`, `Codec.span`: simple
  values.
* `Codec.optional`, `Codec.list`, `Codec.choice`: composite ones.
* `Codec.record`: records.
-/

set_option autoImplicit false

namespace RpcPipeline

/-- A way to read a type from plain data and to write it. -/
structure Codec (α τ : Type) where
  read : Value α → Except (ReadError α) τ
  write : τ → Value α

/-- A field of a record. -/
structure Field (α σ : Type) where
  name : String
  /-- Reads the field into a record. -/
  read : Value α → σ → Except (ReadError α) σ
  write : σ → Value α

namespace Codec

variable {α σ τ : Type}

/-- Truth values. -/
def bool : Codec α Bool where
  read
    | .bool b => .ok b
    | v => .error (.wrongKind v.found "a boolean")
  write := .bool

/-- Texts. -/
def text : Codec α String where
  read
    | .text s => .ok s
    | v => .error (.wrongKind v.found "a string")
  write := .text

/-- Whole numbers below a bound. The word `expected` names their range. -/
def natural (bound : Nat) (expected : String) (make : Nat → τ) (value : τ → Nat) :
    Codec α τ where
  read
    | .natural n =>
      if n < bound then .ok (make n) else .error (.wrongValue (.natural n) expected)
    | .negative n => .error (.wrongValue (.negative n) expected)
    | v => .error (.wrongKind v.found expected)
  write x := .natural (value x)

/-- Whole numbers of 16 bits. -/
def word16 : Codec α UInt16 := natural UInt16.size "u16" UInt16.ofNat UInt16.toNat

/-- Whole numbers of 32 bits. -/
def word32 : Codec α UInt32 := natural UInt32.size "u32" UInt32.ofNat UInt32.toNat

/-- Whole numbers of 64 bits. -/
def word64 : Codec α UInt64 := natural UInt64.size "u64" UInt64.ofNat UInt64.toNat

/-- Sizes. -/
def size : Codec α UInt64 := natural UInt64.size "usize" UInt64.ofNat UInt64.toNat

/-- Fractional numbers. Whole numbers are read as such; a number that is not
finite cannot be written. -/
def real [Scalar α] : Codec α α where
  read
    | .natural n => .ok (Scalar.ofNat n)
    | .negative n => .ok (0 - Scalar.ofNat n)
    | .real x => .ok x
    | v => .error (.wrongKind v.found "f64")
  write x := if Scalar.isFinite x then .real x else .null

/-- Spans of time, as people write them. -/
def span : Codec α Nanos where
  read
    | .text s =>
      match Human.parse? s with
      | some span => .ok span
      | none => .error (.wrongValue (.text s) "a duration")
    | v => .error (.wrongKind v.found "a duration")
  write x := .text (Human.render x)

/-- Spans of time in nanoseconds. -/
def nanos : Codec α Nanos := natural UInt64.size "u64" id id

/-- A value that may be absent. -/
def optional (c : Codec α τ) : Codec α (Option τ) where
  read
    | .null => .ok none
    | v => some <$> c.read v
  write
    | none => .null
    | some x => c.write x

/-- Lists. -/
def list (c : Codec α τ) : Codec α (List τ) where
  read
    | .list items => items.mapM c.read
    | v => .error (.wrongKind v.found "a sequence")
  write xs := .list (xs.map c.write)

/-- One of several values, each with a name. A name also stands for its value as
the only entry of an object, with nothing in it. -/
def choice [BEq τ] (names : List (String × τ)) : Codec α τ where
  read v :=
    let named (name : String) : Except (ReadError α) τ :=
      match names.find? (·.1 = name) with
      | some (_, x) => .ok x
      | none => .error (.unknownName name (names.map (·.1)))
    match v with
    | .text name => named name
    | .object [(name, content)] => do
      let x ← named name
      match content with
      | .null => .ok x
      | other => .error (.wrongKind other.found "unit")
    | .object _ => .error (.wrongValue .object "map with a single key")
    | v => .error (.wrongKind v.found "string or map")
  write x :=
    match names.find? (·.2 == x) with
    | some (name, _) => .text name
    | none => .null

/-- A field of a record, given how to get and set it. -/
def field (name : String) (c : Codec α τ) (get : σ → τ) (set : τ → σ → σ) : Field α σ where
  name := name
  read v s := (c.read v).map (set · s)
  write s := c.write (get s)

/-- Reads one entry of an object into a record. -/
def readEntry (fields : List (Field α σ)) (s : σ) (entry : String × Value α) :
    Except (ReadError α) σ :=
  match fields.find? (·.name = entry.1) with
  | some f => f.read entry.2 s
  | none => .ok s

/-- Records. The word `expected` names the record. -/
def record (expected : String) (default : σ) (fields : List (Field α σ)) : Codec α σ where
  read
    | .object entries => entries.foldlM (readEntry fields) default
    | .list items => do
      let s ← (fields.zip items).foldlM (fun s (f, v) => f.read v s) default
      if fields.length < items.length then .error (.surplus items.length) else .ok s
    | v => .error (.wrongKind v.found ("struct " ++ expected))
  write s := .object (Table.ofList (fields.map fun f => (f.name, f.write s))).entries

end Codec

end RpcPipeline
