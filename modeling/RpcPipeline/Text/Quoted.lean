import RpcPipeline.Text.Hidden

/-!
# `RpcPipeline.Text.Quoted`: debug texts

A debug text shows a value with its structure: strings in double quotes with
special characters escaped, records as `Name { field: value }`, lists in square
brackets, maps in braces.

* `quote`: a string in quotes.
* `record`, `list`, `map`: the composite forms.
-/

set_option autoImplicit false

namespace RpcPipeline.Text

/-- A character inside quotes. -/
def escapeChar (c : Char) : List Char :=
  if c = '"' then ['\\', '"']
  else if c = '\\' then ['\\', '\\']
  else if c = '\n' then ['\\', 'n']
  else if c = '\t' then ['\\', 't']
  else if c = '\r' then ['\\', 'r']
  else if c = '\x00' then ['\\', '0']
  else if isHidden c then
    '\\' :: 'u' :: '\x7b' :: (Nat.toDigits 16 c.toNat ++ ['\x7d'])
  else [c]

/-- A string in double quotes, special characters escaped. -/
def quote (s : String) : String :=
  String.ofList ('"' :: (s.toList.flatMap escapeChar ++ ['"']))

/-- Text between braces, with a blank on either side. -/
def braced (s : String) : String := "\x7b " ++ s ++ " \x7d"

/-- A record: its name, then its fields in order. -/
def record (name : String) (fields : List (String × String)) : String :=
  name ++ " " ++ braced (", ".intercalate (fields.map fun (k, v) => k ++ ": " ++ v))

/-- A list in square brackets. -/
def list (items : List String) : String := "[" ++ ", ".intercalate items ++ "]"

/-- A map in braces, without blanks. -/
def map (entries : List (String × String)) : String :=
  "\x7b" ++ ", ".intercalate (entries.map fun (k, v) => k ++ ": " ++ v) ++ "\x7d"

/-- A pair in parentheses. -/
def pair (a b : String) : String := "(" ++ a ++ ", " ++ b ++ ")"

/-- An optional value: the value wrapped, or its absence named. -/
def option (value : Option String) : String :=
  match value with
  | some v => "Some(" ++ v ++ ")"
  | none => "None"

end RpcPipeline.Text
