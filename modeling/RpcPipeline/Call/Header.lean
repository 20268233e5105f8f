import RpcPipeline.Text.Percent
import RpcPipeline.Text.Quoted

/-!
# `RpcPipeline.Call.Header`: header fields

Headers are a list of names, each with its values in order. Names are tokens in
lower case; values are bytes. A name stays where it was first added.

* `isToken`: the words that may stand as a method or a header name.
* `HeaderName.parse?`, `HeaderValue.ofBytes?`: reading a name and a value.
* `Headers.append`, `Headers.set`: adding a value, and replacing all values.
-/

set_option autoImplicit false

namespace RpcPipeline

/-- Characters of a token. -/
def isTokenChar (c : Char) : Bool :=
  c.isAlphanum || "!#$%&'*+-.^_\x60|~".toList.contains c

/-- Whether a text is a token: not empty, and of token characters only. -/
def isToken (s : String) : Bool := !s.isEmpty && s.toList.all isTokenChar

/-- Reads the name of a header: a token, brought to lower case. -/
def HeaderName.parse? (s : String) : Option String :=
  if isToken s then some (s.map Char.toLower) else none

/-- The bytes of a header value. -/
abbrev HeaderValue := List UInt8

namespace HeaderValue

/-- Whether a byte may stand in a header value: a tab, or anything that is no
control. -/
def allows (b : UInt8) : Bool := b = 9 || (32 ≤ b && b ≠ 127)

/-- Takes bytes as a header value, if each may stand in one. -/
def ofBytes? (bytes : List UInt8) : Option HeaderValue :=
  if bytes.all allows then some bytes else none

/-- Whether a byte stands for itself in text: printable ASCII, or a tab. -/
def isPrintable (b : UInt8) : Bool := b = 9 || (32 ≤ b && b < 127)

/-- The value as text, if it is printable. -/
def text? (value : HeaderValue) : Option String :=
  if value.all isPrintable then
    some (String.ofList (value.map fun b => Char.ofNat b.toNat))
  else none

/-- A byte inside the quotes of a debug text. -/
def debugByte (b : UInt8) : List Char :=
  if b = 34 then ['\\', '"']
  else if isPrintable b then [Char.ofNat b.toNat]
  else '\\' :: 'x' :: Nat.toDigits 16 b.toNat

/-- A header value as debug texts show it. -/
def debugText (value : HeaderValue) : String :=
  String.ofList ('"' :: (value.flatMap debugByte ++ ['"']))

end HeaderValue

/-- Header fields by name, in the order in which the names were added. -/
abbrev Headers := List (String × List HeaderValue)

namespace Headers

/-- Adds a value behind those of its name. -/
def append (name : String) (value : HeaderValue) : Headers → Headers
  | [] => [(name, [value])]
  | (n, values) :: rest =>
    if n = name then (n, values ++ [value]) :: rest else (n, values) :: append name value rest

/-- Replaces all values of a name by one. -/
def set (name : String) (value : HeaderValue) : Headers → Headers
  | [] => [(name, [value])]
  | (n, values) :: rest =>
    if n = name then (n, [value]) :: rest else (n, values) :: set name value rest

/-- The number of values. -/
def count (headers : Headers) : Nat := (headers.flatMap (·.2)).length

/-- Headers as debug texts show them, one entry per value. -/
def debugText (headers : Headers) : String :=
  Text.map (headers.flatMap fun (name, values) =>
    values.map fun value => (Text.quote name, value.debugText))

end Headers

end RpcPipeline
