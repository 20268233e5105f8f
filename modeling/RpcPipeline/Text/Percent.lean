/-!
# `RpcPipeline.Text.Percent`: percent escapes

Text that has to pass through a place with reserved characters is written byte
by byte: a reserved byte, and every byte outside ASCII, as `%` and two
upper-case hexadecimal digits, any other byte as itself.

* `encode`: writes a text, given which ASCII characters are reserved.
* `decode`: reads escapes back; a `%` that starts no escape stands for itself.
-/

set_option autoImplicit false

namespace RpcPipeline.Text.Percent

/-- An upper-case hexadecimal digit. -/
def hexDigit (n : Nat) : Char :=
  if n < 10 then Char.ofNat (48 + n) else Char.ofNat (55 + n)

/-- The value of a hexadecimal digit in either case. -/
def hexValue? (c : Char) : Option Nat :=
  let n := c.toNat
  if 48 ≤ n && n ≤ 57 then some (n - 48)
  else if 65 ≤ n && n ≤ 70 then some (n - 55)
  else if 97 ≤ n && n ≤ 102 then some (n - 87)
  else none

/-- The escape of one byte. -/
def escape (b : UInt8) : List Char := ['%', hexDigit (b.toNat / 16), hexDigit (b.toNat % 16)]

/-- One character: escaped byte by byte if it is reserved or outside ASCII. -/
def encodeChar (reserved : Char → Bool) (c : Char) : List Char :=
  if reserved c || 0x80 ≤ c.toNat then (String.utf8EncodeChar c).flatMap escape else [c]

/-- A text with its reserved characters escaped. -/
def encode (reserved : Char → Bool) (s : String) : String :=
  String.ofList (s.toList.flatMap (encodeChar reserved))

/-- The bytes that a text stands for: every escape is one byte, everything else
is itself in UTF-8. -/
def decodeBytes : List Char → List UInt8
  | '%' :: a :: b :: rest =>
    match hexValue? a, hexValue? b with
    | some hi, some lo => UInt8.ofNat (16 * hi + lo) :: decodeBytes rest
    | _, _ => 37 :: decodeBytes (a :: b :: rest)
  | c :: rest => String.utf8EncodeChar c ++ decodeBytes rest
  | [] => []

/-- The bytes of a text once its escapes are read. -/
def decode (s : String) : List UInt8 := decodeBytes s.toList

/-- ASCII controls. -/
def isControl (c : Char) : Bool := c.toNat < 0x20 || c.toNat = 0x7F

/-- Characters reserved in a fragment. -/
def inFragment (c : Char) : Bool := isControl c || [' ', '"', '<', '>', '\x60'].contains c

/-- Characters reserved in a path. -/
def inPath (c : Char) : Bool := inFragment c || ['#', '?', '\x7b', '\x7d'].contains c

/-- Characters reserved in a user name or password. -/
def inUserInfo (c : Char) : Bool :=
  inPath c || ['/', ':', ';', '=', '@', '[', '\\', ']', '^', '|'].contains c

/-- Characters reserved in a query. -/
def inQuery (c : Char) : Bool := isControl c || [' ', '"', '#', '<', '>'].contains c

/-- Characters reserved in the query of a scheme with special rules. -/
def inSpecialQuery (c : Char) : Bool := inQuery c || c = '\x27'

/-- Characters reserved in a value that fills one segment of a path: the
separator and the escape character are among them, so that a value stays within
its segment and reads back. -/
def inPathValue (c : Char) : Bool := inPath c || c = '/' || c = '%'

end RpcPipeline.Text.Percent
