import RpcPipeline.Text.Percent
import RpcPipeline.Text.Pieces

/-!
# `RpcPipeline.Uri.Address`: internet addresses

Addresses of version 4 are four bytes, addresses of version 6 eight groups of
sixteen bits. Of the groups, the first longest run of two or more zeros is
written as `::`.

* `Address.parse?`: reads an address.
* `Address.text`: writes it; an address of version 6 that stands for one of
  version 4 keeps the latter's form.
* `V6.compressed`: the same without that exception.
* `SocketAddress`: an address with a port.
-/

set_option autoImplicit false

namespace RpcPipeline

/-- An address of version 4. -/
abbrev V4 := Vector UInt8 4

/-- An address of version 6. -/
abbrev V6 := Vector UInt16 8

/-- An internet address. -/
inductive Address where
  | v4 (bytes : V4)
  | v6 (groups : V6)
  deriving Repr, DecidableEq

namespace V4

/-- An address of version 4 from its number. -/
def ofNat (n : Nat) : V4 :=
  #v[UInt8.ofNat (n / 0x1000000), UInt8.ofNat (n / 0x10000), UInt8.ofNat (n / 0x100), UInt8.ofNat n]

/-- Four decimal numbers with dots between them. -/
def text (bytes : V4) : String := ".".intercalate (bytes.toList.map fun b => toString b.toNat)

/-- Reads one of the four numbers: below 256, without a leading zero. -/
def parseByte? (cs : List Char) : Option UInt8 :=
  if cs.isEmpty || !cs.all Char.isDigit || 3 < cs.length || (cs.head? = some '0' && 1 < cs.length)
  then none
  else
    let n := cs.foldl (fun n c => 10 * n + (c.toNat - 48)) 0
    if n < 256 then some (UInt8.ofNat n) else none

/-- Reads four numbers with dots between them. -/
def parse? (cs : List Char) : Option V4 :=
  match (Text.pieces (· = '.') cs).mapM parseByte? with
  | some [a, b, c, d] => some #v[a, b, c, d]
  | _ => none

end V4

namespace V6

/-- A group in hexadecimal, without leading zeros. -/
def groupText (g : UInt16) : String := String.ofList (Nat.toDigits 16 g.toNat)

/-- Groups with colons between them. -/
def groupsText (gs : List UInt16) : String := ":".intercalate (gs.map groupText)

/-- The length of the run of zeros that a list starts with. -/
def leadingZeros (gs : List UInt16) : Nat := (gs.takeWhile (· = 0)).length

/-- Where the first longest run of zeros starts, and its length. -/
def longestZeros (gs : List UInt16) : Nat × Nat :=
  (List.range gs.length).foldl
    (fun (best : Nat × Nat) i =>
      let length := leadingZeros (gs.drop i)
      if best.2 < length then (i, length) else best)
    (0, 0)

/-- An address in groups, the first longest run of zeros left out. -/
def compressed (groups : V6) : String :=
  let gs := groups.toList
  let (start, length) := longestZeros gs
  if 1 < length then groupsText (gs.take start) ++ "::" ++ groupsText (gs.drop (start + length))
  else groupsText gs

/-- The address of version 4 that an address of version 6 stands for. -/
def mapped? (groups : V6) : Option V4 :=
  match groups.toList with
  | [0, 0, 0, 0, 0, 0xffff, high, low] =>
    some #v[(high >>> 8).toUInt8, high.toUInt8, (low >>> 8).toUInt8, low.toUInt8]
  | _ => none

/-- An address, in the form of version 4 behind `::ffff:` if it stands for such
a one. -/
def text (groups : V6) : String :=
  match mapped? groups with
  | some bytes => "::ffff:" ++ bytes.text
  | none => compressed groups

/-- Reads a group of one to four hexadecimal digits. -/
def parseGroup? (cs : List Char) : Option UInt16 :=
  if cs.isEmpty || 4 < cs.length then none
  else
    (cs.foldlM (fun n c => (Text.Percent.hexValue? c).map (16 * n + ·)) 0).map UInt16.ofNat

/-- The group that two bytes make. -/
def joinBytes (high low : UInt8) : UInt16 := UInt16.ofNat (256 * high.toNat + low.toNat)

/-- Reads groups with colons between them. The last may be an address of version
4, which makes two groups. -/
def parseGroups? (cs : List Char) : Option (List UInt16) :=
  let rec parts : List (List Char) → Option (List UInt16)
    | [] => some []
    | [last] =>
      match parseGroup? last with
      | some g => some [g]
      | none => (V4.parse? last).map fun v =>
        [joinBytes v[0] v[1], joinBytes v[2] v[3]]
    | part :: rest => do
      let g ← parseGroup? part
      let gs ← parts rest
      return g :: gs
  parts (Text.pieces (· = ':') cs)

/-- Cuts a text at the first double colon. -/
def cut? : List Char → Option (List Char × List Char)
  | ':' :: ':' :: rest => some ([], rest)
  | c :: rest => (cut? rest).map fun (before, after) => (c :: before, after)
  | [] => none

/-- Reads an address: eight groups, or fewer with a double colon in place of at
least one group of zero. -/
def parse? (cs : List Char) : Option V6 :=
  let groups : Option (List UInt16) :=
    match cut? cs with
    | none => parseGroups? cs
    | some (before, after) => do
      if before.contains '.' then none
      let head ← if before.isEmpty then some [] else parseGroups? before
      let tail ← if after.isEmpty then some [] else parseGroups? after
      if head.length + tail.length ≤ 7 then
        some (head ++ List.replicate (8 - head.length - tail.length) 0 ++ tail)
      else none
  match groups with
  | some gs => if h : gs.toArray.size = 8 then some ⟨gs.toArray, h⟩ else none
  | none => none

end V6

namespace Address

/-- Reads an address of either version. -/
def parse? (s : String) : Option Address :=
  match V4.parse? s.toList with
  | some bytes => some (.v4 bytes)
  | none => (V6.parse? s.toList).map .v6

/-- Writes an address. -/
def text : Address → String
  | .v4 bytes => bytes.text
  | .v6 groups => groups.text

end Address

/-- An address with a port. -/
structure SocketAddress where
  address : Address
  port : UInt16
  deriving Repr, DecidableEq

/-- Writes an address with its port, brackets around one of version 6. -/
def SocketAddress.text (s : SocketAddress) : String :=
  match s.address with
  | .v4 bytes => bytes.text ++ ":" ++ toString s.port.toNat
  | .v6 groups => "[" ++ groups.text ++ "]:" ++ toString s.port.toNat

end RpcPipeline
