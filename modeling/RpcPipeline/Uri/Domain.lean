import RpcPipeline.Text.Pieces
import RpcPipeline.Uri.Label

/-!
# `RpcPipeline.Uri.Domain`: domain names in ASCII

A domain name is brought to one form: its characters are folded and composed, and
every label with characters outside ASCII is written in its ASCII form. A name that
holds a character without a place in names, or a label that makes no sense, has no
such form.

* `Domain.fold?`: a name with its characters folded and composed.
* `Domain.toAscii?`: the one form of a domain name, if it has one.
-/

set_option autoImplicit false

namespace RpcPipeline.Domain

/-- ASCII characters that may not stand in a domain name. -/
def isDenied (c : Char) : Bool :=
  c.toNat ≤ 0x20 || c.toNat = 0x7F || "%#/:<>?@[\\]^|".toList.contains c

/-- A name with its characters folded and composed. -/
def fold? (name : List Char) : Option (List Char) :=
  (name.mapM Unicode.fold?).map fun folded => Unicode.compose folded.flatten

/-- Whether the labels of a name can stand next to each other: if one is read from
the right, at least in part, all are read in one direction. -/
def agree (texts : List (List Char)) : Bool :=
  if texts.any (·.any Label.isFromRight) then texts.all Label.readsOneWay else true

/-- The one form of a domain name. -/
def toAscii? (name : List Char) : Option (List Char) := do
  let folded ← fold? name
  -- Folding may bring denied characters to light, so they are looked for afterwards.
  if folded.any isDenied then none
  let texts ← (Text.pieces (· = '.') folded).mapM Label.text?
  if !agree texts then none
  return ['.'].intercalate (texts.map Label.toAscii)

end RpcPipeline.Domain
