import RpcPipeline.Table
import RpcPipeline.Text.Quoted
import RpcPipeline.Uri.Address

/-!
# `RpcPipeline.Dns.Lookup`: what looking up a name comes back with

A look-up comes back with addresses, possibly none, or with an error. The
resolver is played by scripts: each look-up of a name takes the next answer of
its script, and the last answer repeats once the script is empty. A name without
script has no addresses.

* `Lookup`: what a look-up comes back with.
* `Resolver.resolve`: one look-up.
-/

set_option autoImplicit false

namespace RpcPipeline

/-- Why a name could not be resolved. -/
structure LookupError where
  hostname : String
  message : String
  deriving Repr, DecidableEq

/-- The text of an error. -/
def LookupError.text (e : LookupError) : String :=
  s!"DNS lookup failed for {e.hostname}: {e.message}"

/-- What a look-up comes back with. -/
abbrev Lookup := Except LookupError (List Address)

/-- An answer in a script: addresses, or the message of a failure. -/
abbrev DnsAnswer := Except String (List Address)

/-- The script of a name. -/
structure ScriptedName where
  script : List DnsAnswer
  last : Option DnsAnswer
  lookups : Nat

instance : Inhabited ScriptedName := ⟨⟨[], none, 0⟩⟩

/-- All names that have a script or were looked up. -/
structure Resolver where
  names : Table String ScriptedName

namespace Resolver

/-- The resolver without scripts. -/
def empty : Resolver := ⟨{}⟩

/-- What is known of a name. -/
def name (r : Resolver) (hostname : String) : ScriptedName :=
  (r.names.get? hostname).getD default

/-- Adds answers to the script of a name. -/
def addScript (r : Resolver) (hostname : String) (answers : List DnsAnswer) : Resolver :=
  let n := r.name hostname
  ⟨r.names.insert hostname { n with script := n.script ++ answers }⟩

/-- Looks up a name. -/
def resolve (r : Resolver) (hostname : String) : Lookup × Resolver :=
  let n := r.name hostname
  let last :=
    match n.script.head? with
    | some answer => some answer
    | none => n.last
  let lookup := (last.getD (.ok [])).mapError fun message => ⟨hostname, message⟩
  (lookup, ⟨r.names.insert hostname ⟨n.script.tail, last, n.lookups + 1⟩⟩)

end Resolver

/-- The resolver of the system, which is set up when it is first used. -/
structure SystemResolver where
  initialized : Bool
  deriving Repr, DecidableEq

namespace SystemResolver

/-- The resolver before its first use. -/
def new : SystemResolver := ⟨false⟩

/-- Looks up a name that is an address already, which stands for itself. -/
def resolveLiteral (_ : SystemResolver) (a : Address) : List Address × SystemResolver :=
  ([a], ⟨true⟩)

/-- The resolver as debug texts show it. -/
def debugText (r : SystemResolver) : String :=
  Text.record "HickoryDnsResolver" [("initialized", toString r.initialized)]

end SystemResolver

end RpcPipeline
