/-!
# `RpcPipeline.Hosts.Id`: identities of hosts

A host is identified by a text: its base address and, if it was resolved, the
address it was resolved to. Everything that is kept per host is kept under this
identity.
-/

set_option autoImplicit false

namespace RpcPipeline

/-- The identity of a host. -/
structure HostId where
  text : String
  deriving Repr, DecidableEq, Inhabited

instance : LT HostId := ⟨fun a b => a.text < b.text⟩

instance : DecidableLT HostId := fun a b => inferInstanceAs (Decidable (a.text < b.text))

end RpcPipeline
