import RpcPipeline.Config.Sections
import RpcPipeline.Dns.Cache
import RpcPipeline.Uri.Target

/-!
# `RpcPipeline.Hosts.Placement`: which hosts there should be

The hosts of a pipeline follow from its settings and from the addresses that
names were resolved to, and from nothing else. A URI that cannot be read is left
out. A name with several addresses stands for several hosts. A name that was not
resolved stands for one host without address. Of several placements of one
identity the first counts.
-/

set_option autoImplicit false

namespace RpcPipeline

/-- A host that there should be, and where. -/
structure Placement where
  target : TargetUri
  address : Option SocketAddress
  deriving Repr, DecidableEq

namespace Placement

/-- The identity of the host. -/
def id (p : Placement) : HostId := .ofTarget p.target p.address

/-- The addresses of a target: its own if it is one, else those its name was
resolved to, else one that is left open. -/
def addresses (t : TargetUri) (dns : Option DnsSnapshot) : List (Option SocketAddress) :=
  match t.address? with
  | some a => [some ⟨a, t.port⟩]
  | none =>
    match dns.bind (·.get? t.host) with
    | some (a :: as) => (a :: as).map fun a => some ⟨a, t.port⟩
    | _ => [none]

/-- The placements of a URI. -/
def ofUri (defaultPort : UInt16) (dns : Option DnsSnapshot) (uri : String) : List Placement :=
  match TargetUri.parse uri defaultPort with
  | .ok t => (addresses t dns).map fun a => ⟨t, a⟩
  | .error _ => []

/-- Of several placements of one identity, only the first. -/
def firsts : List Placement → List Placement
  | [] => []
  | p :: ps => p :: (firsts ps).filter (·.id ≠ p.id)

/-- The hosts that there should be, in the order of their URIs. -/
def all {α : Type} (config : ClientConfig α) (dns : Option DnsSnapshot) : List Placement :=
  firsts (config.uris.flatMap (ofUri config.dns.defaultPort dns))

end Placement

end RpcPipeline
