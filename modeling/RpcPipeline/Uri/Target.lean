import RpcPipeline.Hosts.Id
import RpcPipeline.Uri.Url

/-!
# `RpcPipeline.Uri.Target`: base addresses of hosts

A target is what a configured URI says about a host: the host itself, the port,
and whether the host is an internet address already, so that it need not be
resolved.

* `TargetUri.parse`: the target of a URI.
* `TargetUri.base`: scheme, host and port.
* `HostId.ofTarget`: the identity of a host at an address.
-/

set_option autoImplicit false

namespace RpcPipeline

/-- Why a URI is no base address of a host. -/
inductive UriError where
  | notAbsolute (uri : String) (cause : UrlError)
  | noHost (uri : String)
  deriving Repr, DecidableEq

/-- The text of an error. -/
def UriError.message : UriError → String
  | notAbsolute uri cause => s!"invalid uri {uri}: {cause.message}"
  | noHost uri => s!"uri {uri} has no host"

/-- The base address of a host. -/
structure TargetUri where
  url : Url
  /-- The host without brackets. -/
  host : String
  port : UInt16
  deriving Repr, DecidableEq

namespace TargetUri

/-- The target of a URI. The port is the one written, else the one of the scheme,
else `defaultPort`. -/
def parse (uri : String) (defaultPort : UInt16) : Except UriError TargetUri :=
  match Url.parse uri with
  | .error cause => .error (.notAbsolute uri cause)
  | .ok url =>
    let port := url.port.getD ((Url.knownPort? url.scheme).getD defaultPort)
    match url.host with
    | some (.name name) => if name = "" then .error (.noHost uri) else .ok ⟨url, name, port⟩
    | some (.address address) => .ok ⟨url, address.text, port⟩
    | none => .error (.noHost uri)

/-- The address of a host that is one. -/
def address? (t : TargetUri) : Option Address :=
  match t.url.host with
  | some (.address a) => some a
  | _ => none

/-- Scheme, host and port. -/
def base (t : TargetUri) : String :=
  let host :=
    match t.address? with
    | some (.v6 groups) => "[" ++ groups.text ++ "]"
    | _ => t.host
  t.url.scheme ++ "://" ++ host ++ ":" ++ toString t.port.toNat

end TargetUri

/-- The identity of a host: its base address, and the address that a name was
resolved to. -/
def HostId.ofTarget (target : TargetUri) (address : Option SocketAddress) : HostId :=
  match target.address?, address with
  | none, some a => ⟨target.base ++ "@" ++ a.text⟩
  | _, _ => ⟨target.base⟩

end RpcPipeline
