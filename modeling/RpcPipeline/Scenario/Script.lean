import RpcPipeline.Data.Value
import RpcPipeline.Dns.Lookup
import RpcPipeline.Transport.Network

/-!
# `RpcPipeline.Scenario.Script`: scripts as plain data

How the outcomes in the script of a host and the answers in the script of a name
are written as plain data. Whatever is no outcome counts as the status zero,
which is none.
-/

set_option autoImplicit false

namespace RpcPipeline

variable {α : Type}

/-- The number that data is, or zero. -/
def Value.naturalOrZero : Value α → Nat
  | .natural n => n
  | _ => 0

/-- An outcome in the script of a host. -/
def Scripted.read (host : String) (v : Value α) : Scripted :=
  match v with
  | .text "connect" => .refuse
  | .text "timeout" => .timeOut
  | .text "pending" => .silent
  | .text "io" => .fail (.io host "reset by peer")
  | .text "invalid" => .fail (.invalidRequest "bad request")
  | .text "cancelled" => .fail .cancelled
  | .text "queue_full" => .fail (.queueFull 3)
  | .text "no_hosts" => .fail (.noHosts host)
  | .text "hold" => .hold
  | .object _ =>
    let part (name : String) : Nat := ((v.get? name).map Value.naturalOrZero).getD 0
    .delayed (.millis (part "delay")) (part "status")
  | v => .respond v.naturalOrZero

/-- The addresses in a list; what is no address is left out. -/
def Address.readAll (v : Value α) : List Address :=
  match v with
  | .list items =>
    items.filterMap fun
      | .text s => Address.parse? s
      | _ => none
  | _ => []

/-- An answer in the script of a name: addresses, or the text of a failure. -/
def DnsAnswer.read : Value α → DnsAnswer
  | .text message => .error message
  | v => .ok (Address.readAll v)

end RpcPipeline
