import RpcPipeline.Call.Header
import RpcPipeline.Call.Template

/-!
# `RpcPipeline.Call.Endpoint`: the operations of a service

An endpoint names one operation of one service, with its version, method and
path template. Two endpoints are the same if all five agree. A queue that serves
endpoints in turn keeps one lane for each.
-/

set_option autoImplicit false

namespace RpcPipeline

/-- One operation of one service. -/
structure Endpoint where
  service : String
  name : String
  version : String
  method : String
  path : PathTemplate
  deriving Repr, DecidableEq

namespace Endpoint

/-- The name under which metrics and hosts know an endpoint. -/
def label (e : Endpoint) : String := e.service ++ "." ++ e.name

/-- An endpoint as debug texts show it. -/
def debugText (e : Endpoint) : String :=
  Text.record "Endpoint"
    [ ("service", Text.quote e.service), ("name", Text.quote e.name),
      ("version", Text.quote e.version), ("method", e.method),
      ("path", Text.quote e.path.text) ]

/-- For each endpoint of a list the index of the first one equal to it. -/
def firstEqual (endpoints : List Endpoint) : List Nat :=
  endpoints.map fun e => endpoints.findIdx (· = e)

/-- The number of different endpoints in a list. -/
def distinct (endpoints : List Endpoint) : Nat := endpoints.eraseDups.length

end Endpoint

end RpcPipeline
