import RpcPipeline.Call.Endpoint
import RpcPipeline.Call.Response
import RpcPipeline.Time.Alarm

/-!
# `RpcPipeline.Transport.Network`: hosts that follow a script

The hosts at the far end are played by scripts: each call to a host takes the
next outcome of its script, and answers 200 once the script is empty. A call is
a state that is polled; it proceeds at no other time. What a host has seen is
counted: calls, calls that were dropped before they ended, and responses that
were closed.

* `Scripted`: the outcomes that a script may hold.
* `Network.start`, `Network.poll`, `Network.drop`: the life of a call.
* `Network.finish`: ends a call that a script has put on hold.
* `Network.close`: closes a response.
-/

set_option autoImplicit false

namespace RpcPipeline

/-- An outcome in the script of a host. -/
inductive Scripted where
  /-- Answers with a status. -/
  | respond (status : Nat)
  | refuse
  | timeOut
  /-- Never answers. -/
  | silent
  /-- Answers with a status, some time after the call is first polled. -/
  | delayed (delay : Nanos) (status : Nat)
  | fail (error : CallError)
  /-- Answers once it is told how. -/
  | hold
  deriving Repr, DecidableEq

/-- Whose count goes up when a response is closed. -/
structure CloseHook where
  host : String
  /-- Whether the response came from a call on hold. -/
  held : Bool
  deriving Repr, DecidableEq

/-- The result of a call to a scripted host. -/
abbrev HostResult := CallResult CloseHook

/-- A call on hold: what became of it so far. -/
structure Held where
  /-- How it was told to end. -/
  result : Option HostResult
  dropped : Bool
  deriving Repr

/-- A host and what it has seen. -/
structure ScriptedHost where
  script : List Scripted
  calls : Nat
  dropped : Nat
  closed : Nat
  endpoints : List String
  /-- The calls on hold that were not told how to end, the oldest first. -/
  holding : List Nat
  heldClosed : Nat
  deriving Repr

instance : Inhabited ScriptedHost := ⟨⟨[], 0, 0, 0, [], [], 0⟩⟩

/-- All hosts, by name, and all calls that were ever put on hold. -/
structure Network where
  hosts : Table String ScriptedHost
  held : Array Held

/-- A call to a host. -/
inductive HostCall where
  /-- Has a result. -/
  | ended (host : String) (result : HostResult) (counted : Bool)
  /-- Will never have one. -/
  | silent (host : String)
  /-- Will answer some time after it is first polled, which sets the alarm. -/
  | delayed (host : String) (delay : Nanos) (alarm : Option Alarm) (response : Response CloseHook)
  /-- Is on hold. -/
  | held (host : String) (number : Nat)
  deriving Repr

namespace Network

/-- The network without hosts. -/
def empty : Network := ⟨{}, #[]⟩

/-- A host; one that is not known yet has an empty script. -/
def host (n : Network) (name : String) : ScriptedHost := (n.hosts.get? name).getD default

/-- Changes a host, which is known from then on. -/
def update (n : Network) (name : String) (f : ScriptedHost → ScriptedHost) : Network :=
  { n with hosts := n.hosts.insert name (f (n.host name)) }

/-- Makes a host known. -/
def meet (n : Network) (name : String) : Network := n.update name id

/-- Adds outcomes to the script of a host. -/
def addScript (n : Network) (name : String) (outcomes : List Scripted) : Network :=
  n.update name fun h => { h with script := h.script ++ outcomes }

/-- The response of a host. A number that is no status stands for 500. -/
def response (name : String) (held : Bool) (status : Nat) : Response CloseHook :=
  ⟨if Response.isStatus status then status else 500, [], Body.empty.onClose ⟨name, held⟩⟩

/-- Runs the closing hooks of a response. -/
def runHooks (n : Network) (hooks : List CloseHook) : Network :=
  hooks.foldl
    (fun n hook => n.update hook.host fun h =>
      if hook.held then { h with heldClosed := h.heldClosed + 1 }
      else { h with closed := h.closed + 1 })
    n

/-- Closes a response. -/
def close (n : Network) (r : Response CloseHook) : Network := n.runHooks r.close

/-- Drops a result; a response is closed. -/
def discard (n : Network) (result : HostResult) : Network :=
  match result with
  | .ok r => n.close r
  | .error _ => n

/-- How long a host lets a caller wait before it gives up. -/
def timeout : Nanos := .seconds 30

/-- What an outcome makes of a call: a result, if it has one at once. -/
def resultOf (name : String) (held : Bool) : Scripted → Option HostResult
  | .respond status => some (.ok (response name held status))
  | .refuse => some (.error (.connect name "connection refused"))
  | .timeOut => some (.error (.timeout name timeout))
  | .fail e => some (.error e)
  | .silent | .delayed _ _ | .hold => none

/-- Starts a call: takes the next outcome of the host's script. -/
def start (n : Network) (name endpoint : String) : HostCall × Network :=
  let h := n.host name
  let outcome := h.script.head?.getD (.respond 200)
  let n := n.update name fun h => { h with script := h.script.tail }
  let counted := n.update name fun h =>
    { h with calls := h.calls + 1, endpoints := h.endpoints ++ [endpoint] }
  match outcome with
  | .respond status => (.ended name (.ok (response name false status)) true, counted)
  | .refuse => (.ended name (.error (.connect name "connection refused")) true, counted)
  | .timeOut => (.ended name (.error (.timeout name timeout)) true, counted)
  | .silent => (.silent name, counted)
  | .delayed delay status => (.delayed name delay none (response name false status), counted)
  | .fail e => (.ended name (.error e) false, n)
  | .hold =>
    let number := n.held.size
    (.held name number,
      { n.update name fun h => { h with holding := h.holding ++ [number] } with
        held := n.held.push ⟨none, false⟩ })

/-- Polls a call: its result, if it has ended. -/
def poll (n : Network) (now : Instant) (c : HostCall) : Option HostResult × HostCall :=
  match c with
  | .ended _ result _ => (some result, c)
  | .silent _ => (none, c)
  | .delayed name delay alarm response =>
    let alarm := alarm.getD (.after now delay)
    if alarm.isDue now then (some (.ok response), c)
    else (none, .delayed name delay (some alarm) response)
  | .held _ number => ((n.held[number]?).bind (·.result), c)

/-- Drops a call before it has ended. A response on its way is closed. -/
def drop (n : Network) (c : HostCall) : Network :=
  let countDropped (n : Network) (name : String) : Network :=
    n.update name fun h => { h with dropped := h.dropped + 1 }
  match c with
  | .ended name result counted =>
    let n := n.discard result
    if counted then countDropped n name else n
  | .silent name => countDropped n name
  | .delayed name _ _ response => countDropped (n.close response) name
  | .held _ number =>
    match n.held[number]? with
    | some held =>
      let n := { n with held := n.held.setIfInBounds number { held with dropped := true } }
      match held.result with
      | some result => n.discard result
      | none => n
    | none => n

/-- How the attempt to end a call on hold went. -/
inductive Finished where
  | sent
  /-- The call had been dropped. -/
  | gone
  /-- There was no such call. -/
  | missing
  deriving Repr, DecidableEq

/-- Tells the `nth` oldest call on hold how to end. The host is known from then on,
even if it has no such call. -/
def finish (n : Network) (name : String) (outcome : Scripted) (nth : Nat) : Finished × Network :=
  match (n.host name).holding[nth]? with
  | none => (.missing, n.meet name)
  | some number =>
    let n := n.update name fun h => { h with holding := h.holding.eraseIdx nth }
    match n.held[number]?, resultOf name true outcome with
    | some held, some result =>
      if held.dropped then (.gone, n.discard result)
      else
        (.sent, { n with held := n.held.setIfInBounds number { held with result := some result } })
    | _, _ => (.sent, n)

end Network

end RpcPipeline
