import RpcPipeline.Call.Endpoint
import RpcPipeline.Hosts.Fleet
import RpcPipeline.Selection.Ranking
import RpcPipeline.Selection.Pinning

/-!
# `RpcPipeline.Selection.Selection`: which host takes a call

Every call is offered to the hosts in use. The strategy of the settings decides
which host is asked first and whether another one is asked after it. If no host
takes the call, the call is refused and may be offered again later. A request
may ask for one host of the fleet; then no other host is asked.

What a strategy has learnt lasts as long as the settings name it. A new strategy
starts from nothing, and a call that was sent under an earlier one teaches it
nothing.

* `Selection.offer`: offers a call to the hosts.
* `Selection.poll`, `Selection.drop`: the life of a call that a host took.
-/

set_option autoImplicit false

namespace RpcPipeline

/-- What the strategy in use remembers. -/
inductive Selector (α : Type) where
  | balanced (b : Ranking α)
  | pin (p : Pinning)

/-- The hosts in use and the strategy that chooses among them. -/
structure Selection (α : Type) where
  fleet : Fleet α
  strategy : Strategy
  selector : Selector α
  /-- The number of times that the strategy was replaced. -/
  epoch : Nat
  /-- Where seeds come from if the settings have none. -/
  entropy : RandomStream

/-- A call that is no longer refused. -/
inductive SelectedCall (α : Type) where
  /-- There are no hosts at all. -/
  | noHosts (service : String)
  /-- A host took the call, under the strategy of an epoch and its settings. -/
  | hosted (call : HostedCall) (epoch : Nat) (settings : SelectionConfig α)

namespace Selector

variable {α : Type}

/-- A strategy that remembers nothing yet. -/
def new (strategy : Strategy) (random : RandomStream) : Selector α :=
  match strategy with
  | .balanced => .balanced (.new random)
  | .pinUntilError | .pinWithoutReshuffle => .pin (.new random)

/-- The pinned host, if the strategy pins one. -/
def pinned : Selector α → Option HostId
  | balanced _ => none
  | pin p => p.pinned

/-- Learns from the outcome of a call to a host. -/
def learn [Scalar α] (s : Selector α) (now : Instant) (settings : SelectionConfig α) (id : HostId)
    (outcome : Outcome) : Selector α :=
  match s with
  | balanced b =>
    match outcome with
    | .overloaded =>
      balanced (b.penalize now settings.failureHalfLife id settings.overloadPenalty)
    | .hostFailure =>
      balanced (b.penalize now settings.failureHalfLife id settings.failurePenalty)
    | .success | .serverError | .ignored => balanced b
  | pin p => if outcome.isFailure then pin (p.unpin id) else pin p

end Selector

namespace Selection

variable {α : Type}

/-- The random draws of a new strategy: those of the seed in the settings, or of
a seed drawn for the purpose. -/
def drawsFor (settings : SelectionConfig α) (entropy : RandomStream) :
    RandomStream × RandomStream :=
  match settings.seed with
  | some seed => (.ofSeed seed, entropy)
  | none =>
    let (seed, entropy) := entropy.next64
    (.ofSeed (UInt64.ofNat seed), entropy)

/-- The strategy of the settings, over a fleet. -/
def new (fleet : Fleet α) (entropy : RandomStream) : Selection α :=
  let settings := fleet.config.value.selection
  let (random, entropy) := drawsFor settings entropy
  { fleet := fleet, strategy := settings.strategy, selector := .new settings.strategy random,
    epoch := 0, entropy := entropy }

/-- Changes the fleet. -/
def onFleet (s : Selection α) (f : Fleet α → Fleet α) : Selection α :=
  { s with fleet := f s.fleet }

/-- The time. -/
def now (s : Selection α) : Instant := s.fleet.outside.now

/-- The pinned host, if the strategy pins one. -/
def pinned (s : Selection α) : Option HostId := s.selector.pinned

/-- Goes over to the strategy of the settings if it is another one. -/
def adopt (s : Selection α) (settings : SelectionConfig α) : Selection α :=
  if s.strategy = settings.strategy then s
  else
    let (random, entropy) := drawsFor settings s.entropy
    { s with
      strategy := settings.strategy
      selector := .new settings.strategy random
      epoch := s.epoch + 1
      entropy := entropy }

variable [Scalar α]

/-- Offers a call to one host. -/
def sendTo (s : Selection α) (settings : SelectionConfig α) (endpoint : Endpoint) (serial : Nat) :
    Option (SelectedCall α) × Selection α :=
  let (call, fleet) := s.fleet.offer serial endpoint.label
  (call.map fun c => .hosted c s.epoch settings, { s with fleet := fleet })

/-- Offers a call to hosts in turn, until one takes it. -/
def sendToFirst (s : Selection α) (settings : SelectionConfig α) (endpoint : Endpoint) :
    List Nat → Option (SelectedCall α) × Selection α
  | [] => (none, s)
  | serial :: rest =>
    match s.sendTo settings endpoint serial with
    | (some call, s) => (some call, s)
    | (none, s) => s.sendToFirst settings endpoint rest

/-- Lets balanced selection follow the hosts in use. -/
def track (s : Selection α) : Selection α :=
  match s.selector with
  | .balanced b => { s with selector := .balanced (b.track s.now s.fleet.version s.fleet.ids) }
  | .pin _ => s

/-- The hosts that the strategy asks, in order. A pinned host is not excluded when
it is chosen, so if it refuses it has no free slot, and the call has to wait. -/
def choices (s : Selection α) (settings : SelectionConfig α) : List Nat × Selection α :=
  match s.selector with
  | .balanced b =>
    let (order, b) := b.rank s.now settings.failureHalfLife
      (fun h => h.2.id) (fun h => h.2.limiter.inFlight) s.fleet.hosts
    (order.map (·.1), { s with selector := .balanced b })
  | .pin p =>
    let interval :=
      if s.strategy = .pinUntilError then settings.reshuffleInterval else none
    let (chosen, p) := p.current s.now interval s.fleet.ids s.fleet.excludes
    (((chosen.bind s.fleet.find?).map (·.1)).toList, { s with selector := .pin p })

/-- Offers a call to the hosts in use. -/
def offer (s : Selection α) (endpoint : Endpoint) (request : Request) :
    Option (SelectedCall α) × Selection α :=
  let settings := s.fleet.config.value.selection
  let s := s.onFleet Fleet.refresh
  if s.fleet.members.isEmpty then (some (.noHosts endpoint.service), s)
  else
    let s := (s.adopt settings).track
    -- A hint at a host that is not in use counts for nothing.
    match request.attachments.value.hint?.bind s.fleet.find? with
    | some (serial, _) => s.sendTo settings endpoint serial
    | none =>
      let (serials, s) := s.choices settings
      s.sendToFirst settings endpoint serials

/-- Polls a call. When it ends, its host learns from the result, and then the
strategy, if it is still the one that sent the call. -/
def poll (s : Selection α) (c : SelectedCall α) :
    Option HostResult × SelectedCall α × Selection α :=
  match c with
  | .noHosts service => (some (.error (.noHosts service)), c, s)
  | .hosted call epoch settings =>
    match s.fleet.poll call with
    | (none, call, fleet) => (none, .hosted call epoch settings, { s with fleet := fleet })
    | (some result, call, fleet) =>
      let s := { s with fleet := fleet }
      let c := .hosted call epoch settings
      match s.fleet.servers[call.serial]? with
      | some h =>
        if epoch = s.epoch then
          (some result, c,
            { s with selector := s.selector.learn s.now settings h.id (.classify result) })
        else (some result, c, s)
      | none => (some result, c, s)

omit [Scalar α] in
/-- Drops a call, of which nothing is learnt. -/
def drop (s : Selection α) (c : SelectedCall α) : Selection α :=
  match c with
  | .noHosts _ => s
  | .hosted call _ _ => s.onFleet (·.drop call)

/-- The selection as debug texts show it. -/
def debugText (s : Selection α) : String :=
  let strategy :=
    match s.strategy with
    | .balanced => "Balanced"
    | .pinUntilError => "PinUntilError"
    | .pinWithoutReshuffle => "PinUntilErrorWithoutReshuffle"
  Text.record "NodeSelectionChannel"
    [ ("strategy", strategy),
      ("hosts", Text.record "HostSet"
        [ ("version", toString s.fleet.version),
          ("hosts", toString s.fleet.members.length) ]) ]

end Selection

end RpcPipeline
