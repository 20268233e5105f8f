import RpcPipeline.Call.Response
import RpcPipeline.Queue.Lanes
import RpcPipeline.Time.Alarm
import RpcPipeline.Transport.Network

/-!
# `RpcPipeline.Queue.Queue`: calls that wait for a host

A call that no host takes waits in a queue of limited size. As long as nothing
waits, a new call is offered to the hosts at once. Otherwise waiting calls are
offered in passes: a pass takes the next call and offers it, until a call is
refused, which goes back to its place. A pass follows whenever a call is queued
and whenever a call that went through the queue ends or is dropped; if nothing
is under way, so that none of that would happen, a timer sees to it. A pass that
is asked for while one runs makes that one run again.

A call that is taken is handed to whoever waits for it and proceeds only when
polled. If nobody waits any more, it is dropped.

What lies behind the queue is a `Backend`. It may call back into the queue while
it is asked, so it gets the queue along with its own state.

* `Queue.submit`: a new call.
* `Queue.trigger`, `Queue.pass`: passes.
* `Queue.poll`, `Queue.drop`: the life of a call.
* `Queue.close`, `Queue.die`: the end of the queue.
-/

set_option autoImplicit false

namespace RpcPipeline

/-- What a waiting call finds when it is polled. -/
inductive Slot (κ : Type) where
  /-- Nothing yet. -/
  | empty
  /-- The call, taken by a host. -/
  | filled (call : κ)
  /-- The queue has given the call up. -/
  | abandoned
  deriving Repr

/-- A queue of calls, which are of type `κ` once a host has taken them. A call that a pass
is just offering counts as waiting. -/
structure Queue (κ : Type) extends WaitingRoom where
  nextId : Nat
  /-- The number of calls that were taken and have not ended. -/
  inFlight : Nat
  /-- What each call finds for which somebody waits. -/
  slots : Table Nat (Slot κ)
  /-- Whether a pass runs. -/
  running : Bool
  /-- Whether a pass was asked for. -/
  rerun : Bool
  /-- The number of passes so far. -/
  rounds : Nat
  /-- Whether a timer counts as set. -/
  armed : Bool
  /-- The timers that were set and have not gone off. -/
  timers : List Alarm
  /-- Whether there are timers at all. -/
  timed : Bool
  closed : Bool
  /-- Whether anybody still holds the queue. -/
  alive : Bool

/-- A call to a queue. -/
inductive QueuedCall (κ : Type) where
  /-- Turned away. -/
  | refused (error : CallError)
  /-- Under way. -/
  | running (call : κ)
  /-- Waiting, under the number of a slot. -/
  | waiting (id : Nat)
  deriving Repr

/-- What lies behind a queue. -/
structure Backend (κ σ : Type) where
  /-- Offers a call. -/
  offer : Endpoint → Request → Queue κ → σ → Option κ × Queue κ × σ
  /-- Polls a call that was taken. -/
  poll : κ → σ → Option HostResult × κ × σ
  /-- Drops a call that was taken, before it has ended. -/
  drop : κ → σ → σ
  settings : σ → QueueConfig
  now : σ → Instant
  /-- Reports the number of waiting calls. -/
  report : Nat → σ → σ
  /-- How often offers may call back into the queue at most. -/
  callbacks : σ → Nat

namespace Queue

variable {κ : Type}

/-- A queue without calls. -/
def new (timed : Bool) : Queue κ :=
  { WaitingRoom.empty with
    nextId := 0, inFlight := 0, slots := {}, running := false, rerun := false, rounds := 0,
    armed := false, timers := [], timed := timed, closed := false, alive := true }

/-- Gives up a call that waits. -/
def abandon (q : Queue κ) (id : Nat) : Queue κ :=
  { q with slots := q.slots.modify id fun
      | .empty => .abandoned
      | slot => slot }

/-- Stops counting a call that a pass has taken. -/
def settle (q : Queue κ) : Queue κ := { q with toWaitingRoom := q.toWaitingRoom.settle }

/-- Whether nobody waits for a call any more. -/
def isDeserted (q : Queue κ) (id : Nat) : Bool := (q.slots.get? id).isNone

/-- A call joins the queue, with a slot of its own. -/
def enqueue (q : Queue κ) (fairness : Fairness) (id : Nat) (e : Endpoint) (r : Request) :
    Queue κ :=
  { q with
    toWaitingRoom := q.push fairness ⟨id, e, r⟩
    slots := q.slots.insert id .empty }

/-- Sets a timer, if there are timers and none counts as set. -/
def arm (q : Queue κ) (now : Instant) (delay : Nanos) : Queue κ :=
  if q.armed || !q.timed then q
  else { q with armed := true, timers := q.timers ++ [.after now delay] }

/-- The timer that goes off next. -/
def timer (q : Queue κ) : Option Alarm := q.timers.head?

/-- Gives up every call that waits in a lane. -/
def abandonAll (q : Queue κ) : Queue κ :=
  let (waiters, room) := q.drain
  { waiters.foldl (fun q w => q.abandon w.id) q with toWaitingRoom := room }

/-- Nobody holds the queue any more: what waits is given up, and nothing that
happens to calls under way concerns it. -/
def die (q : Queue κ) : Queue κ := { q.abandonAll with alive := false }

/-- Whether the time of a timer has come. -/
def isDue (q : Queue κ) (now : Instant) : Bool := q.timers.any (·.isDue now)

/-- A timer goes off, after which none counts as set. -/
def ring (q : Queue κ) (now : Instant) : Queue κ :=
  { q with armed := false, timers := q.timers.eraseP (·.isDue now) }

variable {σ : Type}

/-- Hands a call that was taken to whoever waits for it. If nobody does, the call
is dropped, which asks for another pass. -/
def hand (b : Backend κ σ) (id : Nat) (call : κ) (q : Queue κ) (s : σ) : Queue κ × σ :=
  if q.isDeserted id then
    ({ q with inFlight := q.inFlight - 1, rerun := true }, b.drop call s)
  else ({ q with slots := q.slots.insert id (.filled call) }, s)

/-- Offers waiting calls in turn, until one is refused or none is left: whether
one was refused. The first argument bounds the number of calls taken. -/
def offerAll (b : Backend κ σ) (fairness : Fairness) :
    Nat → Queue κ → σ → Bool × Queue κ × σ
  | 0, q, s => (false, q, s)
  | fuel + 1, q, s =>
    match q.pop with
    | none => (false, q, s)
    | some (w, room) =>
      let q := { q with toWaitingRoom := room }
      -- Whoever waited has gone, or the queue was closed while an earlier call was offered.
      if q.isDeserted w.id || q.closed then
        offerAll b fairness fuel (q.settle.abandon w.id) s
      else
        match b.offer w.endpoint w.request q s with
        | (some call, q, s) =>
          let (q, s) := hand b w.id call { q.settle with inFlight := q.inFlight + 1 } s
          offerAll b fairness fuel q s
        | (none, q, s) =>
          -- The queue may have been closed by the offer itself.
          if q.closed then (false, q.settle.abandon w.id, s)
          else (true, { q with toWaitingRoom := q.restore fairness w }, s)

/-- One pass. If it ends with a call refused and nothing is under way, the timer is
set. -/
def pass (b : Backend κ σ) (q : Queue κ) (s : σ) : Queue κ × σ :=
  let fairness := (b.settings s).fairness
  let q := { q with rounds := q.rounds + 1 }
  let (stalled, q, s) := offerAll b fairness (q.lanes.count + b.callbacks s + 1) q s
  let s := b.report q.len s
  if stalled && q.inFlight = 0 then (q.arm (b.now s) (b.settings s).stallRetryDelay, s)
  else (q, s)

/-- Passes as long as one is asked for, up to a bound. -/
def passes (b : Backend κ σ) : Nat → Queue κ → σ → Queue κ × σ
  | 0, q, s => ({ q with running := false }, s)
  | fuel + 1, q, s =>
    if q.rerun then
      let (q, s) := pass b { q with rerun := false } s
      passes b fuel q s
    else ({ q with running := false }, s)

/-- Asks for a pass, which is run at once unless one runs already. -/
def trigger (b : Backend κ σ) (q : Queue κ) (s : σ) : Queue κ × σ :=
  let q := { q with rerun := true }
  if q.running then (q, s)
  else passes b (2 * b.callbacks s + 2) { q with running := true } s

/-- A new call: offered at once if nothing waits, else queued if there is room. -/
def submit (b : Backend κ σ) (e : Endpoint) (r : Request) (q : Queue κ) (s : σ) :
    QueuedCall κ × Queue κ × σ :=
  if q.closed then (.refused .cancelled, q, s)
  else
    -- Nobody is overtaken: the direct way is open only while nothing waits.
    match if q.len = 0 then b.offer e r q s else (none, q, s) with
    | (some call, q, s) => (.running call, { q with inFlight := q.inFlight + 1 }, s)
    | (none, q, s) =>
      let settings := b.settings s
      -- A refused offer may have queued calls, so the room is counted afterwards.
      let id := q.nextId
      let q := { q with nextId := id + 1 }
      if settings.capacity.toNat ≤ q.len then
        (.refused (.queueFull settings.capacity.toNat), q, s)
      else
        let q := q.enqueue settings.fairness id e r
        let (q, s) := trigger b q (b.report q.len s)
        (.waiting id, q, s)

/-- A call that was taken has ended or was dropped. -/
def leave (b : Backend κ σ) (q : Queue κ) (s : σ) : Queue κ × σ :=
  if q.alive then trigger b { q with inFlight := q.inFlight - 1 } s else (q, s)

/-- Polls a call that was taken. -/
def pollTaken (b : Backend κ σ) (call : κ) (q : Queue κ) (s : σ) :
    Option HostResult × QueuedCall κ × Queue κ × σ :=
  match b.poll call s with
  | (some result, call, s) =>
    let (q, s) := leave b q s
    (some result, .running call, q, s)
  | (none, call, s) => (none, .running call, q, s)

/-- Polls a call. -/
def poll (b : Backend κ σ) (c : QueuedCall κ) (q : Queue κ) (s : σ) :
    Option HostResult × QueuedCall κ × Queue κ × σ :=
  match c with
  | .refused e => (some (.error e), c, q, s)
  | .running call => pollTaken b call q s
  | .waiting id =>
    match q.slots.get? id with
    | some .empty => (none, c, q, s)
    | some (.filled call) => pollTaken b call { q with slots := q.slots.erase id } s
    | some .abandoned | none =>
      (some (.error .cancelled), c, { q with slots := q.slots.erase id }, s)

/-- Drops a call that was taken, before it has ended. -/
def dropTaken (b : Backend κ σ) (call : κ) (q : Queue κ) (s : σ) : Queue κ × σ :=
  leave b q (b.drop call s)

/-- A call leaves its lane, if it waits in one. -/
def withdraw (b : Backend κ σ) (id : Nat) (q : Queue κ) (s : σ) : Queue κ × σ :=
  match q.remove? id with
  | some room => ({ q with toWaitingRoom := room }, b.report room.len s)
  | none => (q, s)

/-- Drops a call before it has ended. A call that waits leaves its lane. -/
def drop (b : Backend κ σ) (c : QueuedCall κ) (q : Queue κ) (s : σ) : Queue κ × σ :=
  match c with
  | .refused _ => (q, s)
  | .running call => dropTaken b call q s
  | .waiting id =>
    let (q, s) := withdraw b id q s
    -- The call may have been taken without its having been polled since.
    let slot := q.slots.get? id
    let q := { q with slots := q.slots.erase id }
    match slot with
    | some (.filled call) => dropTaken b call q s
    | _ => (q, s)

/-- Closes the queue: it takes no more calls, and what waits is given up. -/
def close (b : Backend κ σ) (q : Queue κ) (s : σ) : Queue κ × σ :=
  if q.closed then (q, s) else ({ q with closed := true }.abandonAll, b.report 0 s)

/-- Lets a timer go off if its time has come. -/
def fire (b : Backend κ σ) (q : Queue κ) (s : σ) : Queue κ × σ :=
  if q.isDue (b.now s) then
    let q := q.ring (b.now s)
    -- The timer is spent even if there is nothing left to do.
    if q.closed || !q.alive then (q, s) else trigger b q s
  else (q, s)

end Queue

end RpcPipeline
