import RpcPipeline.Metrics.Event
import RpcPipeline.Retry.Backoff
import RpcPipeline.Time.Alarm
import RpcPipeline.Transport.Network

/-!
# `RpcPipeline.Retry.Retry`: calls that are tried more than once

A call is a sequence of attempts with pauses in between. The first attempt is
made when the call is; everything after that happens when the call is polled. A
pause begins at the poll that ends the attempt before it. The settings are those
of the moment at which the call is made.

A response that is given up for another attempt is closed before the pause.

* `RetryingCall.start`: the first attempt.
* `RetryingCall.poll`: goes on as far as possible.
* `RetryingCall.drop`: gives up.
-/

set_option autoImplicit false

namespace RpcPipeline

/-- How attempts are made, which are of type `γ`. -/
structure Dispatcher (α γ σ : Type) where
  submit : Endpoint → Request → σ → γ × σ
  poll : γ → σ → Option HostResult × γ × σ
  /-- Drops an attempt before it has ended. -/
  drop : γ → σ → σ
  settings : σ → RetryConfig α
  now : σ → Instant
  emit : List (Event α) → σ → σ
  /-- Closes a response. -/
  close : Response CloseHook → σ → σ
  /-- Makes random draws. -/
  draw : (RandomStream → Nanos × RandomStream) → σ → Nanos × σ
  /-- One more call depends on the dispatcher. -/
  hold : σ → σ
  /-- One call less depends on the dispatcher. -/
  release : σ → σ

/-- What a call is doing. -/
inductive RetryPhase (γ : Type) where
  | attempting (attempt : γ)
  | pausing (alarm : Alarm)

/-- A call that is tried more than once. -/
structure RetryingCall (α γ : Type) where
  endpoint : Endpoint
  request : Request
  settings : RetryConfig α
  /-- The number of the latest attempt; the first is one. -/
  attempt : Nat
  /-- The delay of the latest pause, without jitter. -/
  lastDelay : Option Nanos
  phase : RetryPhase γ
  /-- Whether the call was polled. -/
  polled : Bool

namespace RetryingCall

variable {α γ σ : Type}

/-- Makes the first attempt. -/
def start (d : Dispatcher α γ σ) (e : Endpoint) (r : Request) (s : σ) :
    RetryingCall α γ × σ :=
  let (attempt, s) := d.submit e r s
  ({ endpoint := e, request := r, settings := d.settings s, attempt := 1, lastDelay := none,
     phase := .attempting attempt, polled := false }, d.hold s)

variable [Scalar α]

/-- Goes on as far as possible, in at most as many steps as the first argument. -/
def proceed (d : Dispatcher α γ σ) :
    Nat → RetryingCall α γ → σ → Option HostResult × RetryingCall α γ × σ
  | 0, c, s => (none, c, s)
  | fuel + 1, c, s =>
    match c.phase with
    | .attempting attempt =>
      match d.poll attempt s with
      | (none, attempt, s) => (none, { c with phase := .attempting attempt }, s)
      | (some result, attempt, s) =>
        match c.settings.verdict c.request.isReplayable c.attempt c.lastDelay result with
        | .done => (some result, { c with phase := .attempting attempt }, s)
        | .exhausted reason =>
          (some result, { c with phase := .attempting attempt },
            d.emit [.exhausted c.endpoint.label c.attempt reason] s)
        | .again reason delay =>
          -- The pause is drawn before the retry is reported and the response is closed.
          let (pause, s) := d.draw (c.settings.jittered delay) s
          let s := d.emit [.retry c.endpoint.label c.attempt reason] s
          let s :=
            match result with
            | .ok r => d.close r s
            | .error _ => s
          proceed d fuel
            { c with phase := .pausing (.after (d.now s) pause), lastDelay := some delay } s
    | .pausing alarm =>
      -- A pause of no length is over at once, so the loop may go straight on.
      if alarm.isDue (d.now s) then
        let (attempt, s) := d.submit c.endpoint c.request s
        proceed d fuel { c with phase := .attempting attempt, attempt := c.attempt + 1 } s
      else (none, c, s)

/-- The number of steps that are left to a call: two for each attempt. -/
def steps (c : RetryingCall α γ) : Nat := 2 * (c.settings.maxRetries.toNat + 2 - c.attempt)

/-- Goes on as far as possible: the result, if the call ends. -/
def poll (d : Dispatcher α γ σ) (c : RetryingCall α γ) (s : σ) :
    Option HostResult × RetryingCall α γ × σ :=
  match proceed d c.steps { c with polled := true } s with
  | (some result, c, s) => (some result, c, d.release s)
  | (none, c, s) => (none, c, s)

omit [Scalar α] in
/-- Drops what a call is doing. -/
def dropPhase (d : Dispatcher α γ σ) (c : RetryingCall α γ) (s : σ) : σ :=
  match c.phase with
  | .attempting attempt => d.drop attempt s
  | .pausing _ => s

omit [Scalar α] in
/-- Gives up a call before it has ended. A call that was never polled lets go of
the dispatcher first. -/
def drop (d : Dispatcher α γ σ) (c : RetryingCall α γ) (s : σ) : σ :=
  if c.polled then d.release (c.dropPhase d s) else c.dropPhase d (d.release s)

end RetryingCall

end RpcPipeline
