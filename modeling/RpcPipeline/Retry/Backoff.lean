import RpcPipeline.Call.Response
import RpcPipeline.Config.Sections
import RpcPipeline.Random.Stream

/-!
# `RpcPipeline.Retry.Backoff`: whether and when to try again

An attempt is repeated if its result says that another one may help, if the
request can be sent again, and if retries are left. Each retry waits longer than
the one before, by a factor and up to a bound; a random share makes the wait
longer or shorter.

* `Retry.reason`: why a result may be worth another attempt.
* `RetryConfig.nextDelay`, `RetryConfig.jittered`: how long to wait.
* `RetryConfig.verdict`: what follows an attempt.
-/

set_option autoImplicit false

namespace RpcPipeline

/-- Why a result is worth another attempt, if it is. -/
def Retry.reason {η : Type} : CallResult η → Option String
  | .ok r =>
    if r.status = 429 then some "throttled"
    else if r.status = 503 then some "unavailable"
    else none
  | .error e => if e.isRetryable then some e.label else none

/-- What follows an attempt. -/
inductive Verdict where
  /-- The result stands. -/
  | done
  /-- The result stands, as no retries are left. -/
  | exhausted (reason : String)
  /-- Another attempt is made after a delay, before any jitter. -/
  | again (reason : String) (delay : Nanos)
  deriving Repr, DecidableEq

namespace RetryConfig

variable {α : Type} [Scalar α]

/-- The delay after a given one: the first is the initial backoff, and further ones
grow up to the largest. -/
def nextDelay (c : RetryConfig α) : Option Nanos → Nanos
  | none => c.initialBackoff
  | some delay =>
    min (if delay < c.maxBackoff then Scalar.grow c.multiplier delay else delay) c.maxBackoff

/-- What follows the attempt with a number, the first of which is one, given the
delay before it. -/
def verdict {η : Type} (c : RetryConfig α) (replayable : Bool) (attempt : Nat)
    (lastDelay : Option Nanos) (result : CallResult η) : Verdict :=
  match Retry.reason result with
  | none => .done
  | some reason =>
    if !replayable then .done
    else if attempt ≤ c.maxRetries.toNat then .again reason (c.nextDelay lastDelay)
    else if 1 < attempt then .exhausted reason
    else .done

/-- A delay, longer or shorter by a random share. Without jitter nothing is
drawn. -/
def jittered (c : RetryConfig α) (delay : Nanos) (random : RandomStream) :
    Nanos × RandomStream :=
  if c.jitter ≤ 0 then (delay, random)
  else
    let share : α := Scalar.smaller c.jitter 1
    let (unit, random) : α × RandomStream := random.unit52
    (Scalar.stretch delay ((1 - share) + unit * (share + share)), random)

end RetryConfig

end RpcPipeline
