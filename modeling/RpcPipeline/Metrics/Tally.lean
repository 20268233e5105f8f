import RpcPipeline.Metrics.Event

/-!
# `RpcPipeline.Metrics.Tally`: counts over a log

The counts that sum up a run: a fold over its events.
-/

set_option autoImplicit false

namespace RpcPipeline

/-- Counts over the events of a run. -/
structure Tally where
  retries : Nat
  /-- The attempts of each call that used up its retries. -/
  exhausted : List Nat
  blacklists : Nat
  rejections : Nat
  requests : Nat
  failed : Nat
  maxQueueDepth : Nat
  dnsSuccess : Nat
  dnsFailure : Nat
  dnsFallback : Nat
  dnsEmpty : Nat
  deriving Repr, DecidableEq

namespace Tally

/-- The counts of nothing. -/
def zero : Tally := ⟨0, [], 0, 0, 0, 0, 0, 0, 0, 0, 0⟩

/-- Counts one more event. -/
def add {α : Type} (t : Tally) : Event α → Tally
  | .admission _ admitted => if admitted then t else { t with rejections := t.rejections + 1 }
  | .queueDepth depth => { t with maxQueueDepth := max t.maxQueueDepth depth }
  | .retry _ _ _ => { t with retries := t.retries + 1 }
  | .exhausted _ attempts _ => { t with exhausted := t.exhausted ++ [attempts] }
  | .dns _ .success => { t with dnsSuccess := t.dnsSuccess + 1 }
  | .dns _ .failure => { t with dnsFailure := t.dnsFailure + 1 }
  | .dns _ .fallback => { t with dnsFallback := t.dnsFallback + 1 }
  | .dns _ .empty => { t with dnsEmpty := t.dnsEmpty + 1 }
  | .blacklisted _ _ => { t with blacklists := t.blacklists + 1 }
  | .request _ _ success =>
    { t with requests := t.requests + 1, failed := if success then t.failed else t.failed + 1 }
  | .inFlight _ _ | .limit _ _ | .created _ _ | .called _ _ => t

/-- The counts of a run. -/
def ofEvents {α : Type} (events : List (Event α)) : Tally := events.foldl add zero

end Tally

end RpcPipeline
