import RpcPipeline.Number.Scalar

/-!
# `RpcPipeline.Config.Sections`: the settings of a pipeline

Settings come in sections, one for each part of the pipeline. Every setting has
a standard value.
-/

set_option autoImplicit false

namespace RpcPipeline

/-- How calls are spread over hosts. -/
inductive Strategy where
  /-- Prefers the host with the least load and the fewest recent failures. -/
  | balanced
  /-- Stays with one host until a call to it fails, and may move on regularly. -/
  | pinUntilError
  /-- Stays with one host until a call to it fails. -/
  | pinWithoutReshuffle
  deriving Repr, DecidableEq

/-- The strategies and their names. -/
def Strategy.names : List (String × Strategy) :=
  [ ("BALANCED", balanced), ("PIN_UNTIL_ERROR", pinUntilError),
    ("PIN_UNTIL_ERROR_WITHOUT_RESHUFFLE", pinWithoutReshuffle) ]

/-- The name of a strategy. -/
def Strategy.name : Strategy → String
  | balanced => "BALANCED"
  | pinUntilError => "PIN_UNTIL_ERROR"
  | pinWithoutReshuffle => "PIN_UNTIL_ERROR_WITHOUT_RESHUFFLE"

/-- The order in which waiting calls are served. -/
inductive Fairness where
  /-- The order of arrival. -/
  | fifo
  /-- One lane for each endpoint, the lanes in turn. -/
  | roundRobin
  deriving Repr, DecidableEq

/-- The orders of service and their names. -/
def Fairness.names : List (String × Fairness) :=
  [("FIFO", fifo), ("ROUND_ROBIN_BY_ENDPOINT", roundRobin)]

/-- Settings of the choice of a host. -/
structure SelectionConfig (α : Type) where
  strategy : Strategy
  /-- How long a host stays pinned at most. -/
  reshuffleInterval : Option Nanos
  /-- Where random draws start. -/
  seed : Option UInt64
  /-- How long a penalty takes to lose half its weight. -/
  failureHalfLife : Nanos
  overloadPenalty : α
  failurePenalty : α
  deriving Repr, BEq

/-- Settings of retries. -/
structure RetryConfig (α : Type) where
  maxRetries : UInt32
  initialBackoff : Nanos
  maxBackoff : Nanos
  /-- The factor from one backoff to the next. -/
  multiplier : α
  /-- The share of a backoff by which it may be longer or shorter. -/
  jitter : α
  deriving Repr, BEq

/-- Settings of the limit on concurrent calls to a host. -/
structure LimitConfig (α : Type) where
  initialLimit : α
  minLimit : α
  maxLimit : α
  /-- The factor by which trouble shrinks the limit. -/
  backoffRatio : α
  /-- How many times the least latency still counts as quick. -/
  latencyTolerance : α
  deriving Repr, BEq

/-- Settings of the exclusion of failing hosts. -/
structure BlacklistConfig (α : Type) where
  cooldown : Nanos
  /-- The share of the cooldown that is added at random at most. -/
  cooldownJitter : α
  /-- How many overloads in a row exclude a host. -/
  overloadThreshold : UInt32
  deriving Repr, BEq

/-- Settings of name resolution. -/
structure DnsConfig where
  enabled : Bool
  refreshInterval : Nanos
  /-- The port of a host whose URI has none and whose scheme has none. -/
  defaultPort : UInt16
  deriving Repr, BEq, DecidableEq

/-- Settings of the queue. -/
structure QueueConfig where
  capacity : UInt64
  fairness : Fairness
  /-- How long a pass that got stuck waits for the next one. -/
  stallRetryDelay : Nanos
  deriving Repr, BEq, DecidableEq

/-- All settings of a pipeline. -/
structure ClientConfig (α : Type) where
  /-- Base addresses of the hosts. -/
  uris : List String
  selection : SelectionConfig α
  retry : RetryConfig α
  limit : LimitConfig α
  blacklist : BlacklistConfig α
  dns : DnsConfig
  queue : QueueConfig
  /-- The name under which the pipeline reports. -/
  name : String
  deriving Repr, BEq

variable {α : Type} [Scalar α]

/-- The fraction `n / d`. -/
def fraction (n d : Nat) : α := Scalar.ofNat n / Scalar.ofNat d

/-- The standard settings of the choice of a host. -/
def SelectionConfig.standard : SelectionConfig α :=
  { strategy := .balanced, reshuffleInterval := none, seed := none,
    failureHalfLife := .seconds 30, overloadPenalty := Scalar.ofNat 5,
    failurePenalty := Scalar.ofNat 10 }

/-- The standard settings of retries. -/
def RetryConfig.standard : RetryConfig α :=
  { maxRetries := 4, initialBackoff := .millis 250, maxBackoff := .seconds 5,
    multiplier := Scalar.ofNat 2, jitter := fraction 1 4 }

/-- The standard settings of the limit. -/
def LimitConfig.standard : LimitConfig α :=
  { initialLimit := Scalar.ofNat 20, minLimit := 1, maxLimit := Scalar.ofNat 1000,
    backoffRatio := fraction 9 10, latencyTolerance := Scalar.ofNat 2 }

/-- The standard settings of the exclusion of hosts. -/
def BlacklistConfig.standard : BlacklistConfig α :=
  { cooldown := .seconds 2, cooldownJitter := fraction 1 2, overloadThreshold := 3 }

/-- The standard settings of name resolution. -/
def DnsConfig.standard : DnsConfig :=
  { enabled := true, refreshInterval := .seconds 5, defaultPort := 443 }

/-- The standard settings of the queue. -/
def QueueConfig.standard : QueueConfig :=
  { capacity := 1000, fairness := .fifo, stallRetryDelay := .millis 500 }

/-- The standard settings of a pipeline, which has no hosts. -/
def ClientConfig.standard : ClientConfig α :=
  { uris := [], selection := .standard, retry := .standard, limit := .standard,
    blacklist := .standard, dns := .standard, queue := .standard, name := "dialogue" }

end RpcPipeline
