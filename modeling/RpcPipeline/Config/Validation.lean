import RpcPipeline.Config.Sections
import RpcPipeline.Text.Blank
import RpcPipeline.Uri.Target

/-!
# `RpcPipeline.Config.Validation`: which settings make sense

Each section has rules for its values. Of several broken rules the first is
reported, in the order in which the rules stand here; the URIs and the name come
before the sections.

* `ConfigError`: which rule is broken.
* `ConfigError.message`: the text of such an error.
* `ClientConfig.validate`, and one `validate` for each section.
-/

set_option autoImplicit false

namespace RpcPipeline

/-- Which rule settings break. -/
inductive ConfigError (α : Type) where
  | uri (cause : UriError)
  | emptyName
  | zeroReshuffleInterval
  | zeroHalfLife
  | penalty (setting : String) (value : α)
  | backoffOrder (initial max : Nanos)
  | multiplier (value : α)
  | jitter (value : α)
  | limitOrder (min initial max : α)
  | backoffRatio (value : α)
  | latencyTolerance (value : α)
  | zeroCooldown
  | cooldownJitter (value : α)
  | zeroThreshold
  | zeroRefreshInterval
  | zeroCapacity
  | zeroStallDelay
  deriving Repr

variable {α : Type} [Scalar α]

/-- A broken rule in words. -/
def ConfigError.reason : ConfigError α → String
  | uri cause => cause.message
  | emptyName => "client_name cannot be empty"
  | zeroReshuffleInterval => "reshuffle_interval must be > 0 when set"
  | zeroHalfLife => "failure_half_life must be > 0"
  | penalty setting value => s!"{setting} must be finite and >= 0, got {Scalar.text value}"
  | backoffOrder initial max =>
    s!"initial_backoff ({initial.debugText}) must be <= max_backoff ({max.debugText})"
  | multiplier value => s!"multiplier must be >= 1.0, got {Scalar.text value}"
  | jitter value => s!"jitter must be in [0.0, 1.0], got {Scalar.text value}"
  | limitOrder min initial max =>
    "limits must satisfy 1 <= min (" ++ Scalar.text min ++ ") <= initial (" ++
      Scalar.text initial ++ ") <= max (" ++ Scalar.text max ++ ")"
  | backoffRatio value => s!"backoff_ratio must be in (0.0, 1.0), got {Scalar.text value}"
  | latencyTolerance value => s!"latency_tolerance must be >= 1.0, got {Scalar.text value}"
  | zeroCooldown => "cooldown must be > 0"
  | cooldownJitter value => s!"cooldown_jitter must be in [0.0, 1.0], got {Scalar.text value}"
  | zeroThreshold => "overload_threshold must be >= 1"
  | zeroRefreshInterval => "refresh_interval must be > 0"
  | zeroCapacity => "queue capacity must be >= 1"
  | zeroStallDelay => "stall_retry_delay must be > 0"

/-- The text of an error. -/
def ConfigError.message (e : ConfigError α) : String := "invalid config: " ++ e.reason

/-- Demands that a rule holds. -/
def demand (rule : Bool) (otherwise : ConfigError α) : Except (ConfigError α) Unit :=
  if rule then .ok () else .error otherwise

/-- Whether a number is finite and not below a bound. -/
def isFiniteFrom (bound value : α) : Bool := Scalar.isFinite value && !decide (value < bound)

/-- Checks the settings of the choice of a host. -/
def SelectionConfig.validate (c : SelectionConfig α) : Except (ConfigError α) Unit := do
  demand (c.reshuffleInterval ≠ some 0) .zeroReshuffleInterval
  demand (c.failureHalfLife ≠ 0) .zeroHalfLife
  demand (isFiniteFrom 0 c.overloadPenalty) (.penalty "overload_penalty" c.overloadPenalty)
  demand (isFiniteFrom 0 c.failurePenalty) (.penalty "failure_penalty" c.failurePenalty)

/-- Checks the settings of retries. -/
def RetryConfig.validate (c : RetryConfig α) : Except (ConfigError α) Unit := do
  demand (c.initialBackoff ≤ c.maxBackoff) (.backoffOrder c.initialBackoff c.maxBackoff)
  demand (isFiniteFrom 1 c.multiplier) (.multiplier c.multiplier)
  demand (Scalar.isShare c.jitter) (.jitter c.jitter)

/-- Whether the bounds of the limit stand in order. -/
def LimitConfig.isOrdered (c : LimitConfig α) : Bool :=
  decide (1 ≤ c.minLimit) && decide (c.minLimit ≤ c.initialLimit) &&
    decide (c.initialLimit ≤ c.maxLimit) && Scalar.isFinite c.maxLimit

/-- Checks the settings of the limit. -/
def LimitConfig.validate (c : LimitConfig α) : Except (ConfigError α) Unit := do
  demand c.isOrdered (.limitOrder c.minLimit c.initialLimit c.maxLimit)
  demand (decide (0 < c.backoffRatio) && decide (c.backoffRatio < 1))
    (.backoffRatio c.backoffRatio)
  demand (isFiniteFrom 1 c.latencyTolerance) (.latencyTolerance c.latencyTolerance)

/-- Checks the settings of the exclusion of hosts. -/
def BlacklistConfig.validate (c : BlacklistConfig α) : Except (ConfigError α) Unit := do
  demand (c.cooldown ≠ 0) .zeroCooldown
  demand (Scalar.isShare c.cooldownJitter) (.cooldownJitter c.cooldownJitter)
  demand (c.overloadThreshold ≠ 0) .zeroThreshold

/-- Checks the settings of name resolution. -/
def DnsConfig.validate (c : DnsConfig) : Except (ConfigError α) Unit :=
  demand (c.refreshInterval ≠ 0) .zeroRefreshInterval

/-- Checks the settings of the queue. -/
def QueueConfig.validate (c : QueueConfig) : Except (ConfigError α) Unit := do
  demand (c.capacity ≠ 0) .zeroCapacity
  demand (c.stallRetryDelay ≠ 0) .zeroStallDelay

/-- Checks that a URI is absolute and has a host. -/
def validateUri (uri : String) : Except (ConfigError α) Unit :=
  match Url.parse uri with
  | .error cause => .error (.uri (.notAbsolute uri cause))
  | .ok url =>
    match url.hostText? with
    | none => .error (.uri (.noHost uri))
    | some text => demand (text ≠ "") (.uri (.noHost uri))

/-- Checks all settings. -/
def ClientConfig.validate (c : ClientConfig α) : Except (ConfigError α) Unit := do
  c.uris.forM validateUri
  demand (!Text.allBlank c.name) .emptyName
  c.selection.validate
  c.retry.validate
  c.limit.validate
  c.blacklist.validate
  c.dns.validate
  c.queue.validate

end RpcPipeline
