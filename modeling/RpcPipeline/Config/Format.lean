import RpcPipeline.Config.Sections
import RpcPipeline.Data.Codec

/-!
# `RpcPipeline.Config.Format`: settings as plain data

How each section is read from plain data and written to it. Spans of time are
texts, as people write them, or, if a program fills in the settings, any other
form for which there is a codec.
-/

set_option autoImplicit false

namespace RpcPipeline

open Codec (field)

variable {α : Type} [Scalar α]

/-- The settings of the choice of a host. Spans of time are read and written by
a codec of their own. -/
def SelectionConfig.codecWith (span : Codec α Nanos) : Codec α (SelectionConfig α) :=
  .record "NodeSelectionConfig" .standard
    [ field "strategy" (.choice Strategy.names) (·.strategy) fun x c => { c with strategy := x },
      field "reshuffle_interval" (.optional span) (·.reshuffleInterval)
        fun x c => { c with reshuffleInterval := x },
      field "seed" (.optional .word64) (·.seed) fun x c => { c with seed := x },
      field "failure_half_life" span (·.failureHalfLife)
        fun x c => { c with failureHalfLife := x },
      field "overload_penalty" .real (·.overloadPenalty)
        fun x c => { c with overloadPenalty := x },
      field "failure_penalty" .real (·.failurePenalty)
        fun x c => { c with failurePenalty := x } ]

/-- The settings of the choice of a host. -/
def SelectionConfig.codec : Codec α (SelectionConfig α) := codecWith .span

/-- The settings of retries. Spans of time are read and written by
a codec of their own. -/
def RetryConfig.codecWith (span : Codec α Nanos) : Codec α (RetryConfig α) :=
  .record "RetryConfig" .standard
    [ field "max_retries" .word32 (·.maxRetries) fun x c => { c with maxRetries := x },
      field "initial_backoff" span (·.initialBackoff) fun x c => { c with initialBackoff := x },
      field "max_backoff" span (·.maxBackoff) fun x c => { c with maxBackoff := x },
      field "multiplier" .real (·.multiplier) fun x c => { c with multiplier := x },
      field "jitter" .real (·.jitter) fun x c => { c with jitter := x } ]

/-- The settings of retries. -/
def RetryConfig.codec : Codec α (RetryConfig α) := codecWith .span

/-- The settings of the limit. -/
def LimitConfig.codec : Codec α (LimitConfig α) :=
  .record "ConcurrencyLimitConfig" .standard
    [ field "initial_limit" .real (·.initialLimit) fun x c => { c with initialLimit := x },
      field "min_limit" .real (·.minLimit) fun x c => { c with minLimit := x },
      field "max_limit" .real (·.maxLimit) fun x c => { c with maxLimit := x },
      field "backoff_ratio" .real (·.backoffRatio) fun x c => { c with backoffRatio := x },
      field "latency_tolerance" .real (·.latencyTolerance)
        fun x c => { c with latencyTolerance := x } ]

/-- The settings of the exclusion of hosts. Spans of time are read and written by
a codec of their own. -/
def BlacklistConfig.codecWith (span : Codec α Nanos) : Codec α (BlacklistConfig α) :=
  .record "BlacklistConfig" .standard
    [ field "cooldown" span (·.cooldown) fun x c => { c with cooldown := x },
      field "cooldown_jitter" .real (·.cooldownJitter) fun x c => { c with cooldownJitter := x },
      field "overload_threshold" .word32 (·.overloadThreshold)
        fun x c => { c with overloadThreshold := x } ]

/-- The settings of the exclusion of hosts. -/
def BlacklistConfig.codec : Codec α (BlacklistConfig α) := codecWith .span

/-- The settings of name resolution. Spans of time are read and written by
a codec of their own. -/
def DnsConfig.codecWith (span : Codec α Nanos) : Codec α DnsConfig :=
  .record "DnsConfig" .standard
    [ field "enabled" .bool (·.enabled) fun x c => { c with enabled := x },
      field "refresh_interval" span (·.refreshInterval)
        fun x c => { c with refreshInterval := x },
      field "default_port" .word16 (·.defaultPort) fun x c => { c with defaultPort := x } ]

/-- The settings of name resolution. -/
def DnsConfig.codec : Codec α DnsConfig := codecWith .span

/-- The settings of the queue. Spans of time are read and written by
a codec of their own. -/
def QueueConfig.codecWith (span : Codec α Nanos) : Codec α QueueConfig :=
  .record "QueueConfig" .standard
    [ field "capacity" .size (·.capacity) fun x c => { c with capacity := x },
      field "fairness" (.choice Fairness.names) (·.fairness) fun x c => { c with fairness := x },
      field "stall_retry_delay" span (·.stallRetryDelay)
        fun x c => { c with stallRetryDelay := x } ]

/-- The settings of the queue. -/
def QueueConfig.codec : Codec α QueueConfig := codecWith .span

/-- All settings of a pipeline. -/
def ClientConfig.codec : Codec α (ClientConfig α) :=
  .record "ClientConfig" .standard
    [ field "uris" (.list .text) (·.uris) fun x c => { c with uris := x },
      field "node_selection" SelectionConfig.codec (·.selection)
        fun x c => { c with selection := x },
      field "retry" RetryConfig.codec (·.retry) fun x c => { c with retry := x },
      field "concurrency" LimitConfig.codec (·.limit) fun x c => { c with limit := x },
      field "blacklist" BlacklistConfig.codec (·.blacklist) fun x c => { c with blacklist := x },
      field "dns" DnsConfig.codec (·.dns) fun x c => { c with dns := x },
      field "queue" QueueConfig.codec (·.queue) fun x c => { c with queue := x },
      field "client_name" .text (·.name) fun x c => { c with name := x } ]

end RpcPipeline
