import RpcPipeline.Config.Validation
import RpcPipeline.Hosts.Limiter
import RpcPipeline.Proofs.Except
import RpcPipeline.Proofs.Number.Ordered

/-!
# `RpcPipeline.Proofs.Hosts.Limits`: a limit stays within its bounds

The limit of a host moves by four rules. New settings bring it within their bounds, a quick
success raises it, an overload or a failure lowers it, and everything else leaves it alone.
`Limiter.Bounded` says that the settings make sense and that the limit is between the bounds
that they give. Every operation keeps that, whichever settings the limiter had before.

Nothing here depends on what the numbers are, as long as they are ordered
(`Scalar.Ordered`). The bounds themselves show that the limit is a number at all.

* `LimitConfig.Sane`: what valid settings promise.
* `Limiter.Adjusts`: the limits that an outcome can lead to.
* `Adjusts.success_le`, `Adjusts.trouble_le`: the direction in which the limit moves.
* `Bounded.learn`, `Bounded.complete`, `Bounded.configure`, `acquire_bounded`,
  `release_bounded`: the bounds are kept.
-/

set_option autoImplicit false

namespace RpcPipeline

variable {α : Type} [Scalar α]

/-! ### Settings -/

/-- What valid settings promise about the limit. -/
structure LimitConfig.Sane (c : LimitConfig α) : Prop where
  one_le_min : 1 ≤ c.minLimit
  min_le_initial : c.minLimit ≤ c.initialLimit
  initial_le_max : c.initialLimit ≤ c.maxLimit
  ratio_pos : 0 < c.backoffRatio
  ratio_lt_one : c.backoffRatio < 1

omit [Scalar α] in
/-- What is demanded holds if no error comes of it. -/
theorem demand_eq_ok {rule : Bool} {e : ConfigError α} {u : Unit} :
    demand rule e = .ok u ↔ rule = true := by
  cases rule <;> simp [demand]

theorem LimitConfig.validate_eq_ok {c : LimitConfig α} :
    c.validate = .ok () ↔ c.isOrdered = true ∧
      (decide (0 < c.backoffRatio) && decide (c.backoffRatio < 1)) = true ∧
        isFiniteFrom 1 c.latencyTolerance = true := by
  simp only [validate, then_eq_ok, demand_eq_ok]

theorem LimitConfig.sane_of_validate {c : LimitConfig α} (h : c.validate = .ok ()) : c.Sane := by
  obtain ⟨hordered, hratio, -⟩ := validate_eq_ok.mp h
  simp only [isOrdered, Bool.and_eq_true, decide_eq_true_iff] at hordered hratio
  obtain ⟨⟨⟨hmin, hinitial⟩, hmax⟩, -⟩ := hordered
  exact ⟨hmin, hinitial, hmax, hratio.1, hratio.2⟩

namespace LimitConfig.Sane

variable [Scalar.Ordered α] {c : LimitConfig α}

theorem min_le_max (h : c.Sane) : c.minLimit ≤ c.maxLimit :=
  Scalar.Ordered.le_trans h.min_le_initial h.initial_le_max

theorem min_defined (h : c.Sane) : c.minLimit ≤ c.minLimit :=
  Scalar.Ordered.defined_right h.one_le_min

theorem max_defined (h : c.Sane) : c.maxLimit ≤ c.maxLimit :=
  Scalar.Ordered.defined_right h.initial_le_max

end LimitConfig.Sane

namespace Limiter

variable {l : Limiter α}

/-! ### What is learnt -/

omit [Scalar α] in
/-- Latencies concern neither the settings, nor the limit, nor the calls under way. -/
theorem observe_keeps (l : Limiter α) (now : Instant) (latency : Nanos) :
    (l.observe now latency).2.config = l.config ∧
      (l.observe now latency).2.limit = l.limit ∧
      (l.observe now latency).2.inFlight = l.inFlight := by
  unfold observe
  dsimp only
  split
  · exact ⟨rfl, rfl, rfl⟩
  · exact ⟨rfl, rfl, rfl⟩

/-- The limits that an outcome can lead to under some settings. -/
inductive Adjusts (config : LimitConfig α) (limit : α) : Outcome → α → Prop where
  | slow : Adjusts config limit .success limit
  | quick : Adjusts config limit .success
      (Scalar.smaller (limit + 1 / limit) config.maxLimit)
  | overloaded : Adjusts config limit .overloaded
      (Scalar.larger (limit * config.backoffRatio) config.minLimit)
  | failed : Adjusts config limit .hostFailure
      (Scalar.larger (limit * config.backoffRatio) config.minLimit)
  | serverError : Adjusts config limit .serverError limit
  | ignored : Adjusts config limit .ignored limit

/-- Learning adjusts the limit. It does not concern the settings or the calls under way. -/
theorem learn_adjusts (l : Limiter α) (now : Instant) (outcome : Outcome) (latency : Nanos) :
    Adjusts l.config l.limit outcome (l.learn now outcome latency).1.limit ∧
      (l.learn now outcome latency).1.config = l.config ∧
      (l.learn now outcome latency).1.inFlight = l.inFlight := by
  obtain ⟨hconfig, hlimit, hflight⟩ := l.observe_keeps now latency
  unfold learn
  cases outcome with
  | success =>
    dsimp only
    split
    · dsimp only
      rw [hlimit]
      exact ⟨.slow, hconfig, hflight⟩
    · dsimp only
      rw [hlimit, hconfig]
      exact ⟨.quick, rfl, hflight⟩
  | overloaded => exact ⟨.overloaded, rfl, rfl⟩
  | hostFailure => exact ⟨.failed, rfl, rfl⟩
  | serverError => exact ⟨.serverError, rfl, rfl⟩
  | ignored => exact ⟨.ignored, rfl, rfl⟩

@[simp] theorem learn_config (l : Limiter α) (now : Instant) (outcome : Outcome)
    (latency : Nanos) : (l.learn now outcome latency).1.config = l.config :=
  (l.learn_adjusts now outcome latency).2.1

/-- Learning does not concern the calls under way. -/
@[simp] theorem learn_inFlight (l : Limiter α) (now : Instant) (outcome : Outcome)
    (latency : Nanos) : (l.learn now outcome latency).1.inFlight = l.inFlight :=
  (l.learn_adjusts now outcome latency).2.2

theorem complete_inFlight (l : Limiter α) (now started : Instant) (outcome : Outcome) :
    (l.complete now started outcome).1.inFlight = l.inFlight - 1 :=
  congrArg (· - 1) (l.learn_inFlight now outcome (now - started))

/-! ### Bounds -/

/-- The settings make sense, and the limit is within their bounds. -/
structure Bounded (l : Limiter α) : Prop where
  sane : l.config.Sane
  le_limit : l.config.minLimit ≤ l.limit
  limit_le : l.limit ≤ l.config.maxLimit

theorem new_bounded {config : LimitConfig α} (h : config.Sane) (host : String) (now : Instant) :
    (new host config now).Bounded :=
  ⟨h, h.min_le_initial, h.initial_le_max⟩

/-- Claiming a slot concerns neither the settings nor the limit. -/
theorem acquire_keeps (l : Limiter α) :
    l.acquire.2.1.config = l.config ∧ l.acquire.2.1.limit = l.limit := by
  unfold acquire
  split
  · exact ⟨rfl, rfl⟩
  · exact ⟨rfl, rfl⟩

theorem acquire_bounded (h : l.Bounded) : l.acquire.2.1.Bounded := by
  obtain ⟨hconfig, hlimit⟩ := l.acquire_keeps
  refine ⟨?_, ?_, ?_⟩ <;> rw [hconfig]
  · exact h.sane
  · rw [hlimit]
    exact h.le_limit
  · rw [hlimit]
    exact h.limit_le

theorem release_bounded (h : l.Bounded) : l.release.1.Bounded :=
  ⟨h.sane, h.le_limit, h.limit_le⟩

variable [Scalar.Ordered α]

/-- A limit is at least one. -/
theorem Bounded.one_le (h : l.Bounded) : 1 ≤ l.limit :=
  Scalar.Ordered.le_trans h.sane.one_le_min h.le_limit

theorem Bounded.defined (h : l.Bounded) : l.limit ≤ l.limit :=
  Scalar.Ordered.defined_left h.limit_le

/-- A success does not lower a limit within the bounds. -/
theorem Adjusts.success_le {limit : α} (hl : l.Bounded)
    (h : Adjusts l.config l.limit .success limit) : l.limit ≤ limit := by
  cases h with
  | slow => exact hl.defined
  | quick => exact Scalar.le_smaller (Scalar.Ordered.le_add_inv hl.one_le) hl.limit_le

/-- An overload or a failure does not raise it. -/
theorem Adjusts.trouble_le {outcome : Outcome} {limit : α} (hl : l.Bounded)
    (houtcome : outcome = .overloaded ∨ outcome = .hostFailure)
    (h : Adjusts l.config l.limit outcome limit) : limit ≤ l.limit := by
  have hless := Scalar.Ordered.mul_le hl.one_le hl.sane.ratio_pos hl.sane.ratio_lt_one
  rcases houtcome with rfl | rfl
  · cases h with
    | overloaded => exact Scalar.larger_le hless hl.le_limit
  · cases h with
    | failed => exact Scalar.larger_le hless hl.le_limit

/-- Whatever the outcome, the limit stays within the bounds. -/
theorem Adjusts.bounds {outcome : Outcome} {limit : α} (hl : l.Bounded)
    (h : Adjusts l.config l.limit outcome limit) :
    l.config.minLimit ≤ limit ∧ limit ≤ l.config.maxLimit := by
  cases h with
  | slow => exact ⟨hl.le_limit, hl.limit_le⟩
  | quick =>
    -- It was not below the lower bound before, and it is cut off at the upper one.
    have hquick : Adjusts l.config l.limit .success _ := .quick
    have hraised := hquick.success_le hl
    exact ⟨Scalar.Ordered.le_trans hl.le_limit hraised, Scalar.smaller_le hl.sane.max_defined⟩
  | overloaded =>
    have hoverloaded : Adjusts l.config l.limit .overloaded _ := .overloaded
    have hlowered := hoverloaded.trouble_le hl (.inl rfl)
    exact ⟨Scalar.le_larger hl.sane.min_defined, Scalar.Ordered.le_trans hlowered hl.limit_le⟩
  | failed =>
    have hfailed : Adjusts l.config l.limit .hostFailure _ := .failed
    have hlowered := hfailed.trouble_le hl (.inr rfl)
    exact ⟨Scalar.le_larger hl.sane.min_defined, Scalar.Ordered.le_trans hlowered hl.limit_le⟩
  | serverError => exact ⟨hl.le_limit, hl.limit_le⟩
  | ignored => exact ⟨hl.le_limit, hl.limit_le⟩

theorem Bounded.learn (h : l.Bounded) (now : Instant) (outcome : Outcome) (latency : Nanos) :
    (l.learn now outcome latency).1.Bounded := by
  obtain ⟨hadjusts, hconfig, -⟩ := l.learn_adjusts now outcome latency
  obtain ⟨hlow, hhigh⟩ := hadjusts.bounds h
  refine ⟨?_, ?_, ?_⟩ <;> rw [hconfig]
  · exact h.sane
  · exact hlow
  · exact hhigh

theorem Bounded.complete (h : l.Bounded) (now started : Instant) (outcome : Outcome) :
    (l.complete now started outcome).1.Bounded :=
  release_bounded (h.learn now outcome (now - started))

/-- New settings give new bounds, and the limit is brought within them. -/
theorem Bounded.configure (h : l.Bounded) {config : LimitConfig α} (hconfig : config.Sane) :
    (l.configure config).1.Bounded :=
  ⟨hconfig, Scalar.le_clamp h.defined hconfig.min_le_max,
    Scalar.clamp_le h.defined hconfig.min_le_max⟩

/-- A limit within the bounds is not moved by settings that give the same bounds. -/
theorem Bounded.clamp_eq (h : l.Bounded) :
    Scalar.clamp l.limit l.config.minLimit l.config.maxLimit = l.limit :=
  Scalar.clamp_eq_self h.le_limit h.limit_le

end Limiter

end RpcPipeline
