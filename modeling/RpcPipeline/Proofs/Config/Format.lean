import RpcPipeline.Config.Format
import RpcPipeline.Config.Validation
import RpcPipeline.Proofs.Data.Codec
import RpcPipeline.Proofs.Hosts.Limits
import RpcPipeline.Proofs.Number.Double

/-!
# `RpcPipeline.Proofs.Config.Format`: settings are read as they are written

Settings that are valid can be written as plain data and read again, and are the same then. Two
things could be lost. A number that is not finite is written as nothing, but the rules of every
section leave only finite ones. And the text of a span of time has to be read as that span,
which it is for every span there can be (`Human.parse?_render`).

* `SelectionConfig.Finite` and its like: the numbers of a section are finite, as they are in
  valid settings (`SelectionConfig.finite_of_validate`).
* `SelectionConfig.codec_restores` and its like: a section is restored.
* `ClientConfig.read_write`: all settings are.
-/

set_option autoImplicit false

namespace RpcPipeline

open Codec

/-! ### Finite numbers -/

section

variable {α : Type} [Scalar α]

/-- The penalties are finite. -/
structure SelectionConfig.Finite (c : SelectionConfig α) : Prop where
  overloadPenalty : Scalar.isFinite c.overloadPenalty = true
  failurePenalty : Scalar.isFinite c.failurePenalty = true

/-- The factor and the jitter are finite. -/
structure RetryConfig.Finite (c : RetryConfig α) : Prop where
  multiplier : Scalar.isFinite c.multiplier = true
  jitter : Scalar.isFinite c.jitter = true

/-- The limits and what moves them are finite. -/
structure LimitConfig.Finite (c : LimitConfig α) : Prop where
  initialLimit : Scalar.isFinite c.initialLimit = true
  minLimit : Scalar.isFinite c.minLimit = true
  maxLimit : Scalar.isFinite c.maxLimit = true
  backoffRatio : Scalar.isFinite c.backoffRatio = true
  latencyTolerance : Scalar.isFinite c.latencyTolerance = true

theorem isFinite_of_isFiniteFrom {bound x : α} (h : isFiniteFrom bound x = true) :
    Scalar.isFinite x = true :=
  (Bool.and_eq_true_iff.mp h).1

end

theorem isFinite_of_isShare {x : Float} (h : Scalar.isShare x = true) :
    Scalar.isFinite x = true := by
  obtain ⟨hzero, hone⟩ := Bool.and_eq_true_iff.mp h
  exact Double.isFinite_of_le (by decide +kernel) (by decide +kernel) (of_decide_eq_true hzero)
    (of_decide_eq_true hone)

theorem SelectionConfig.finite_of_validate {c : SelectionConfig Float}
    (h : c.validate = .ok ()) : c.Finite := by
  simp only [validate, then_eq_ok, demand_eq_ok] at h
  obtain ⟨-, -, hoverload, hfailure⟩ := h
  exact ⟨isFinite_of_isFiniteFrom hoverload, isFinite_of_isFiniteFrom hfailure⟩

theorem RetryConfig.finite_of_validate {c : RetryConfig Float} (h : c.validate = .ok ()) :
    c.Finite := by
  simp only [validate, then_eq_ok, demand_eq_ok] at h
  obtain ⟨-, hmultiplier, hjitter⟩ := h
  exact ⟨isFinite_of_isFiniteFrom hmultiplier, isFinite_of_isShare hjitter⟩

/-- The limits are between one and the greatest limit, which is finite. -/
theorem LimitConfig.finite_of_validate {c : LimitConfig Float} (h : c.validate = .ok ()) :
    c.Finite := by
  have hsane := sane_of_validate h
  obtain ⟨hordered, -, htolerance⟩ := validate_eq_ok.mp h
  -- What lies between two finite numbers is finite.
  have hone : Scalar.isFinite (1 : Float) = true := by decide +kernel
  have hmax : Scalar.isFinite c.maxLimit = true := (Bool.and_eq_true_iff.mp hordered).2
  have hinitial : Scalar.isFinite c.initialLimit = true :=
    Double.isFinite_of_le hone hmax
      (Scalar.Ordered.le_trans hsane.one_le_min hsane.min_le_initial) hsane.initial_le_max
  exact
    { initialLimit := hinitial
      minLimit := Double.isFinite_of_le hone hinitial hsane.one_le_min hsane.min_le_initial
      maxLimit := hmax
      backoffRatio := Double.isFinite_of_le (by decide +kernel) hone
        (Double.le_of_lt hsane.ratio_pos) (Double.le_of_lt hsane.ratio_lt_one)
      latencyTolerance := isFinite_of_isFiniteFrom htolerance }

theorem BlacklistConfig.isFinite_of_validate {c : BlacklistConfig Float}
    (h : c.validate = .ok ()) : Scalar.isFinite c.cooldownJitter = true := by
  simp only [validate, then_eq_ok, demand_eq_ok] at h
  exact isFinite_of_isShare h.2.1

/-! ### Sections -/

section

variable {α : Type}

theorem Strategy.restores (x : Strategy) : (choice names : Codec α Strategy).Restores x := by
  cases x <;> exact choice_restores rfl rfl

theorem Fairness.restores (x : Fairness) : (choice names : Codec α Fairness).Restores x := by
  cases x <;> exact choice_restores rfl rfl

theorem DnsConfig.codec_restores {c : DnsConfig} (hrefresh : c.refreshInterval ≤ Nanos.longest) :
    (codec : Codec α DnsConfig).Restores c := by
  refine record_restores (by simp [field])
    (.cons (field_copies (bool_restores _)) <|
    .cons (field_copies (span_restores hrefresh)) <|
    .cons (field_copies (word16_restores _)) .nil) ?_ rfl
  simp [Function.Commute, Function.Semiconj]

theorem QueueConfig.codec_restores {c : QueueConfig} (hdelay : c.stallRetryDelay ≤ Nanos.longest) :
    (codec : Codec α QueueConfig).Restores c := by
  refine record_restores (by simp [field])
    (.cons (field_copies (size_restores _)) <|
    .cons (field_copies (Fairness.restores _)) <|
    .cons (field_copies (span_restores hdelay)) .nil) ?_ rfl
  simp [Function.Commute, Function.Semiconj]

variable [Scalar α]

theorem SelectionConfig.codec_restores {c : SelectionConfig α} (hfinite : c.Finite)
    (hinterval : ∀ x ∈ c.reshuffleInterval, x ≤ Nanos.longest)
    (hlife : c.failureHalfLife ≤ Nanos.longest) : codec.Restores c := by
  refine record_restores (by simp [field])
    (.cons (field_copies (Strategy.restores _)) <|
    .cons (field_copies (optional_restores fun x hx => ⟨nofun, span_restores (hinterval x hx)⟩)) <|
    .cons (field_copies (optional_restores fun x _ => ⟨nofun, word64_restores x⟩)) <|
    .cons (field_copies (span_restores hlife)) <|
    .cons (field_copies (real_restores hfinite.overloadPenalty)) <|
    .cons (field_copies (real_restores hfinite.failurePenalty)) .nil) ?_ rfl
  simp [Function.Commute, Function.Semiconj]

theorem RetryConfig.codec_restores {c : RetryConfig α} (hfinite : c.Finite)
    (hinitial : c.initialBackoff ≤ Nanos.longest) (hmax : c.maxBackoff ≤ Nanos.longest) :
    codec.Restores c := by
  refine record_restores (by simp [field])
    (.cons (field_copies (word32_restores _)) <|
    .cons (field_copies (span_restores hinitial)) <|
    .cons (field_copies (span_restores hmax)) <|
    .cons (field_copies (real_restores hfinite.multiplier)) <|
    .cons (field_copies (real_restores hfinite.jitter)) .nil) ?_ rfl
  simp [Function.Commute, Function.Semiconj]

theorem LimitConfig.codec_restores {c : LimitConfig α} (hfinite : c.Finite) :
    codec.Restores c := by
  refine record_restores (by simp [field])
    (.cons (field_copies (real_restores hfinite.initialLimit)) <|
    .cons (field_copies (real_restores hfinite.minLimit)) <|
    .cons (field_copies (real_restores hfinite.maxLimit)) <|
    .cons (field_copies (real_restores hfinite.backoffRatio)) <|
    .cons (field_copies (real_restores hfinite.latencyTolerance)) .nil) ?_ rfl
  simp [Function.Commute, Function.Semiconj]

theorem BlacklistConfig.codec_restores {c : BlacklistConfig α}
    (hcooldown : c.cooldown ≤ Nanos.longest) (hjitter : Scalar.isFinite c.cooldownJitter = true) :
    codec.Restores c := by
  refine record_restores (by simp [field])
    (.cons (field_copies (span_restores hcooldown)) <|
    .cons (field_copies (real_restores hjitter)) <|
    .cons (field_copies (word32_restores _)) .nil) ?_ rfl
  simp [Function.Commute, Function.Semiconj]

end

/-! ### All settings -/

/-- The spans of time in all settings. -/
def ClientConfig.spans {α : Type} (c : ClientConfig α) : List Nanos :=
  c.selection.reshuffleInterval.toList ++
    [ c.selection.failureHalfLife, c.retry.initialBackoff, c.retry.maxBackoff,
      c.blacklist.cooldown, c.dns.refreshInterval, c.queue.stallRetryDelay ]

/-- Every span of time is read as it is written, and so are valid settings. -/
theorem ClientConfig.read_write :
    (∀ span ≤ Nanos.longest, Human.parse? (Human.render span) = some span) ∧
      ∀ c : ClientConfig Float, c.validate = .ok () → (∀ span ∈ c.spans, span ≤ Nanos.longest) →
        codec.read (codec.write c) = .ok c := by
  refine ⟨fun span => Human.parse?_render, fun c hvalid hspans => ?_⟩
  simp only [validate, then_eq_ok] at hvalid
  obtain ⟨-, -, hselection, hretry, hlimit, hblacklist, -⟩ := hvalid
  -- Each section gets its own spans of time, and finite numbers from its own rules.
  simp only [spans, List.forall_mem_append, List.forall_mem_cons, Option.mem_toList] at hspans
  obtain ⟨hinterval, hlife, hinitial, hmax, hcooldown, hrefresh, hdelay, -⟩ := hspans
  have hrestores : codec.Restores c := by
    refine record_restores (by simp [field])
      (.cons (field_copies (list_restores fun _ _ => text_restores _)) <|
      .cons (field_copies (SelectionConfig.codec_restores
        (SelectionConfig.finite_of_validate hselection) hinterval hlife)) <|
      .cons (field_copies (RetryConfig.codec_restores
        (RetryConfig.finite_of_validate hretry) hinitial hmax)) <|
      .cons (field_copies (LimitConfig.codec_restores
        (LimitConfig.finite_of_validate hlimit))) <|
      .cons (field_copies (BlacklistConfig.codec_restores hcooldown
        (BlacklistConfig.isFinite_of_validate hblacklist))) <|
      .cons (field_copies (DnsConfig.codec_restores hrefresh)) <|
      .cons (field_copies (QueueConfig.codec_restores hdelay)) <|
      .cons (field_copies (text_restores _)) .nil) ?_ rfl
    simp [Function.Commute, Function.Semiconj]
  exact hrestores

/-- Settings unlike the standard ones: two hosts, a pin that moves on, and a span with parts. -/
theorem ClientConfig.read_write_pinned :
    let c : ClientConfig Float :=
      { (standard : ClientConfig Float) with
        uris := ["https://a.example.com:8443", "http://b.example.com/api"]
        selection := { (SelectionConfig.standard : SelectionConfig Float) with
          strategy := .pinUntilError, reshuffleInterval := some (.seconds 600), seed := some 7 }
        queue := { QueueConfig.standard with stallRetryDelay := 90061001001001 } }
    Human.parse? (Human.render 90061001001001) = some 90061001001001 ∧
      c.validate = .ok () ∧ codec.read (codec.write c) = .ok c := by
  intro c
  have hvalid : c.validate = .ok () := eq_ok_of_isOk (by decide +kernel)
  have hspans : ∀ span ∈ c.spans, span ≤ Nanos.longest := by decide +kernel
  exact ⟨read_write.1 _ (by decide), hvalid, read_write.2 c hvalid hspans⟩

end RpcPipeline
