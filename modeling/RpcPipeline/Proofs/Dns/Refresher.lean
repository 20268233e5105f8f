import RpcPipeline.Dns.Refresher
import RpcPipeline.Proofs.Hosts.Fleet

/-!
# `RpcPipeline.Proofs.Dns.Refresher`: what a refresher publishes

Whoever reads a cell can tell by the version whether the value was replaced. This module
shows that a refresher keeps to that: whenever it runs, what it has published stays as it
is or gets a later version (`Cell.Later`).

* `wake_runs`: what comes of letting a refresher run (`Refresher.Runs`).
-/

set_option autoImplicit false

namespace RpcPipeline

namespace Cell.Later

variable {τ : Type} {c c' c'' : Cell τ}

theorem refl (c : Cell τ) : c.Later c := .inl rfl

theorem trans (h : c.Later c') (h' : c'.Later c'') : c.Later c'' := by
  rcases h with rfl | hlt
  · exact h'
  · rcases h' with rfl | hlt'
    · exact .inr hlt
    · exact .inr (Nat.lt_trans hlt hlt')

end Cell.Later

namespace Refresher

variable {α : Type} (now : Instant) (config : Cell (ClientConfig α))

/-- What one step, or several, do to what is published, and what is reported meanwhile. -/
structure Runs (r r' : Refresher α) (events : List (Event α)) : Prop where
  later : r.published.Later r'.published
  silent : Silent events

theorem Runs.refl (r : Refresher α) : r.Runs r [] := ⟨.refl _, silent_nil⟩

theorem Runs.trans {r r' r'' : Refresher α} {events more : List (Event α)}
    (h : r.Runs r' events) (h' : r'.Runs r'' more) : r.Runs r'' (events ++ more) :=
  ⟨h.later.trans h'.later, h.silent.append h'.silent⟩

/-- Going on to something else publishes nothing. -/
theorem Runs.phase (r : Refresher α) (phase : RefreshPhase α) :
    r.Runs { r with phase := phase } [] := ⟨.refl _, silent_nil⟩

theorem publish_later (r : Refresher α) (snapshot : DnsSnapshot) :
    r.published.Later (r.publish snapshot).published := by
  unfold publish
  split
  · exact .refl _
  · exact .inr (Nat.lt_succ_self _)

@[simp] theorem publish_cache (r : Refresher α) (snapshot : DnsSnapshot) :
    (r.publish snapshot).cache = r.cache := by
  unfold publish
  split <;> rfl

@[simp] theorem publish_cancelled (r : Refresher α) (snapshot : DnsSnapshot) :
    (r.publish snapshot).cancelled = r.cancelled := by
  unfold publish
  split <;> rfl

@[simp] theorem publish_observed (r : Refresher α) (snapshot : DnsSnapshot) :
    (r.publish snapshot).observed = r.observed := by
  unfold publish
  split <;> rfl

/-- Whether it was published just now or before, a snapshot is shown from then on. -/
@[simp] theorem publish_value (r : Refresher α) (snapshot : DnsSnapshot) :
    (r.publish snapshot).published.value = snapshot := by
  unfold publish
  split
  · next h => exact h
  · rfl

/-- What is shown already is not published again. -/
theorem published_of_shown {r : Refresher α} {snapshot : DnsSnapshot}
    (h : r.published.value = snapshot) : (r.publish snapshot).published = r.published := by
  rw [publish, if_pos h]

/-- Only the end of a round publishes anything. -/
theorem proceed_runs (r : Refresher α) :
    r.Runs (r.proceed now config).1 (r.proceed now config).2 := by
  unfold proceed
  split
  · exact .phase r _
  · exact .phase r _
  · exact ⟨.refl _, by simp [Refresher.lookUp, Silent, Event.call?]⟩
  · next used found _ =>
    refine ⟨?_, silent_nil⟩
    exact publish_later { r with cache := r.cache.retain (hostnames used) } (.ofList found.reverse)
  · exact .refl r
  · exact .refl r

theorem step_runs {r r' : Refresher α} {events : List (Event α)}
    (h : r.step now config = some (r', events)) : r.Runs r' events := by
  have hproceed := r.proceed_runs now config
  have hgoes : (if r.cancelled then some ({ r with phase := .stopped }, [])
      else some (r.proceed now config)) = some (r', events) → r.Runs r' events := by
    intro h
    split at h
    · cases h
      exact .phase r _
    · rw [Option.some.inj h] at hproceed
      exact hproceed
  unfold step at h
  cases hphase : r.phase with
  | stopped =>
    rw [hphase] at h
    cases h
  | waiting alarm watch =>
    rw [hphase] at h
    dsimp only at h
    split at h
    · cases h
      exact .phase r _
    · split at h
      · cases h
        exact .phase r _
      · cases h
  | starting =>
    rw [hphase] at h
    exact hgoes h
  | marked watch =>
    rw [hphase] at h
    exact hgoes h
  | resolving watch used left found =>
    rw [hphase] at h
    exact hgoes h

theorem takeSteps_runs (n : Nat) (r : Refresher α) :
    r.Runs (takeSteps now config n r).1 (takeSteps now config n r).2 := by
  induction n generalizing r with
  | zero => exact .refl r
  | succ n ih =>
    unfold takeSteps
    rcases hstep : r.step now config with _ | ⟨r₁, events⟩
    · exact .refl r
    · exact (step_runs now config hstep).trans (ih r₁)

/-- The refresher may hold a whole round, and publish at its end. -/
theorem wake_runs (r : Refresher α) : r.Runs (r.wake now config).1 (r.wake now config).2 := by
  unfold wake
  rcases hstep : r.step now config with _ | ⟨r₁, events⟩
  · exact .refl r
  · exact (step_runs now config hstep).trans (takeSteps_runs now config _ r₁)

end Refresher

end RpcPipeline
