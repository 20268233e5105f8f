import RpcPipeline.Retry.Retry

/-!
# `RpcPipeline.Proofs.Retry.Attempts`: what a call that is tried more than once keeps

A call makes its attempts through a dispatcher. `Dispatcher.Keeps` lists what each
operation of a dispatcher has to keep: a property `P n live s` of its state `s`, of the
number `n` of calls that depend on it, and of the attempts `live` that have neither ended
nor been dropped. From this follows what the operations of a call keep, however often
the call is tried.

* `start_keeps`, `poll_keeps`, `drop_keeps`: the operations of a call.
-/

set_option autoImplicit false

namespace RpcPipeline

variable {α γ σ : Type}

/-- Whether an event is about an attempt that is made again, or is not. -/
def Event.isRetry : Event α → Bool
  | .retry _ _ _ | .exhausted _ _ _ => true
  | _ => false

/-- What a dispatcher keeps if requests have a property. An attempt is made only while
some call depends on the dispatcher. -/
structure Dispatcher.Keeps (d : Dispatcher α γ σ) (R : Request → Prop)
    (P : Nat → List γ → σ → Prop) : Prop where
  submit : ∀ {n live s} e r, R r → P (n + 1) live s →
    P (n + 1) ((d.submit e r s).1 :: live) (d.submit e r s).2
  pending : ∀ {n live s a a' s'}, P (n + 1) (a :: live) s → d.poll a s = (none, a', s') →
    P (n + 1) (a' :: live) s'
  ended : ∀ {n live s a a' s' result}, P (n + 1) (a :: live) s →
    d.poll a s = (some result, a', s') → P (n + 1) live s'
  drop : ∀ {n live s a}, P n (a :: live) s → P n live (d.drop a s)
  emit : ∀ {n live s} (event : Event α), event.isRetry = true → P n live s →
    P n live (d.emit [event] s)
  close : ∀ {n live s} r, P n live s → P n live (d.close r s)
  draw : ∀ {n live s} f, P n live s → P n live (d.draw f s).2
  hold : ∀ {n live s}, P (n + 1) live s → P (n + 2) live (d.hold s)
  release : ∀ {n live s}, P (n + 1) live s → P n live (d.release s)

namespace RetryingCall

/-- The attempt that a call is making. -/
def attempts (c : RetryingCall α γ) : List γ :=
  match c.phase with
  | .attempting attempt => [attempt]
  | .pausing _ => []

/-- The attempt that is left after a poll. -/
def left (c : RetryingCall α γ) : Option HostResult → List γ
  | some _ => []
  | none => c.attempts

variable {d : Dispatcher α γ σ} {R : Request → Prop} {P : Nat → List γ → σ → Prop} {n : Nat}
  {live : List γ} {s : σ}

theorem start_keeps (h : d.Keeps R P) (e : Endpoint) {r : Request} (hr : R r)
    (hs : P (n + 1) live s) :
    P (n + 2) ((start d e r s).1.attempts ++ live) (start d e r s).2 :=
  h.hold (h.submit e r hr hs)

theorem drop_keeps (h : d.Keeps R P) {c : RetryingCall α γ}
    (hs : P (n + 1) (c.attempts ++ live) s) : P n live (c.drop d s) := by
  have hphase : ∀ {m s}, P m (c.attempts ++ live) s → P m live (c.dropPhase d s) := by
    intro m s hs
    unfold attempts at hs
    unfold dropPhase
    cases hc : c.phase with
    | attempting attempt =>
      rw [hc] at hs
      exact h.drop hs
    | pausing alarm =>
      rw [hc] at hs
      exact hs
  unfold drop
  split
  · exact h.release (hphase hs)
  · exact hphase (h.release hs)

variable [Scalar α]

/-- What is kept does not depend on how many steps are left. -/
theorem proceed_keeps (h : d.Keeps R P) (fuel : Nat) {c : RetryingCall α γ}
    (hr : R c.request) (hs : P (n + 1) (c.attempts ++ live) s) :
    P (n + 1) ((proceed d fuel c s).2.1.left (proceed d fuel c s).1 ++ live)
      (proceed d fuel c s).2.2 ∧ (proceed d fuel c s).2.1.request = c.request := by
  induction fuel generalizing c s with
  | zero => exact ⟨hs, rfl⟩
  | succ fuel ih =>
    unfold proceed
    unfold attempts at hs
    cases hphase : c.phase with
    | attempting attempt =>
      rw [hphase] at hs
      rcases hpoll : d.poll attempt s with ⟨_ | result, attempt', s'⟩
      · simp only [hpoll]
        exact ⟨h.pending hs hpoll, trivial⟩
      · have hended := h.ended hs hpoll
        simp only [hpoll]
        cases c.settings.verdict c.request.isReplayable c.attempt c.lastDelay result with
        | done => exact ⟨hended, rfl⟩
        | exhausted reason => exact ⟨h.emit _ rfl hended, rfl⟩
        | again reason delay =>
          -- Between two attempts the call has none.
          have hpause := h.emit (.retry c.endpoint.label c.attempt reason) rfl
            (h.draw (c.settings.jittered delay) hended)
          cases result with
          | ok r => exact ih hr (h.close r hpause)
          | error _ => exact ih hr hpause
    | pausing alarm =>
      rw [hphase] at hs
      dsimp only
      split
      · exact ih hr (h.submit c.endpoint c.request hr hs)
      · refine ⟨?_, rfl⟩
        simpa only [left, attempts, hphase] using hs

theorem poll_keeps (h : d.Keeps R P) {c : RetryingCall α γ} (hr : R c.request)
    (hs : P (n + 1) (c.attempts ++ live) s) :
    (∀ result c' s', c.poll d s = (some result, c', s') → P n live s') ∧
    ∀ c' s', c.poll d s = (none, c', s') →
      P (n + 1) (c'.attempts ++ live) s' ∧ c'.request = c.request := by
  obtain ⟨hkept, hrequest⟩ := proceed_keeps (c := { c with polled := true }) h c.steps hr hs
  rcases hproceed : proceed d c.steps { c with polled := true } s with ⟨_ | result, c₁, s₁⟩
  · have hpoll : c.poll d s = (none, c₁, s₁) := by rw [poll, hproceed]
    rw [hproceed] at hkept hrequest
    refine ⟨fun result c' s' heq => ?_, fun c' s' heq => ?_⟩
    · rw [hpoll] at heq
      cases heq
    · rw [hpoll] at heq
      cases heq
      exact ⟨hkept, hrequest⟩
  · have hpoll : c.poll d s = (some result, c₁, d.release s₁) := by rw [poll, hproceed]
    rw [hproceed] at hkept
    refine ⟨fun result c' s' heq => ?_, fun c' s' heq => ?_⟩
    · rw [hpoll] at heq
      cases heq
      exact h.release hkept
    · rw [hpoll] at heq
      cases heq

end RetryingCall

end RpcPipeline
