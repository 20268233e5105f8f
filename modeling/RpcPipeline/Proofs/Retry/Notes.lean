import RpcPipeline.Retry.Retry

/-!
# `RpcPipeline.Proofs.Retry.Notes`: what a call does, step by step

`RetryingCall.Proceeds` says what can come of a call that goes on as far as possible. The
number of steps it may take is no part of it: `proceed_proceeds` shows that a call has always
steps enough (`RetryingCall.Ready`), so it stops only because its attempt has not ended or
its pause is not over.

A dispatcher can keep notes of what calls do to it and of what it answers, in order
(`Dispatcher.noted`). This changes nothing else (`run_noted`), and neither does anything that
a dispatcher keeps beside its state (`run_enriched`).

* `RetryingCall.run`: a call from its first attempt on, polled time and again.
* `proceed_proceeds`, `run_waits`: why a poll stops.
* `run_noted`: notes do not change what a call does.
-/

set_option autoImplicit false

namespace RpcPipeline

variable {α γ σ : Type}

/-! ### Verdicts -/

namespace Retry

/-- Whether a result may be worth another attempt: the host asks to be left alone for a
while, or the call did not get through. -/
def retryable {η : Type} : CallResult η → Bool
  | .ok r => r.status = 429 || r.status = 503
  | .error (.connect _ _) | .error (.io _ _) | .error (.timeout _ _) => true
  | .error _ => false

/-- Under what name a result counts in metrics. -/
def label {η : Type} (x : CallResult η) : String := (reason x).getD ""

theorem isSome_reason {η : Type} (x : CallResult η) : (reason x).isSome = retryable x := by
  cases x with
  | ok r =>
    simp only [reason, retryable]
    split
    · next h => simp [h]
    · next h =>
      split
      · next h' => simp [h']
      · next h' => simp [h, h']
  | error e => cases e <;> rfl

end Retry

/-- What a verdict on the result of an attempt means. -/
def Verdict.Means {η : Type} (c : RetryConfig α) (replayable : Bool) (attempt : Nat)
    (x : CallResult η) : Verdict → Prop
  | .done => replayable = false ∨ Retry.retryable x = false ∨
      c.maxRetries.toNat < attempt ∧ attempt ≤ 1
  | .exhausted reason => replayable = true ∧ Retry.retryable x = true ∧
      c.maxRetries.toNat < attempt ∧ 1 < attempt ∧ reason = Retry.label x
  | .again reason _ => replayable = true ∧ Retry.retryable x = true ∧
      attempt ≤ c.maxRetries.toNat ∧ reason = Retry.label x

theorem RetryConfig.verdict_means [Scalar α] {η : Type} (c : RetryConfig α) (replayable : Bool)
    (attempt : Nat) (lastDelay : Option Nanos) (x : CallResult η) :
    (c.verdict replayable attempt lastDelay x).Means c replayable attempt x := by
  unfold Verdict.Means
  rw [← Retry.isSome_reason]
  unfold verdict Retry.label
  cases hreason : Retry.reason x with
  | none => exact .inr (.inl rfl)
  | some reason =>
    cases replayable with
    | false => exact .inl rfl
    | true =>
      dsimp only
      rw [if_neg (by simp)]
      by_cases hle : attempt ≤ c.maxRetries.toNat
      · rw [if_pos hle]
        exact ⟨rfl, rfl, hle, rfl⟩
      · have hlt := Nat.lt_of_not_le hle
        rw [if_neg hle]
        by_cases hmore : 1 < attempt
        · rw [if_pos hmore]
          exact ⟨rfl, rfl, hlt, hmore, rfl⟩
        · rw [if_neg hmore]
          exact .inr (.inr ⟨hlt, Nat.le_of_not_lt hmore⟩)

/-! ### Dispatchers that keep notes -/

/-- Something that a call does to its dispatcher, or is told by it. -/
inductive Note (α : Type) where
  | issued (endpoint : Endpoint) (request : Request)
  | answered (result : HostResult)
  | closed (response : Response CloseHook)
  | reported (event : Event α)

/-- A state with notes, the latest last. -/
structure Noted (α σ : Type) where
  state : σ
  notes : List (Note α)

/-- Changes the state and leaves the notes alone. -/
def Noted.onState (f : σ → σ) (s : Noted α σ) : Noted α σ := { s with state := f s.state }

namespace Dispatcher

/-- A dispatcher that keeps notes. -/
def noted (d : Dispatcher α γ σ) : Dispatcher α γ (Noted α σ) where
  submit e r s :=
    ((d.submit e r s.state).1, ⟨(d.submit e r s.state).2, s.notes ++ [.issued e r]⟩)
  poll a s :=
    ((d.poll a s.state).1, (d.poll a s.state).2.1,
      ⟨(d.poll a s.state).2.2, s.notes ++ ((d.poll a s.state).1.map .answered).toList⟩)
  drop a s := s.onState (d.drop a)
  settings s := d.settings s.state
  now s := d.now s.state
  emit events s := ⟨d.emit events s.state, s.notes ++ events.map .reported⟩
  close r s := ⟨d.close r s.state, s.notes ++ [.closed r]⟩
  draw f s := ((d.draw f s.state).1, s.onState fun t => (d.draw f t).2)
  hold s := s.onState d.hold
  release s := s.onState d.release

/-- One dispatcher does what another does, on a state of which there may be more: `plain` is
the part that the other one knows. -/
structure Enriches {σ' : Type} (d' : Dispatcher α γ σ') (d : Dispatcher α γ σ) (plain : σ' → σ) :
    Prop where
  submit : ∀ e r s, d.submit e r (plain s) = ((d'.submit e r s).1, plain (d'.submit e r s).2)
  poll : ∀ a s,
    d.poll a (plain s) = ((d'.poll a s).1, (d'.poll a s).2.1, plain (d'.poll a s).2.2)
  settings : ∀ s, d.settings (plain s) = d'.settings s
  now : ∀ s, d.now (plain s) = d'.now s
  emit : ∀ events s, d.emit events (plain s) = plain (d'.emit events s)
  close : ∀ r s, d.close r (plain s) = plain (d'.close r s)
  draw : ∀ f s, d.draw f (plain s) = ((d'.draw f s).1, plain (d'.draw f s).2)
  hold : ∀ s, d.hold (plain s) = plain (d'.hold s)
  release : ∀ s, d.release (plain s) = plain (d'.release s)

/-- Notes are all that is new. -/
theorem noted_enriches (d : Dispatcher α γ σ) : d.noted.Enriches d Noted.state where
  submit _ _ _ := rfl
  poll _ _ := rfl
  settings _ := rfl
  now _ := rfl
  emit _ _ := rfl
  close _ _ := rfl
  draw _ _ := rfl
  hold _ := rfl
  release _ := rfl

/-- Gives up a result: a response is closed. -/
def giveUp (d : Dispatcher α γ σ) : HostResult → σ → σ
  | .ok r, s => d.close r s
  | .error _, s => s

end Dispatcher

namespace RetryingCall

variable [Scalar α]

/-- Polls a call time and again until it ends. Before each poll the state changes in any
way. -/
def drive (d : Dispatcher α γ σ) :
    List (σ → σ) → RetryingCall α γ → σ → Option HostResult × RetryingCall α γ × σ
  | [], c, s => (none, c, s)
  | change :: changes, c, s =>
    match c.poll d (change s) with
    | (some result, c, s) => (some result, c, s)
    | (none, c, s) => drive d changes c s

/-- Makes a call, and polls it time and again until it ends. -/
def run (d : Dispatcher α γ σ) (e : Endpoint) (r : Request) (changes : List (σ → σ)) (s : σ) :
    Option HostResult × RetryingCall α γ × σ :=
  drive d changes (start d e r s).1 (start d e r s).2

/-! ### What comes of a poll -/

/-- What follows the latest attempt. -/
def verdict (c : RetryingCall α γ) (result : HostResult) : Verdict :=
  c.settings.verdict c.request.isReplayable c.attempt c.lastDelay result

/-- The state in which a pause begins. -/
def givenUp (d : Dispatcher α γ σ) (c : RetryingCall α γ) (reason : String) (delay : Nanos)
    (result : HostResult) (s : σ) : σ :=
  d.giveUp result
    (d.emit [.retry c.endpoint.label c.attempt reason] (d.draw (c.settings.jittered delay) s).2)

/-- The pause of a call, which begins now. -/
def pause (d : Dispatcher α γ σ) (c : RetryingCall α γ) (reason : String) (delay : Nanos)
    (result : HostResult) (s : σ) : RetryingCall α γ :=
  { c with
    phase := .pausing (.after (d.now (c.givenUp d reason delay result s))
      (d.draw (c.settings.jittered delay) s).1)
    lastDelay := some delay }

omit [Scalar α] in
/-- The next attempt of a call. -/
def next (d : Dispatcher α γ σ) (c : RetryingCall α γ) (s : σ) : RetryingCall α γ :=
  { c with
    phase := .attempting (d.submit c.endpoint c.request s).1
    attempt := c.attempt + 1 }

/-- What can come of a call that goes on as far as possible. -/
inductive Proceeds (d : Dispatcher α γ σ) :
    RetryingCall α γ → σ → Option HostResult → RetryingCall α γ → σ → Prop where
  | pending {c : RetryingCall α γ} {s s' : σ} {a a' : γ} (hphase : c.phase = .attempting a)
      (hpoll : d.poll a s = (none, a', s')) :
      Proceeds d c s none { c with phase := .attempting a' } s'
  | done {c : RetryingCall α γ} {s s' : σ} {a a' : γ} {result : HostResult}
      (hphase : c.phase = .attempting a) (hpoll : d.poll a s = (some result, a', s'))
      (hverdict : c.verdict result = .done) :
      Proceeds d c s (some result) { c with phase := .attempting a' } s'
  | exhausted {c : RetryingCall α γ} {s s' : σ} {a a' : γ} {result : HostResult}
      {reason : String} (hphase : c.phase = .attempting a)
      (hpoll : d.poll a s = (some result, a', s'))
      (hverdict : c.verdict result = .exhausted reason) :
      Proceeds d c s (some result) { c with phase := .attempting a' }
        (d.emit [.exhausted c.endpoint.label c.attempt reason] s')
  | again {c c' : RetryingCall α γ} {s s' s'' : σ} {a a' : γ} {result : HostResult}
      {reason : String} {delay : Nanos} {answer : Option HostResult}
      (hphase : c.phase = .attempting a) (hpoll : d.poll a s = (some result, a', s'))
      (hverdict : c.verdict result = .again reason delay)
      (hrest : Proceeds d (c.pause d reason delay result s')
        (c.givenUp d reason delay result s') answer c' s'') :
      Proceeds d c s answer c' s''
  | due {c c' : RetryingCall α γ} {s s' : σ} {alarm : Alarm} {answer : Option HostResult}
      (hphase : c.phase = .pausing alarm) (hdue : alarm.isDue (d.now s) = true)
      (hrest : Proceeds d (c.next d s) (d.submit c.endpoint c.request s).2 answer c' s') :
      Proceeds d c s answer c' s'
  | early {c : RetryingCall α γ} {s : σ} {alarm : Alarm} (hphase : c.phase = .pausing alarm)
      (hearly : alarm.isDue (d.now s) = false) : Proceeds d c s none c s

/-- The attempts of a call are within its budget, and if it pauses, one is left. -/
def Ready (c : RetryingCall α γ) : Prop :=
  match c.phase with
  | .attempting _ => c.attempt ≤ c.settings.maxRetries.toNat + 1
  | .pausing _ => c.attempt ≤ c.settings.maxRetries.toNat

theorem verdict_means (c : RetryingCall α γ) (result : HostResult) :
    (c.verdict result).Means c.settings c.request.isReplayable c.attempt result :=
  c.settings.verdict_means _ _ _ _

/-- Another attempt is made only within the budget. -/
theorem le_of_again {c : RetryingCall α γ} {result : HostResult} {reason : String}
    {delay : Nanos} (h : c.verdict result = .again reason delay) :
    c.attempt ≤ c.settings.maxRetries.toNat := by
  have hmeans := c.verdict_means result
  rw [h] at hmeans
  exact hmeans.2.2.1

/-- The number of steps that a call may still take: two for each attempt, of which a call
that pauses has taken one. -/
def stepsLeft (c : RetryingCall α γ) : Nat :=
  match c.phase with
  | .attempting _ => 2 * (c.settings.maxRetries.toNat + 2 - c.attempt)
  | .pausing _ => 2 * (c.settings.maxRetries.toNat + 2 - c.attempt) - 1

variable {d : Dispatcher α γ σ} {c c' : RetryingCall α γ} {s s' : σ}
  {answer : Option HostResult}

/-- A call never runs out of steps. -/
theorem proceed_proceeds (fuel : Nat) (hready : c.Ready) (hfuel : c.stepsLeft ≤ fuel) (s : σ) :
    Proceeds d c s (proceed d fuel c s).1 (proceed d fuel c s).2.1 (proceed d fuel c s).2.2 := by
  induction fuel generalizing c s with
  | zero =>
    -- Some step is always left.
    exfalso
    unfold Ready at hready
    unfold stepsLeft at hfuel
    cases hphase : c.phase with
    | attempting a =>
      rw [hphase] at hready hfuel
      dsimp only at hready hfuel
      omega
    | pausing alarm =>
      rw [hphase] at hready hfuel
      dsimp only at hready hfuel
      omega
  | succ fuel ih =>
    unfold Ready at hready
    unfold stepsLeft at hfuel
    unfold proceed
    cases hphase : c.phase with
    | attempting a =>
      rw [hphase] at hready hfuel
      dsimp only at hready hfuel ⊢
      rcases hpoll : d.poll a s with ⟨_ | result, a', s₁⟩
      · exact .pending hphase hpoll
      · dsimp only
        cases hverdict :
            c.settings.verdict c.request.isReplayable c.attempt c.lastDelay result with
        | done => exact .done hphase hpoll hverdict
        | exhausted reason => exact .exhausted hphase hpoll hverdict
        | again reason delay =>
          have hagain : c.verdict result = .again reason delay := hverdict
          have hle := le_of_again hagain
          have hrest := ih (c := c.pause d reason delay result s₁) hle
            (show 2 * (c.settings.maxRetries.toNat + 2 - c.attempt) - 1 ≤ fuel by omega)
            (c.givenUp d reason delay result s₁)
          refine .again hphase hpoll hagain ?_
          cases result with
          | ok r => exact hrest
          | error _ => exact hrest
    | pausing alarm =>
      rw [hphase] at hready hfuel
      dsimp only at hready hfuel ⊢
      cases hdue : alarm.isDue (d.now s) with
      | false =>
        rw [if_neg Bool.false_ne_true]
        exact .early hphase hdue
      | true =>
        rw [if_pos rfl]
        have hrest := ih (c := c.next d s)
          (show c.attempt + 1 ≤ c.settings.maxRetries.toNat + 1 by omega)
          (show 2 * (c.settings.maxRetries.toNat + 2 - (c.attempt + 1)) ≤ fuel by omega)
          (d.submit c.endpoint c.request s).2
        exact .due hphase hdue hrest

/-- A call that has not ended is still within its budget. -/
theorem Proceeds.ready (h : Proceeds d c s answer c' s') (hready : c.Ready) :
    answer = none → c'.Ready := by
  induction h with
  | @pending c _ _ _ _ hphase _ =>
    intro _
    rw [Ready, hphase] at hready
    exact hready
  | done => exact fun hnone => by cases hnone
  | exhausted => exact fun hnone => by cases hnone
  | again _ _ hverdict _ ih =>
    have hle := le_of_again hverdict
    exact ih hle
  | due hphase _ _ ih =>
    rw [Ready, hphase] at hready
    exact ih (Nat.succ_le_succ hready)
  | early => exact fun _ => hready

/-- A call waits for its attempt, which has just given no result, or for its pause. -/
def Waits (d : Dispatcher α γ σ) (c : RetryingCall α γ) (s : σ) : Prop :=
  match c.phase with
  | .attempting a => ∃ a₀ s₀, d.poll a₀ s₀ = (none, a, s)
  | .pausing alarm => alarm.isDue (d.now s) = false

theorem Proceeds.waits (h : Proceeds d c s answer c' s') : answer = none → c'.Waits d s' := by
  induction h with
  | pending _ hpoll => exact fun _ => ⟨_, _, hpoll⟩
  | done => exact fun hnone => by cases hnone
  | exhausted => exact fun hnone => by cases hnone
  | again _ _ _ _ ih => exact ih
  | due _ _ _ ih => exact ih
  | early hphase hearly =>
    intro _
    rw [Waits, hphase]
    exact hearly

/-- What comes of a poll. With a result the call lets go of the dispatcher. -/
theorem poll_proceeds (hready : c.Ready) (s : σ) :
    ∃ t, Proceeds d { c with polled := true } s (c.poll d s).1 (c.poll d s).2.1 t ∧
      (c.poll d s).2.2 = if (c.poll d s).1.isSome then d.release t else t := by
  have hsteps : stepsLeft { c with polled := true } ≤ c.steps := by
    unfold stepsLeft steps
    cases c.phase with
    | attempting a => exact Nat.le_refl _
    | pausing alarm => exact Nat.sub_le _ _
  have hproceeds := proceed_proceeds (d := d) (c := { c with polled := true }) c.steps hready
    hsteps s
  unfold poll
  rcases hproceed : proceed d c.steps { c with polled := true } s with ⟨_ | result, c₁, s₁⟩
  · rw [hproceed] at hproceeds
    exact ⟨s₁, hproceeds, rfl⟩
  · rw [hproceed] at hproceeds
    exact ⟨s₁, hproceeds, rfl⟩

/-- A poll gives no result only as long as the attempt has not ended or the pause is not
over. -/
theorem poll_waits (hready : c.Ready) (h : c.poll d s = (none, c', s')) :
    c'.Waits d s' ∧ c'.Ready := by
  obtain ⟨t, hproceeds, hstate⟩ := poll_proceeds (d := d) hready s
  rw [h] at hproceeds hstate
  have ht : s' = t := hstate
  subst ht
  exact ⟨hproceeds.waits rfl, hproceeds.ready hready rfl⟩

theorem drive_waits (changes : List (σ → σ)) (hready : c.Ready) (hchanges : changes ≠ [])
    (h : drive d changes c s = (none, c', s')) : c'.Waits d s' := by
  induction changes generalizing c s with
  | nil => exact absurd rfl hchanges
  | cons change changes ih =>
    rw [drive] at h
    rcases hpoll : c.poll d (change s) with ⟨_ | result, c₁, s₁⟩
    · rw [hpoll] at h
      obtain ⟨hwaits, hready₁⟩ := poll_waits hready hpoll
      cases changes with
      | nil =>
        cases h
        exact hwaits
      | cons change' changes => exact ih hready₁ (List.cons_ne_nil _ _) h
    · rw [hpoll] at h
      cases h

/-- As long as a call that is polled has not ended, it waits for its attempt or its pause:
polls are never cut short. -/
theorem run_waits {e : Endpoint} {r : Request} {changes : List (σ → σ)}
    (hchanges : changes ≠ []) (h : run d e r changes s = (none, c', s')) : c'.Waits d s' := by
  have hready : (start d e r s).1.Ready := Nat.le_add_left 1 _
  exact drive_waits changes hready hchanges h

/-! ### Dispatchers with more to their state -/

section

variable {σ' : Type} {d' : Dispatcher α γ σ'} {plain : σ' → σ}

/-- What came of a call, without what there is more to the state. -/
def stripped (plain : σ' → σ) (x : Option HostResult × RetryingCall α γ × σ') :
    Option HostResult × RetryingCall α γ × σ :=
  (x.1, x.2.1, plain x.2.2)

/-- What there is more to the state does not change what a call does. -/
theorem proceed_enriched (h : d'.Enriches d plain) (fuel : Nat) (c : RetryingCall α γ) (s : σ') :
    proceed d fuel c (plain s) = stripped plain (proceed d' fuel c s) := by
  induction fuel generalizing c s with
  | zero => rfl
  | succ fuel ih =>
    unfold proceed
    cases hphase : c.phase with
    | attempting a =>
      rcases hpoll : d'.poll a s with ⟨_ | result, a', t⟩
      · simp only [h.poll, hpoll]
        rfl
      · simp only [h.poll, hpoll]
        cases c.settings.verdict c.request.isReplayable c.attempt c.lastDelay result with
        | done => rfl
        | exhausted reason =>
          dsimp only
          rw [h.emit]
          rfl
        | again reason delay =>
          cases result with
          | ok r =>
            simp only [h.draw, h.emit, h.close, h.now]
            exact ih _ _
          | error _ =>
            simp only [h.draw, h.emit, h.now]
            exact ih _ _
    | pausing alarm =>
      simp only [h.now, h.submit]
      split
      · exact ih _ _
      · rfl

theorem poll_enriched (h : d'.Enriches d plain) (c : RetryingCall α γ) (s : σ') :
    c.poll d (plain s) = stripped plain (c.poll d' s) := by
  unfold poll
  rw [proceed_enriched h]
  rcases proceed d' c.steps { c with polled := true } s with ⟨_ | result, c₁, s₁⟩
  · rfl
  · exact congrArg (fun t => (some result, c₁, t)) (h.release s₁)

theorem drive_enriched (h : d'.Enriches d plain) {lift : (σ → σ) → σ' → σ'}
    (hlift : ∀ change s, plain (lift change s) = change (plain s)) (changes : List (σ → σ))
    (c : RetryingCall α γ) (s : σ') :
    drive d changes c (plain s) = stripped plain (drive d' (changes.map lift) c s) := by
  induction changes generalizing c s with
  | nil => rfl
  | cons change changes ih =>
    rw [List.map_cons, drive, drive, ← hlift change s, poll_enriched h]
    rcases c.poll d' (lift change s) with ⟨_ | result, c₁, s₁⟩
    · exact ih c₁ s₁
    · rfl

theorem run_enriched (h : d'.Enriches d plain) {lift : (σ → σ) → σ' → σ'}
    (hlift : ∀ change s, plain (lift change s) = change (plain s)) (e : Endpoint) (r : Request)
    (changes : List (σ → σ)) (s : σ') :
    run d e r changes (plain s) = stripped plain (run d' e r (changes.map lift) s) := by
  have hstart : start d e r (plain s) = ((start d' e r s).1, plain (start d' e r s).2) := by
    unfold start
    simp only [h.submit, h.settings, h.hold]
  unfold run
  rw [hstart]
  exact drive_enriched h hlift changes _ _

end

/-! ### Notes -/

/-- The notes of a call, from its first attempt on. -/
def notes (d : Dispatcher α γ σ) (e : Endpoint) (r : Request) (changes : List (σ → σ)) (s : σ) :
    List (Note α) :=
  (run d.noted e r (changes.map Noted.onState) ⟨s, []⟩).2.2.notes

/-- A call does the same whether notes are kept or not. -/
theorem run_noted (e : Endpoint) (r : Request) (changes : List (σ → σ)) (s : σ) :
    run d.noted e r (changes.map Noted.onState) ⟨s, []⟩ =
      ((run d e r changes s).1, (run d e r changes s).2.1,
        ⟨(run d e r changes s).2.2, notes d e r changes s⟩) := by
  have hlift : ∀ (change : σ → σ) (t : Noted α σ), (t.onState change).state = change t.state :=
    fun _ _ => rfl
  have hrun : run d e r changes s =
      stripped Noted.state (run d.noted e r (changes.map Noted.onState) ⟨s, []⟩) :=
    run_enriched d.noted_enriches hlift e r changes ⟨s, []⟩
  rw [hrun]
  rfl

end RetryingCall

end RpcPipeline
