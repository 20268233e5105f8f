import RpcPipeline.Proofs.Except
import RpcPipeline.Proofs.Hosts.Limits
import RpcPipeline.Proofs.Retry.Contract

/-!
# `RpcPipeline.Proofs.Retry.Pauses`: how long a call pauses between its attempts

Before its retries a call pauses for the delays `RetryConfig.delay`, which grow by a factor up
to the largest one. Only then comes the jitter, which shortens or lengthens each of them by a
random share. So it is the delays that are at most the largest backoff. A pause may be longer
than that, by as much as the jitter allows (`pause_exceeds_maximum`).

A dispatcher can keep a list of the pauses that are drawn (`Dispatcher.clocked`), which changes
nothing else. `RetryingCall.Paces` says how far the list goes wherever a call stands, and
`Proceeds.paces` carries it through a poll. Numbers are exact: over fractions, pauses are cut
off to whole nanoseconds, and nothing else is rounded.

* `RetryConfig.delay_le`, `RetryConfig.delay_eq_min`: the delays.
* `RetryConfig.jittered_eq_stretch`: what the jitter makes of them.
* `run_pauses`: all pauses of a call.
-/

set_option autoImplicit false

namespace RpcPipeline

variable {α γ σ : Type}

/-! ### Delays -/

namespace RetryConfig

/-- The delay before a retry, not counting its jitter. Retries are counted from zero. -/
def delay [Scalar α] (c : RetryConfig α) : Nat → Nanos
  | 0 => c.nextDelay none
  | k + 1 => c.nextDelay (some (c.delay k))

/-- The settings are in order. -/
structure Sane (c : RetryConfig Rat) : Prop where
  initial_le_max : c.initialBackoff ≤ c.maxBackoff
  one_le_multiplier : 1 ≤ c.multiplier
  jitter_nonneg : 0 ≤ c.jitter
  jitter_le_one : c.jitter ≤ 1

theorem sane_of_validate {c : RetryConfig Rat} (h : c.validate = .ok ()) : c.Sane := by
  simp only [validate, then_eq_ok, demand_eq_ok, isFiniteFrom, Scalar.isShare, Bool.and_eq_true,
    decide_eq_true_iff, Bool.not_eq_true', decide_eq_false_iff_not, not_lt] at h
  obtain ⟨horder, ⟨-, hmultiplier⟩, hnonneg, hone⟩ := h
  exact ⟨horder, hmultiplier, hnonneg, hone⟩

variable {c : RetryConfig Rat}

/-- No delay is longer than the largest backoff. -/
theorem delay_le (h : c.Sane) (k : Nat) : c.delay k ≤ c.maxBackoff := by
  cases k with
  | zero => exact h.initial_le_max
  | succ k => exact Nat.min_le_right _ _

/-- No delay is longer than the growth by the factor makes it. -/
theorem delay_le_pow (h : c.Sane) (k : Nat) :
    (c.delay k : Rat) ≤ c.initialBackoff * c.multiplier ^ k := by
  have hmultiplier : 0 ≤ c.multiplier := zero_le_one.trans h.one_le_multiplier
  induction k with
  | zero => simp [delay, nextDelay]
  | succ k ih =>
    have hgrown : (c.delay k : Rat) * c.multiplier ≤
        c.initialBackoff * c.multiplier ^ (k + 1) := by
      rw [pow_succ, ← mul_assoc]
      exact mul_le_mul_of_nonneg_right ih hmultiplier
    refine le_trans ?_ hgrown
    have hcap : c.delay (k + 1) ≤
        if c.delay k < c.maxBackoff then Scalar.grow c.multiplier (c.delay k) else c.delay k :=
      Nat.min_le_left _ _
    refine (Nat.cast_le.mpr hcap).trans ?_
    split
    · rw [mul_comm]
      exact Scalar.grow_le hmultiplier
    · exact le_mul_of_one_le_right (Nat.cast_nonneg _) h.one_le_multiplier

/-- As long as nothing has to be rounded, the delay before a retry is the first one times the
factor, as often as there were retries before, up to the largest backoff. -/
theorem delay_eq_min (h : c.Sane) (hmax : c.maxBackoff ≤ Nanos.longest) (k : Nat)
    (hwhole : ∀ i ≤ k, ∃ n : Nat, (c.initialBackoff : Rat) * c.multiplier ^ i = n) :
    (c.delay k : Rat) = min (c.initialBackoff * c.multiplier ^ k) c.maxBackoff := by
  induction k with
  | zero =>
    have hinitial : (c.initialBackoff : Rat) ≤ c.maxBackoff := Nat.cast_le.mpr h.initial_le_max
    simp [delay, nextDelay, hinitial]
  | succ k ih =>
    have hk := ih fun i hi => hwhole i (Nat.le_succ_of_le hi)
    have hstep : c.delay (k + 1) = min
        (if c.delay k < c.maxBackoff then Scalar.grow c.multiplier (c.delay k) else c.delay k)
        c.maxBackoff := rfl
    have hgrown : (c.initialBackoff : Rat) * c.multiplier ^ (k + 1) =
        c.multiplier * (c.initialBackoff * c.multiplier ^ k) := by
      ring
    by_cases hlt : c.delay k < c.maxBackoff
    · -- The largest backoff is not reached yet, so the delay is what growth makes it.
      have hplain : (c.delay k : Rat) = c.initialBackoff * c.multiplier ^ k := by
        rcases min_choice ((c.initialBackoff : Rat) * c.multiplier ^ k) c.maxBackoff with hl | hr
        · rw [hk, hl]
        · rw [hr] at hk
          exact absurd (Nat.cast_injective hk) (Nat.ne_of_lt hlt)
      obtain ⟨n, hn⟩ := hwhole (k + 1) (Nat.le_refl _)
      have hproduct : c.multiplier * (c.delay k : Rat) = n := by rw [hplain, ← hgrown, hn]
      have hgrow : Scalar.grow c.multiplier (c.delay k) = min Nanos.longest n := by
        show min Nanos.longest (c.multiplier * (c.delay k : Rat)).floor.toNat = _
        rw [hproduct, Scalar.toNat_floor_natCast]
      rw [hstep, if_pos hlt, hgrow, hn, ← Nat.cast_min, Nat.min_comm Nanos.longest,
        Nat.min_assoc, Nat.min_eq_right hmax]
    · have heq : c.delay k = c.maxBackoff :=
        Nat.le_antisymm (delay_le h k) (Nat.le_of_not_lt hlt)
      have hover : (c.maxBackoff : Rat) ≤ c.initialBackoff * c.multiplier ^ (k + 1) :=
        calc (c.maxBackoff : Rat) = c.delay k := by rw [heq]
          _ ≤ c.initialBackoff * c.multiplier ^ k := delay_le_pow h k
          _ ≤ c.multiplier * (c.initialBackoff * c.multiplier ^ k) :=
            le_mul_of_one_le_left ((Nat.cast_nonneg _).trans (delay_le_pow h k))
              h.one_le_multiplier
          _ = c.initialBackoff * c.multiplier ^ (k + 1) := hgrown.symm
      rw [hstep, if_neg hlt, heq, Nat.min_self, min_eq_right hover]

/-! ### Jitter -/

/-- The jitter stretches a delay by a factor around one. -/
theorem jittered_eq_stretch (h : c.Sane) (delay : Nanos) (random : RandomStream) :
    ∃ factor : Rat, 1 - c.jitter ≤ factor ∧ factor ≤ 1 + c.jitter ∧
      (c.jittered delay random).1 = Scalar.stretch delay factor := by
  unfold jittered
  split
  · next hnone =>
    have hzero : c.jitter = 0 := le_antisymm hnone h.jitter_nonneg
    exact ⟨1, by rw [hzero, sub_zero], by rw [hzero, add_zero], Scalar.stretch_one.symm⟩
  · have hshare : Scalar.smaller c.jitter 1 = c.jitter := by
      rw [Scalar.smaller_eq_min, min_eq_left h.jitter_le_one]
    obtain ⟨hnonneg, hone⟩ := random.unit52_mem
    have hlow : 0 ≤ (random.unit52 : Rat × RandomStream).1 * (c.jitter + c.jitter) :=
      mul_nonneg hnonneg (add_nonneg h.jitter_nonneg h.jitter_nonneg)
    have hhigh : (random.unit52 : Rat × RandomStream).1 * (c.jitter + c.jitter) ≤
        c.jitter + c.jitter :=
      mul_le_of_le_one_left (add_nonneg h.jitter_nonneg h.jitter_nonneg) hone
    refine ⟨1 - c.jitter + (random.unit52 : Rat × RandomStream).1 * (c.jitter + c.jitter),
      by linarith, by linarith, ?_⟩
    rw [hshare]

/-- A pause is longer than the largest backoff by no more than the jitter allows. -/
theorem jittered_le (h : c.Sane) (k : Nat) (random : RandomStream) :
    ((c.jittered (c.delay k) random).1 : Rat) ≤ c.maxBackoff * (1 + c.jitter) := by
  obtain ⟨factor, hlow, hhigh, heq⟩ := jittered_eq_stretch h (c.delay k) random
  have hfactor : 0 ≤ factor := (sub_nonneg.mpr h.jitter_le_one).trans hlow
  have hmax : (c.delay k : Rat) ≤ c.maxBackoff := Nat.cast_le.mpr (delay_le h k)
  rw [heq]
  calc (Scalar.stretch (c.delay k) factor : Rat) ≤ c.delay k * factor := Scalar.stretch_le hfactor
    _ ≤ c.maxBackoff * (1 + c.jitter) := mul_le_mul hmax hhigh hfactor (Nat.cast_nonneg _)

end RetryConfig

/-! ### Dispatchers that keep a list of pauses -/

/-- A state, and the pauses that were drawn so far, the latest last. -/
structure Clocked (σ : Type) where
  state : σ
  pauses : List Nanos

/-- Changes the state and leaves the list alone. -/
def Clocked.onState (f : σ → σ) (s : Clocked σ) : Clocked σ := { s with state := f s.state }

namespace Dispatcher

/-- A dispatcher that keeps a list of the pauses that it draws. -/
def clocked (d : Dispatcher α γ σ) : Dispatcher α γ (Clocked σ) where
  submit e r s := ((d.submit e r s.state).1, s.onState fun t => (d.submit e r t).2)
  poll a s :=
    ((d.poll a s.state).1, (d.poll a s.state).2.1, s.onState fun t => (d.poll a t).2.2)
  drop a s := s.onState (d.drop a)
  settings s := d.settings s.state
  now s := d.now s.state
  emit events s := s.onState (d.emit events)
  close r s := s.onState (d.close r)
  draw f s := ((d.draw f s.state).1, ⟨(d.draw f s.state).2, s.pauses ++ [(d.draw f s.state).1]⟩)
  hold s := s.onState d.hold
  release s := s.onState d.release

/-- The list is all that is new. -/
theorem clocked_enriches (d : Dispatcher α γ σ) : d.clocked.Enriches d Clocked.state where
  submit _ _ _ := rfl
  poll _ _ := rfl
  settings _ := rfl
  now _ := rfl
  emit _ _ := rfl
  close _ _ := rfl
  draw _ _ := rfl
  hold _ := rfl
  release _ := rfl

/-- What a dispatcher draws comes from a random stream. -/
def Draws (d : Dispatcher α γ σ) : Prop :=
  ∀ f s, ∃ random, (d.draw f s).1 = (f random).1

end Dispatcher

namespace RetryingCall

variable [Scalar α]

/-- The pauses of a call, from its first attempt on. -/
def pauses (d : Dispatcher α γ σ) (e : Endpoint) (r : Request) (changes : List (σ → σ)) (s : σ) :
    List Nanos :=
  (run d.clocked e r (changes.map Clocked.onState) ⟨s, []⟩).2.2.pauses

/-- A call does the same whether its pauses are listed or not. -/
theorem run_clocked (d : Dispatcher α γ σ) (e : Endpoint) (r : Request)
    (changes : List (σ → σ)) (s : σ) :
    run d.clocked e r (changes.map Clocked.onState) ⟨s, []⟩ =
      ((run d e r changes s).1, (run d e r changes s).2.1,
        ⟨(run d e r changes s).2.2, pauses d e r changes s⟩) := by
  have hlift : ∀ (change : σ → σ) (t : Clocked σ), (t.onState change).state = change t.state :=
    fun _ _ => rfl
  have hrun : run d e r changes s =
      stripped Clocked.state (run d.clocked e r (changes.map Clocked.onState) ⟨s, []⟩) :=
    run_enriched d.clocked_enriches hlift e r changes ⟨s, []⟩
  rw [hrun]
  rfl

/-- How many pauses a call has made wherever it stands, and what they were. -/
structure Paces (config : RetryConfig α) (c : RetryingCall α γ) (ps : List Nanos) : Prop where
  settings : c.settings = config
  budget : ps.length ≤ config.maxRetries.toNat
  /-- The delay before the next retry. -/
  upcoming : config.nextDelay c.lastDelay = config.delay ps.length
  drawn : ∀ k x, ps[k]? = some x → ∃ random, x = (config.jittered (config.delay k) random).1
  /-- A call that pauses waits until its latest pause is over. -/
  phase : match c.phase with
    | .attempting _ => c.attempt = ps.length + 1
    | .pausing alarm => c.attempt = ps.length ∧
        ∃ start x, alarm = .after start x ∧ ps.getLast? = some x

variable {config : RetryConfig α} {c c' : RetryingCall α γ} {ps : List Nanos}
  {d : Dispatcher α γ σ} {s s' : Clocked σ} {answer : Option HostResult}

omit [Scalar α] in
theorem drawn_concat {P : Nat → Nanos → Prop} (h : ∀ k x, ps[k]? = some x → P k x) {x : Nanos}
    (hx : P ps.length x) : ∀ k y, (ps ++ [x])[k]? = some y → P k y := by
  intro k y hget
  rcases Nat.lt_trichotomy k ps.length with hlt | heq | hgt
  · rw [List.getElem?_append_left hlt] at hget
    exact h k y hget
  · subst heq
    rw [List.getElem?_concat_length] at hget
    cases hget
    exact hx
  · rw [List.getElem?_eq_none (by rw [List.length_append, List.length_singleton]; omega)] at hget
    cases hget

theorem Paces.attempting {a : γ} (h : Paces config c ps) (hphase : c.phase = .attempting a) :
    c.attempt = ps.length + 1 := by
  have hstate := h.phase
  rw [hphase] at hstate
  exact hstate

theorem Paces.pausing {alarm : Alarm} (h : Paces config c ps) (hphase : c.phase = .pausing alarm) :
    c.attempt = ps.length ∧ ∃ start x, alarm = .after start x ∧ ps.getLast? = some x := by
  have hstate := h.phase
  rw [hphase] at hstate
  exact hstate

theorem Paces.ready (h : Paces config c ps) : c.Ready := by
  have hbudget := h.budget
  unfold Ready
  rw [h.settings]
  cases hphase : c.phase with
  | attempting a =>
    have hattempt := h.attempting hphase
    show c.attempt ≤ _
    omega
  | pausing alarm =>
    have hattempt := (h.pausing hphase).1
    show c.attempt ≤ _
    omega

/-- A verdict to try again comes with the delay before the next retry. -/
theorem delay_of_again {result : HostResult} {reason : String} {delay : Nanos}
    (h : c.verdict result = .again reason delay) :
    delay = c.settings.nextDelay c.lastDelay := by
  unfold verdict RetryConfig.verdict at h
  cases hreason : Retry.reason result with
  | none =>
    rw [hreason] at h
    cases h
  | some why =>
    rw [hreason] at h
    dsimp only at h
    split at h
    · cases h
    · split at h
      · cases h
        rfl
      · split at h <;> cases h

/-- A result that is given up leaves the list with the pause that was drawn. -/
theorem pauses_givenUp (c : RetryingCall α γ) (reason : String) (delay : Nanos)
    (result : HostResult) (s : Clocked σ) :
    (c.givenUp d.clocked reason delay result s).pauses =
      s.pauses ++ [(d.draw (c.settings.jittered delay) s.state).1] := by
  cases result with
  | ok response => rfl
  | error _ => rfl

/-- Wherever a call stands, a poll adds to the list what it should. -/
theorem Proceeds.paces (hd : d.Draws) (h : Proceeds d.clocked c s answer c' s')
    (hs : Paces config c s.pauses) : Paces config c' s'.pauses := by
  -- Only a result that is given up draws a pause, and the next attempt uses it up.
  have hpolled : ∀ {a a' : γ} {x : Option HostResult} {s t : Clocked σ},
      d.clocked.poll a s = (x, a', t) → t.pauses = s.pauses := by
    intro a a' x s t hpoll
    exact congrArg (fun y => y.2.2.pauses) hpoll.symm
  induction h with
  | @pending c s s' a a' hphase hpoll =>
    rw [hpolled hpoll]
    exact ⟨hs.settings, hs.budget, hs.upcoming, hs.drawn, hs.attempting hphase⟩
  | @done c s s' a a' result hphase hpoll hverdict =>
    rw [hpolled hpoll]
    exact ⟨hs.settings, hs.budget, hs.upcoming, hs.drawn, hs.attempting hphase⟩
  | @exhausted c s s' a a' result reason hphase hpoll hverdict =>
    have hemit : (d.clocked.emit [.exhausted c.endpoint.label c.attempt reason] s').pauses =
        s'.pauses := rfl
    rw [hemit, hpolled hpoll]
    exact ⟨hs.settings, hs.budget, hs.upcoming, hs.drawn, hs.attempting hphase⟩
  | @again c c' s s' s'' a a' result reason delay answer hphase hpoll hverdict _ ih =>
    have hattempt := hs.attempting hphase
    have hleft := le_of_again hverdict
    have hdelay : delay = config.delay s.pauses.length := by
      rw [delay_of_again hverdict, hs.settings, hs.upcoming]
    obtain ⟨random, hdraw⟩ := hd (c.settings.jittered delay) s'.state
    have hlist := pauses_givenUp (d := d) c reason delay result s'
    rw [hpolled hpoll] at hlist
    refine ih ?_
    rw [hlist]
    refine ⟨hs.settings, ?_, ?_, ?_, ?_, ?_⟩
    · rw [List.length_append, List.length_singleton, ← hattempt, ← hs.settings]
      exact hleft
    · rw [List.length_append, List.length_singleton]
      show config.nextDelay (some delay) = _
      rw [hdelay]
      rfl
    · refine drawn_concat hs.drawn ⟨random, ?_⟩
      rw [hdraw, hs.settings, hdelay]
    · show c.attempt = _
      rw [List.length_append, List.length_singleton, hattempt]
    · exact ⟨_, _, rfl, List.getLast?_concat⟩
  | @due c c' s s' alarm answer hphase hdue _ ih =>
    refine ih ⟨hs.settings, hs.budget, hs.upcoming, hs.drawn, ?_⟩
    show c.attempt + 1 = _
    rw [(hs.pausing hphase).1]
    rfl
  | early => exact hs

theorem Paces.poll (hd : d.Draws) (h : Paces config c s.pauses) :
    Paces config (c.poll d.clocked s).2.1 (c.poll d.clocked s).2.2.pauses := by
  obtain ⟨t, hproceeds, hstate⟩ := poll_proceeds (d := d.clocked) h.ready s
  have hstart : Paces config { c with polled := true } s.pauses :=
    ⟨h.settings, h.budget, h.upcoming, h.drawn, h.phase⟩
  -- Letting go of the dispatcher draws nothing.
  have hpauses : (c.poll d.clocked s).2.2.pauses = t.pauses := by
    rw [hstate]
    split <;> rfl
  rw [hpauses]
  exact hproceeds.paces hd hstart

/-- However often a call is polled, and whatever happens in between. -/
theorem Paces.drive (hd : d.Draws) (changes : List (σ → σ)) (h : Paces config c s.pauses) :
    Paces config (drive d.clocked (changes.map Clocked.onState) c s).2.1
      (drive d.clocked (changes.map Clocked.onState) c s).2.2.pauses := by
  induction changes generalizing c s with
  | nil => exact h
  | cons change changes ih =>
    have hstart : Paces config c (s.onState change).pauses := h
    have hpoll := hstart.poll hd
    rw [List.map_cons, RetryingCall.drive]
    rcases hcase : c.poll d.clocked (s.onState change) with ⟨_ | result, c₁, s₁⟩
    · rw [hcase] at hpoll
      exact ih hpoll
    · rw [hcase] at hpoll
      exact hpoll

/-- All pauses of a call are drawn as they should be. -/
theorem run_paces (hd : d.Draws) (e : Endpoint) (r : Request) (changes : List (σ → σ)) (s : σ) :
    Paces (d.settings (d.submit e r s).2) (run d e r changes s).2.1 (pauses d e r changes s) := by
  have hstart : Paces (d.settings (d.submit e r s).2) (start d.clocked e r ⟨s, []⟩).1
      (start d.clocked e r ⟨s, []⟩).2.pauses :=
    ⟨rfl, Nat.zero_le _, rfl, fun k x hget => (by cases hget), rfl⟩
  have hrun : Paces (d.settings (d.submit e r s).2)
      (run d.clocked e r (changes.map Clocked.onState) ⟨s, []⟩).2.1
      (run d.clocked e r (changes.map Clocked.onState) ⟨s, []⟩).2.2.pauses :=
    hstart.drive hd changes
  rw [run_clocked] at hrun
  exact hrun

/-! ### The pauses of a call -/

/-- The pauses of a call with given settings. -/
structure Pauses (config : RetryConfig Rat) (ps : List Nanos) : Prop where
  /-- There is one before each retry. -/
  count : ps.length ≤ config.maxRetries.toNat
  /-- Delays grow by a factor, and only they are held below the largest backoff. -/
  delay : ∀ k, config.delay k ≤ config.maxBackoff ∧
    (config.delay k : Rat) ≤ config.initialBackoff * config.multiplier ^ k
  /-- Nothing else keeps a delay down, unless it has to be rounded. -/
  exactDelay : ∀ k, config.maxBackoff ≤ Nanos.longest →
    (∀ i ≤ k, ∃ n : Nat, (config.initialBackoff : Rat) * config.multiplier ^ i = n) →
      (config.delay k : Rat) = min (config.initialBackoff * config.multiplier ^ k) config.maxBackoff
  /-- A pause is a delay, stretched by a random factor. -/
  stretched : ∀ k x, ps[k]? = some x → ∃ factor : Rat,
    1 - config.jitter ≤ factor ∧ factor ≤ 1 + config.jitter ∧
      x = Scalar.stretch (config.delay k) factor
  /-- So it is longer than the largest backoff by no more than the jitter allows. -/
  bound : ∀ x ∈ ps, (x : Rat) ≤ config.maxBackoff * (1 + config.jitter)

/-- Let the settings at the moment of a call be valid. However often the call is polled and
whatever happens in between, each pause is a delay that is at most the largest backoff,
stretched by a factor within the jitter. A call that has not ended and pauses does so for the
latest of these pauses. -/
theorem run_pauses {d : Dispatcher Rat γ σ} (hd : d.Draws) (e : Endpoint) (r : Request)
    (changes : List (σ → σ)) (s : σ)
    (hvalid : (d.settings (d.submit e r s).2).validate = .ok ()) :
    Pauses (d.settings (d.submit e r s).2) (pauses d e r changes s) ∧
      ∀ alarm, (run d e r changes s).2.1.phase = .pausing alarm →
        ∃ start x, alarm = .after start x ∧ (pauses d e r changes s).getLast? = some x := by
  have hsane := RetryConfig.sane_of_validate hvalid
  have hpaces := run_paces hd e r changes s
  refine ⟨⟨hpaces.budget, fun k => ⟨RetryConfig.delay_le hsane k, RetryConfig.delay_le_pow hsane k⟩,
    fun k hmax hwhole => RetryConfig.delay_eq_min hsane hmax k hwhole, fun k x hget => ?_,
    fun x hx => ?_⟩, fun alarm hphase => (hpaces.pausing hphase).2⟩
  · obtain ⟨random, rfl⟩ := hpaces.drawn k x hget
    exact RetryConfig.jittered_eq_stretch hsane _ random
  · obtain ⟨k, hget⟩ := List.mem_iff_getElem?.mp hx
    obtain ⟨random, rfl⟩ := hpaces.drawn k x hget
    exact RetryConfig.jittered_le hsane k random

/-- Every word of the stream is as large as can be. -/
def loudest : RandomStream := ⟨fun _ => 0xffffffff, 0⟩

/-- A dispatcher like `scripted`, with the largest jitter. -/
def loud (config : RetryConfig Rat) : Dispatcher Rat Unit (List HostResult) :=
  { scripted config with draw := fun f s => ((f loudest).1, s) }

theorem loud_draws (config : RetryConfig Rat) : (loud config).Draws := fun _ _ => ⟨loudest, rfl⟩

/-- One retry after a second, which is also the largest backoff. -/
def abrupt : RetryConfig Rat :=
  { RetryConfig.standard with
    maxRetries := 1, initialBackoff := .seconds 1, maxBackoff := .seconds 1 }

theorem abrupt_pauses :
    pauses (loud abrupt) list (.blank 0) [id] troubled = [1249999999] := by
  decide +kernel

theorem run_pauses_loud :
    abrupt.validate = .ok () ∧ pauses (loud abrupt) list (.blank 0) [id] troubled = [1249999999] ∧
      Pauses abrupt (pauses (loud abrupt) list (.blank 0) [id] troubled) := by
  have hvalid : abrupt.validate = .ok () := eq_ok_of_isOk (by decide +kernel)
  exact ⟨hvalid, abrupt_pauses,
    (run_pauses (loud_draws abrupt) list (.blank 0) [id] troubled hvalid).1⟩

/-- A pause may be longer than the largest backoff. -/
theorem pause_exceeds_maximum :
    abrupt.validate = .ok () ∧
      ¬∀ x ∈ pauses (loud abrupt) list (.blank 0) [id] troubled, x ≤ abrupt.maxBackoff := by
  refine ⟨eq_ok_of_isOk (by decide +kernel), fun h => ?_⟩
  rw [abrupt_pauses] at h
  exact absurd (h 1249999999 (List.mem_singleton.mpr rfl)) (by decide)

end RetryingCall

end RpcPipeline
