import Mathlib.Data.List.Basic
import RpcPipeline.Proofs.Number.Exact
import RpcPipeline.Proofs.Retry.Notes

/-!
# `RpcPipeline.Proofs.Retry.Contract`: how often a call is tried, and what becomes of its results

What a call does to its dispatcher follows from its request, its budget and the results of
its attempts alone. It is written down here as a story (`Retry.story`): attempts one after
the other, each but the last with a result that is worth another one, which is reported and
given up before the next attempt is made.

The proof follows a call from one attempt to the next. `RetryingCall.Stands` says how far it
has come, by the results that it has given up so far, and `RetryingCall.Ends` says where it
ends.

* `Proceeds.comes`: what a poll adds to the story.
* `Ends.attempts`: a call ends after as many attempts as it should make.
* `run_honours_contract`: the contract.
-/

set_option autoImplicit false

namespace RpcPipeline

variable {α γ σ : Type}

namespace Note

/-- The attempt that was made. -/
def issue? : Note α → Option (Endpoint × Request)
  | issued e r => some (e, r)
  | _ => none

/-- The result of an attempt. -/
def answer? : Note α → Option HostResult
  | answered result => some result
  | _ => none

/-- The response that was closed. -/
def close? : Note α → Option (Response CloseHook)
  | closed response => some response
  | _ => none

/-- The event that was reported. -/
def event? : Note α → Option (Event α)
  | reported event => some event
  | _ => none

end Note

/-! ### The story of a call -/

namespace Retry

/-- The number of attempts that a call makes, given the results of all attempts that it might
make: up to the first result that is not worth another attempt, or to the end of the budget.
A request that cannot be sent again is sent once. -/
def attempts (maxRetries : Nat) (replayable : Bool) (results : Nat → HostResult) : Nat :=
  if replayable then
    (List.range maxRetries).findIdx (fun i => !retryable (results i)) + 1
  else 1

/-- How a result is given up. -/
def closing : HostResult → List (Note α)
  | .ok r => [.closed r]
  | .error _ => []

/-- An attempt, counted from zero, that is followed by another one. -/
def lap (e : Endpoint) (r : Request) (i : Nat) (x : HostResult) : List (Note α) :=
  [.issued e r, .answered x, .reported (.retry e.label (i + 1) (label x))] ++ closing x

/-- What is reported at the end of a call after `n` attempts. -/
def exhaustion (e : Endpoint) (replayable : Bool) (n : Nat) (x : HostResult) : List (Event α) :=
  if replayable && retryable x && decide (1 < n) then [.exhausted e.label n (label x)] else []

/-- The last attempt. -/
def lastLap (e : Endpoint) (r : Request) (n : Nat) (x : HostResult) : List (Note α) :=
  [.issued e r, .answered x] ++ (exhaustion e r.isReplayable n x).map .reported

/-- Everything that a call of `n` attempts does to its dispatcher and is told by it. -/
def story (e : Endpoint) (r : Request) (results : Nat → HostResult) (n : Nat) : List (Note α) :=
  (List.range (n - 1)).flatMap (fun i => lap e r i (results i)) ++
    lastLap e r n (results (n - 1))

/-- The attempts whose results were given up. -/
def laps (e : Endpoint) (r : Request) (given : List HostResult) : List (Note α) :=
  given.zipIdx.flatMap fun p => lap e r p.2 p.1

theorem laps_concat (e : Endpoint) (r : Request) (given : List HostResult) (x : HostResult) :
    laps e r (given ++ [x]) = (laps e r given ++ lap e r given.length x : List (Note α)) := by
  simp [laps, List.zipIdx_append]

/-- A story is read lap by lap. -/
theorem filterMap_story {β : Type} (f : Note α → Option β) (e : Endpoint) (r : Request)
    (results : Nat → HostResult) (m : Nat) :
    (story e r results (m + 1)).filterMap f =
      ((List.range m).flatMap fun i => (lap e r i (results i)).filterMap f) ++
        (lastLap e r (m + 1) (results m)).filterMap f := by
  rw [story, List.filterMap_append, List.filterMap_flatMap]
  rfl

/-- Laps by number. -/
theorem laps_eq (e : Endpoint) (r : Request) {given : List HostResult}
    {results : Nat → HostResult} (h : ∀ (i : Nat) x, given[i]? = some x → x = results i) :
    laps e r given =
      ((List.range given.length).flatMap fun i => lap e r i (results i) : List (Note α)) := by
  have hzip : given.zipIdx = (List.range given.length).map fun i => (results i, i) := by
    refine List.ext_getElem? fun i => ?_
    rw [List.getElem?_zipIdx, List.getElem?_map]
    cases hget : given[i]? with
    | none =>
      rw [List.getElem?_eq_none (by simpa using List.getElem?_eq_none_iff.mp hget)]
      rfl
    | some x =>
      obtain ⟨hi, -⟩ := List.getElem?_eq_some_iff.mp hget
      rw [List.getElem?_range hi, h i x hget, Nat.zero_add]
      rfl
  rw [laps, hzip, List.flatMap_map]

end Retry

/-! ### From one attempt to the next -/

namespace RetryingCall

/-- The results that a call has given up so far are worth another attempt, and so many
attempts the request and the budget allow. -/
structure Spends (r : Request) (config : RetryConfig α) (given : List HostResult) : Prop where
  retryable : ∀ x ∈ given, Retry.retryable x = true
  replayable : given ≠ [] → r.isReplayable = true
  budget : given.length ≤ config.maxRetries.toNat

theorem Spends.concat {r : Request} {config : RetryConfig α} {given : List HostResult}
    {x : HostResult} (h : Spends r config given) (hx : Retry.retryable x = true)
    (hr : r.isReplayable = true) (hb : given.length < config.maxRetries.toNat) :
    Spends r config (given ++ [x]) where
  retryable y hy := by
    rcases List.mem_append.mp hy with hy | hy
    · exact h.retryable y hy
    · rw [List.mem_singleton.mp hy]
      exact hx
  replayable _ := hr
  budget := by
    rw [List.length_append]
    exact hb

/-- How far a call has come: `given` are the results that it has given up. -/
structure Stands (e : Endpoint) (r : Request) (config : RetryConfig α)
    (given : List HostResult) (c : RetryingCall α γ) (notes : List (Note α)) : Prop where
  endpoint : c.endpoint = e
  request : c.request = r
  settings : c.settings = config
  spends : Spends r config given
  phase : match c.phase with
    | .attempting _ => c.attempt = given.length + 1 ∧ notes = Retry.laps e r given ++ [.issued e r]
    | .pausing _ => c.attempt = given.length ∧ notes = Retry.laps e r given

/-- How a call ends: with the result of an attempt that is not worth another one, or after
which none is left. -/
structure Ends (e : Endpoint) (r : Request) (config : RetryConfig α) (given : List HostResult)
    (result : HostResult) (notes : List (Note α)) : Prop where
  spends : Spends r config given
  stops : r.isReplayable = false ∨ Retry.retryable result = false ∨
    given.length = config.maxRetries.toNat
  notes_eq : notes = Retry.laps e r given ++ Retry.lastLap e r (given.length + 1) result

/-- What a poll leads to. -/
def Comes (e : Endpoint) (r : Request) (config : RetryConfig α) (answer : Option HostResult)
    (c : RetryingCall α γ) (notes : List (Note α)) : Prop :=
  match answer with
  | some result => ∃ given, Ends e r config given result notes
  | none => ∃ given, Stands e r config given c notes

variable {e : Endpoint} {r : Request} {config : RetryConfig α} {given : List HostResult}
  {c c' : RetryingCall α γ} {notes : List (Note α)}

theorem Stands.attempting {a : γ} (h : Stands e r config given c notes)
    (hphase : c.phase = .attempting a) :
    c.attempt = given.length + 1 ∧ notes = Retry.laps e r given ++ [.issued e r] := by
  have hstate := h.phase
  rw [hphase] at hstate
  exact hstate

theorem Stands.pausing {alarm : Alarm} (h : Stands e r config given c notes)
    (hphase : c.phase = .pausing alarm) :
    c.attempt = given.length ∧ notes = Retry.laps e r given := by
  have hstate := h.phase
  rw [hphase] at hstate
  exact hstate

theorem Stands.ready (h : Stands e r config given c notes) : c.Ready := by
  have hbudget := h.spends.budget
  unfold Ready
  rw [h.settings]
  cases hphase : c.phase with
  | attempting a =>
    have hattempt := (h.attempting hphase).1
    show c.attempt ≤ _
    omega
  | pausing alarm =>
    have hattempt := (h.pausing hphase).1
    show c.attempt ≤ _
    omega

variable {d : Dispatcher α γ σ} {s s' : Noted α σ} {answer : Option HostResult}

/-- The result of an attempt is noted. -/
theorem notes_of_poll {a a' : γ} {result : HostResult}
    (h : d.noted.poll a s = (some result, a', s')) : s'.notes = s.notes ++ [.answered result] := by
  have hanswer : (d.poll a s.state).1 = some result := congrArg (fun x => x.1) h
  have hnotes := congrArg (fun x => x.2.2.notes) h
  dsimp only [Dispatcher.noted] at hnotes
  rw [← hnotes, hanswer]
  rfl

/-- As long as an attempt has not ended, nothing is noted. -/
theorem notes_of_pending {a a' : γ} (h : d.noted.poll a s = (none, a', s')) :
    s'.notes = s.notes := by
  have hanswer : (d.poll a s.state).1 = none := congrArg (fun x => x.1) h
  have hnotes := congrArg (fun x => x.2.2.notes) h
  dsimp only [Dispatcher.noted] at hnotes
  rw [← hnotes, hanswer]
  exact List.append_nil _

variable [Scalar α]

/-- What is noted when a result is given up. -/
theorem notes_givenUp (c : RetryingCall α γ) (reason : String) (delay : Nanos)
    (result : HostResult) (s : Noted α σ) :
    (c.givenUp d.noted reason delay result s).notes =
      s.notes ++ [.reported (.retry c.endpoint.label c.attempt reason)] ++
        Retry.closing result := by
  cases result with
  | ok response => rfl
  | error _ => exact (List.append_nil _).symm

/-- Wherever a call stands, a poll tells the next part of its story. -/
theorem Proceeds.comes (h : Proceeds d.noted c s answer c' s') {given : List HostResult}
    (hs : Stands e r config given c s.notes) : Comes e r config answer c' s'.notes := by
  -- A result that is given up adds a lap, and the next attempt begins another one.
  induction h generalizing given with
  | @pending c s s' a a' hphase hpoll =>
    obtain ⟨hattempt, hnotes⟩ := hs.attempting hphase
    refine ⟨given, hs.endpoint, hs.request, hs.settings, hs.spends, hattempt, ?_⟩
    rw [notes_of_pending hpoll]
    exact hnotes
  | @done c s s' a a' result hphase hpoll hverdict =>
    obtain ⟨hattempt, hnotes⟩ := hs.attempting hphase
    have hmeans := c.verdict_means result
    rw [hverdict, hs.settings, hs.request, hattempt] at hmeans
    have hbudget := hs.spends.budget
    refine ⟨given, hs.spends, ?_, ?_⟩
    · rcases hmeans with hreplay | hfinal | ⟨hspent, hfirst⟩
      · exact .inl hreplay
      · exact .inr (.inl hfinal)
      · exact .inr (.inr (by omega))
    · have hquiet : Retry.exhaustion e r.isReplayable (given.length + 1) result =
          ([] : List (Event α)) := by
        unfold Retry.exhaustion
        rw [if_neg]
        simp only [Bool.and_eq_true, decide_eq_true_eq, not_and]
        rintro ⟨hreplay, hretry⟩
        rcases hmeans with hno | hno | ⟨-, hfirst⟩
        · rw [hreplay] at hno
          cases hno
        · rw [hretry] at hno
          cases hno
        · exact Nat.not_lt_of_le hfirst
      rw [notes_of_poll hpoll, hnotes, Retry.lastLap, hquiet]
      simp
  | @exhausted c s s' a a' result reason hphase hpoll hverdict =>
    obtain ⟨hattempt, hnotes⟩ := hs.attempting hphase
    have hmeans := c.verdict_means result
    rw [hverdict, hs.settings, hs.request, hattempt] at hmeans
    obtain ⟨hreplay, hretry, hspent, hmore, rfl⟩ := hmeans
    have hbudget := hs.spends.budget
    refine ⟨given, hs.spends, .inr (.inr (by omega)), ?_⟩
    have hnoted : (d.noted.emit [.exhausted c.endpoint.label c.attempt (Retry.label result)]
        s').notes = s'.notes ++
          [.reported (.exhausted c.endpoint.label c.attempt (Retry.label result))] := rfl
    rw [hnoted, notes_of_poll hpoll, hnotes, hattempt, hs.endpoint, Retry.lastLap,
      Retry.exhaustion, if_pos (by simp [hreplay, hretry, hmore])]
    simp
  | @again c c' s s' s'' a a' result reason delay answer hphase hpoll hverdict _ ih =>
    obtain ⟨hattempt, hnotes⟩ := hs.attempting hphase
    have hmeans := c.verdict_means result
    rw [hverdict, hs.settings, hs.request, hattempt] at hmeans
    obtain ⟨hreplay, hretry, hleft, rfl⟩ := hmeans
    have hlap : (c.givenUp d.noted (Retry.label result) delay result s').notes =
        Retry.laps e r (given ++ [result]) := by
      rw [notes_givenUp, notes_of_poll hpoll, hnotes, hattempt, hs.endpoint, Retry.laps_concat,
        Retry.lap]
      simp
    have hnext : c.attempt = (given ++ [result]).length := by
      rw [List.length_append]
      exact hattempt
    have hpaused : Stands e r config (given ++ [result])
        (c.pause d.noted (Retry.label result) delay result s')
        (c.givenUp d.noted (Retry.label result) delay result s').notes :=
      ⟨hs.endpoint, hs.request, hs.settings, hs.spends.concat hretry hreplay hleft, hnext, hlap⟩
    exact ih hpaused
  | @due c c' s s' alarm answer hphase hdue _ ih =>
    obtain ⟨hattempt, hnotes⟩ := hs.pausing hphase
    have hnoted : (d.noted.submit c.endpoint c.request s).2.notes =
        Retry.laps e r given ++ [.issued e r] := by
      show s.notes ++ [.issued c.endpoint c.request] = _
      rw [hnotes, hs.endpoint, hs.request]
    have hnext : Stands e r config given (c.next d.noted s)
        (d.noted.submit c.endpoint c.request s).2.notes :=
      ⟨hs.endpoint, hs.request, hs.settings, hs.spends, congrArg (· + 1) hattempt, hnoted⟩
    exact ih hnext
  | early => exact ⟨given, hs⟩

theorem Stands.poll (h : Stands e r config given c s.notes) :
    Comes e r config (c.poll d.noted s).1 (c.poll d.noted s).2.1
      (c.poll d.noted s).2.2.notes := by
  obtain ⟨t, hproceeds, hstate⟩ := poll_proceeds (d := d.noted) h.ready s
  have hstart : Stands e r config given { c with polled := true } s.notes :=
    ⟨h.endpoint, h.request, h.settings, h.spends, h.phase⟩
  -- Letting go of the dispatcher is not noted.
  have hnotes : (c.poll d.noted s).2.2.notes = t.notes := by
    rw [hstate]
    split <;> rfl
  rw [hnotes]
  exact hproceeds.comes hstart

/-- However often a call is polled, and whatever happens in between. -/
theorem Stands.drive (changes : List (σ → σ)) {given : List HostResult}
    (h : Stands e r config given c s.notes) :
    Comes e r config (drive d.noted (changes.map Noted.onState) c s).1
      (drive d.noted (changes.map Noted.onState) c s).2.1
      (drive d.noted (changes.map Noted.onState) c s).2.2.notes := by
  induction changes generalizing c s given with
  | nil => exact ⟨given, h⟩
  | cons change changes ih =>
    have hstart : Stands e r config given c (s.onState change).notes := h
    have hcomes := hstart.poll (d := d)
    rw [List.map_cons, RetryingCall.drive]
    rcases hpoll : c.poll d.noted (s.onState change) with ⟨_ | result, c₁, s₁⟩
    · rw [hpoll] at hcomes
      obtain ⟨given', hstands⟩ := hcomes
      exact ih hstands
    · rw [hpoll] at hcomes
      exact hcomes

omit [Scalar α] in
/-- The first attempt is made at once. -/
theorem start_stands (d : Dispatcher α γ σ) (e : Endpoint) (r : Request) (s : σ) :
    Stands e r (d.settings (d.submit e r s).2) [] (start d.noted e r ⟨s, []⟩).1
      (start d.noted e r ⟨s, []⟩).2.notes where
  endpoint := rfl
  request := rfl
  settings := rfl
  spends := ⟨fun x hx => (by cases hx), fun h => absurd rfl h, Nat.zero_le _⟩
  phase := ⟨rfl, rfl⟩

/-! ### The contract -/

omit [Scalar α] in
/-- A call ends after as many attempts as it should make. -/
theorem Ends.attempts {result : HostResult} (h : Ends e r config given result notes)
    {results : Nat → HostResult} (hgiven : ∀ (i : Nat) x, given[i]? = some x → x = results i)
    (hlast : result = results given.length) :
    Retry.attempts config.maxRetries.toNat r.isReplayable results = given.length + 1 := by
  have hbudget := h.spends.budget
  have hearlier : ∀ i < given.length, Retry.retryable (results i) = true := by
    intro i hi
    have hget := List.getElem?_eq_getElem hi
    rw [← hgiven i _ hget]
    exact h.spends.retryable _ (List.getElem_mem hi)
  unfold Retry.attempts
  cases hreplay : r.isReplayable with
  | false =>
    have hnil : given = [] := Classical.byContradiction fun hne => by
      have hyes := h.spends.replayable hne
      rw [hreplay] at hyes
      cases hyes
    rw [if_neg Bool.false_ne_true, hnil]
    rfl
  | true =>
    rw [if_pos rfl, Nat.add_right_cancel_iff]
    rcases Nat.lt_or_eq_of_le hbudget with hlt | heq
    · -- Retries are left, so the last result is not worth one.
      have hfinal : Retry.retryable (results given.length) = false := by
        rcases h.stops with hno | hno | hno
        · rw [hreplay] at hno
          cases hno
        · rw [← hlast]
          exact hno
        · omega
      refine (List.findIdx_eq (by simpa using hlt)).mpr ⟨?_, fun j hj => ?_⟩
      · rw [List.getElem_range, hfinal]
        rfl
      · rw [List.getElem_range, hearlier j hj]
        rfl
    · -- The budget is spent, on results each of which was worth another attempt.
      have hnone : ∀ i ∈ List.range config.maxRetries.toNat,
          (!Retry.retryable (results i)) = false := by
        intro i hi
        rw [hearlier i (heq ▸ List.mem_range.mp hi)]
        rfl
      rw [List.findIdx_eq_length.mpr hnone, List.length_range, heq]

end RetryingCall

/-! ### What the story says -/

namespace Retry

variable {e : Endpoint} {r : Request} {results : Nat → HostResult}

/-- Whoever does not look at reports sees the last attempt and its result. -/
theorem filterMap_lastLap {β : Type} {f : Note α → Option β}
    (hf : ∀ event, f (.reported event) = none) (n : Nat) (x : HostResult) :
    (lastLap e r n x).filterMap f = [.issued e r, .answered x].filterMap f := by
  have hreports : ((exhaustion e r.isReplayable n x).map Note.reported).filterMap f = [] := by
    rw [List.filterMap_map, List.filterMap_eq_nil_iff]
    exact fun event _ => hf event
  rw [lastLap, List.filterMap_append, hreports, List.append_nil]

theorem answers_laps (e : Endpoint) (r : Request) (given : List HostResult) :
    (laps e r given : List (Note α)).filterMap Note.answer? = given := by
  have hlap : ∀ (i : Nat) (x : HostResult),
      (lap e r i x : List (Note α)).filterMap Note.answer? = [x] := by
    intro i x
    cases x <;> rfl
  simp only [laps, List.filterMap_flatMap, hlap]
  rw [← List.map_eq_flatMap, List.zipIdx_map_fst]

/-- Each attempt is made with the same request. -/
theorem issues_story (m : Nat) :
    (story e r results (m + 1) : List (Note α)).filterMap Note.issue? =
      List.replicate (m + 1) (e, r) := by
  have hlap : ∀ (i : Nat) (x : HostResult),
      (lap e r i x : List (Note α)).filterMap Note.issue? = [(e, r)] := by
    intro i x
    cases x <;> rfl
  rw [filterMap_story, filterMap_lastLap fun _ => rfl]
  simp only [hlap]
  rw [← List.map_eq_flatMap, List.map_const', List.length_range]
  exact List.replicate_succ'.symm

/-- The attempts have the results that they should have. -/
theorem answers_story (m : Nat) :
    (story e r results (m + 1) : List (Note α)).filterMap Note.answer? =
      (List.range (m + 1)).map results := by
  have hlap : ∀ (i : Nat) (x : HostResult),
      (lap e r i x : List (Note α)).filterMap Note.answer? = [x] := by
    intro i x
    cases x <;> rfl
  rw [filterMap_story, filterMap_lastLap fun _ => rfl]
  simp only [hlap]
  rw [← List.map_eq_flatMap, List.range_succ, List.map_append]
  rfl

/-- Every response but the last is closed, and no other. -/
theorem closes_story (m : Nat) :
    (story e r results (m + 1) : List (Note α)).filterMap Note.close? =
      (List.range m).filterMap fun i => (results i).toOption := by
  have hlap : ∀ (i : Nat) (x : HostResult),
      (lap e r i x : List (Note α)).filterMap Note.close? = x.toOption.toList := by
    intro i x
    cases x <;> rfl
  rw [filterMap_story, filterMap_lastLap fun _ => rfl]
  simp only [hlap]
  rw [← List.filterMap_eq_flatMap_toList]
  exact List.append_nil _

/-- Every attempt but the last is reported as retried, and the exhaustion at the end. -/
theorem events_story (m : Nat) :
    (story e r results (m + 1) : List (Note α)).filterMap Note.event? =
      (List.range m).map (fun i => .retry e.label (i + 1) (label (results i))) ++
        exhaustion e r.isReplayable (m + 1) (results m) := by
  have hlap : ∀ (i : Nat) (x : HostResult),
      (lap e r i x : List (Note α)).filterMap Note.event? =
        [.retry e.label (i + 1) (label x)] := by
    intro i x
    cases x <;> rfl
  have hlast : ∀ events : List (Event α),
      (events.map Note.reported).filterMap Note.event? = events := by
    intro events
    rw [List.filterMap_map]
    exact List.filterMap_some
  rw [filterMap_story, lastLap, List.filterMap_append, hlast]
  simp only [hlap]
  rw [← List.map_eq_flatMap]
  rfl

end Retry

namespace RetryingCall

/-- What a call does that has run to completion, given the results of all attempts that it
might make: the first is `results 0`. -/
structure Contract (config : RetryConfig α) (e : Endpoint) (r : Request)
    (results : Nat → HostResult) (result : HostResult) (n : Nat) (notes : List (Note α)) :
    Prop where
  attempts : n = Retry.attempts config.maxRetries.toNat r.isReplayable results
  /-- Everything that happens, in order. -/
  story : notes = Retry.story e r results n
  issued : notes.filterMap Note.issue? = List.replicate n (e, r)
  answered : notes.filterMap Note.answer? = (List.range n).map results
  /-- The result of the last attempt is returned, and is not closed. -/
  result : result = results (n - 1)
  closed : notes.filterMap Note.close? =
    (List.range (n - 1)).filterMap fun i => (results i).toOption
  reported : notes.filterMap Note.event? =
    (List.range (n - 1)).map (fun i => .retry e.label (i + 1) (Retry.label (results i))) ++
      Retry.exhaustion e r.isReplayable n (results (n - 1))

variable {e : Endpoint} {r : Request} [Scalar α] {d : Dispatcher α γ σ}

/-- Let the results of a call's attempts be the first ones of `results`. If the call runs to
completion, however often it is polled and whatever happens in between, it has made exactly as
many attempts as it should, all with the same request, and returns the result of the last
one as it is. Each earlier response was closed once, before the next attempt was made. One
retry less than attempts is reported, and in the end that retries are exhausted, if that is
so. -/
theorem run_honours_contract {changes : List (σ → σ)} {s : σ} {result : HostResult}
    (hrun : (run d e r changes s).1 = some result) {results : Nat → HostResult}
    (hresults : ∀ (i : Nat) x,
      ((notes d e r changes s).filterMap Note.answer?)[i]? = some x → x = results i) :
    ∃ n, Contract (d.settings (d.submit e r s).2) e r results result n
      (notes d e r changes s) := by
  have hcomes : Comes e r (d.settings (d.submit e r s).2)
      (run d.noted e r (changes.map Noted.onState) ⟨s, []⟩).1
      (run d.noted e r (changes.map Noted.onState) ⟨s, []⟩).2.1
      (run d.noted e r (changes.map Noted.onState) ⟨s, []⟩).2.2.notes :=
    (start_stands d e r s).drive changes
  rw [run_noted] at hcomes
  dsimp only at hcomes
  rw [hrun] at hcomes
  obtain ⟨given, hends⟩ := hcomes
  -- The results that were given up, and the last one, are the first of all results.
  have hanswers : (notes d e r changes s).filterMap Note.answer? = given ++ [result] := by
    rw [hends.notes_eq, List.filterMap_append, Retry.answers_laps,
      Retry.filterMap_lastLap fun _ => rfl]
    rfl
  rw [hanswers] at hresults
  have hgiven : ∀ (i : Nat) x, given[i]? = some x → x = results i := by
    intro i x hget
    obtain ⟨hi, -⟩ := List.getElem?_eq_some_iff.mp hget
    exact hresults i x (by rw [List.getElem?_append_left hi, hget])
  have hlast : result = results given.length := hresults _ _ (by simp)
  have hstory : notes d e r changes s = Retry.story e r results (given.length + 1) := by
    rw [hends.notes_eq, Retry.laps_eq e r hgiven, hlast]
    rfl
  exact
    ⟨given.length + 1,
      { attempts := (hends.attempts hgiven hlast).symm
        story := hstory
        issued := by rw [hstory, Retry.issues_story]
        answered := by rw [hstory, Retry.answers_story]
        result := hlast
        closed := by rw [hstory, Retry.closes_story, Nat.add_sub_cancel]
        reported := by rw [hstory, Retry.events_story, Nat.add_sub_cancel] }⟩

/-- A dispatcher whose attempts have given results, one after the other. -/
def scripted (config : RetryConfig α) : Dispatcher α Unit (List HostResult) where
  submit _ _ s := ((), s)
  poll _ s := (s.head?, (), s.tail)
  drop _ s := s
  settings _ := config
  now _ := 0
  emit _ s := s
  close _ s := s
  draw f s := ((f (.ofSeed 0)).1, s)
  hold s := s
  release s := s

/-- Up to two retries, which follow at once. -/
def prompt : RetryConfig Rat :=
  { RetryConfig.standard with maxRetries := 2, initialBackoff := 0, maxBackoff := 0, jitter := 0 }

/-- A host that is unavailable, cannot be reached, and then asks to be left alone. -/
def troubled : List HostResult :=
  [.ok (Network.response "a" false 503), .error (.connect "a" "refused"),
    .ok (Network.response "a" false 429)]

/-- An endpoint. -/
def list : Endpoint := ⟨"catalog", "list", "1.0", "GET", ⟨[]⟩⟩

theorem troubled_runs : (run (scripted prompt) list (.blank 0) [id] troubled).1 =
    some (.ok (Network.response "a" false 429)) :=
  rfl

theorem troubled_answers : (notes (scripted prompt) list (.blank 0) [id] troubled).filterMap
    Note.answer? = troubled :=
  rfl

theorem run_honours_contract_troubled :
    (run (scripted prompt) list (.blank 0) [id] troubled).1 =
      some (.ok (Network.response "a" false 429)) ∧
    Contract prompt list (.blank 0) (fun i => troubled[i]?.getD (.error .cancelled))
      (.ok (Network.response "a" false 429)) 3
      (notes (scripted prompt) list (.blank 0) [id] troubled) := by
  have hresults : ∀ (i : Nat) x,
      ((notes (scripted prompt) list (.blank 0) [id] troubled).filterMap Note.answer?)[i]? =
        some x → x = troubled[i]?.getD (.error .cancelled) := by
    intro i x hget
    rw [troubled_answers] at hget
    rw [hget]
    rfl
  obtain ⟨n, hcontract⟩ := run_honours_contract troubled_runs hresults
  have hn : n = 3 := hcontract.attempts
  subst hn
  exact ⟨troubled_runs, hcontract⟩

end RetryingCall

end RpcPipeline
