import RpcPipeline.Proofs.Retry.Contract

/-!
# `RpcPipeline.Proofs.Retry.Labels`: the numbers under which retries are reported

A retry is reported between two attempts, and the number that is reported with it could be
that of either. It is that of the attempt that was made: `Note.Labelled` reads the notes of a
call from the left, counts the attempts, and compares the count with every number that is
reported. The first retry is therefore reported under one, although the attempt about to run
is the second.

The notes of a call are known from `Proofs/Retry/Contract`, wherever the call stands and
however it ends, so there is no further induction on its steps here.

* `Note.Labelled`: every retry is reported under the number of attempts made before it.
* `run_labels`: the numbers of a call, whether it has ended or not.
-/

set_option autoImplicit false

namespace RpcPipeline

variable {α γ σ : Type}

namespace Note

/-- The number under which a retry was reported. -/
def retried? : Note α → Option Nat
  | reported (.retry _ attempt _) => some attempt
  | _ => none

/-- The number of attempts that was reported when no retries were left. -/
def exhausted? : Note α → Option Nat
  | reported (.exhausted _ attempts _) => some attempts
  | _ => none

/-- How many attempts were made. -/
def attempts (notes : List (Note α)) : Nat := (notes.filterMap issue?).length

/-- Every retry is reported under the number of attempts made before it, of which there were
`n` before the first note. -/
def Labelled : Nat → List (Note α) → Prop
  | _, [] => True
  | n, issued _ _ :: rest => Labelled (n + 1) rest
  | n, reported (.retry _ attempt _) :: rest => attempt = n ∧ Labelled n rest
  | n, _ :: rest => Labelled n rest

theorem attempts_append (xs ys : List (Note α)) :
    attempts (xs ++ ys) = attempts xs + attempts ys := by
  simp [attempts]

theorem Labelled.append {xs ys : List (Note α)} {n : Nat} (hxs : Labelled n xs)
    (hys : Labelled (n + attempts xs) ys) : Labelled n (xs ++ ys) := by
  induction xs generalizing n with
  | nil => exact hys
  | cons x xs ih =>
    cases x with
    | issued e r =>
      have hcount : attempts (issued e r :: xs : List (Note α)) = attempts xs + 1 := rfl
      refine ih hxs ?_
      rw [hcount] at hys
      rwa [show n + 1 + attempts xs = n + (attempts xs + 1) by omega]
    | answered _ => exact ih hxs hys
    | closed _ => exact ih hxs hys
    | reported event =>
      cases event with
      | retry _ _ _ => exact ⟨hxs.1, ih hxs.2 hys⟩
      | _ => exact ih hxs hys

end Note

namespace Retry

variable {e : Endpoint} {r : Request}

/-! ### The numbers in a story -/

theorem attempts_lap (i : Nat) (x : HostResult) :
    Note.attempts (lap e r i x : List (Note α)) = 1 := by
  cases x <;> rfl

theorem attempts_laps (given : List HostResult) :
    Note.attempts (laps e r given : List (Note α)) = given.length := by
  induction given using List.reverseRecOn with
  | nil => rfl
  | append_singleton given x ih =>
    rw [laps_concat, Note.attempts_append, ih, attempts_lap, List.length_append]
    rfl

/-- Laps are reported as one, two, and so on. -/
theorem retried_laps (given : List HostResult) :
    (laps e r given : List (Note α)).filterMap Note.retried? = List.range' 1 given.length := by
  induction given using List.reverseRecOn with
  | nil => rfl
  | append_singleton given x ih =>
    have hlap : (lap e r given.length x : List (Note α)).filterMap Note.retried? =
        [given.length + 1] := by
      cases x <;> rfl
    rw [laps_concat, List.filterMap_append, ih, hlap, List.length_append, List.length_singleton,
      List.range'_concat]
    simp [Nat.add_comm]

theorem labelled_laps (given : List HostResult) :
    Note.Labelled 0 (laps e r given : List (Note α)) := by
  induction given using List.reverseRecOn with
  | nil => trivial
  | append_singleton given x ih =>
    rw [laps_concat]
    refine ih.append ?_
    rw [attempts_laps, Nat.zero_add]
    cases x with
    | ok _ => exact ⟨rfl, trivial⟩
    | error _ => exact ⟨rfl, trivial⟩

/-- No lap ends a call. -/
theorem exhausted_laps (given : List HostResult) :
    (laps e r given : List (Note α)).filterMap Note.exhausted? = [] := by
  induction given using List.reverseRecOn with
  | nil => rfl
  | append_singleton given x ih =>
    rw [laps_concat, List.filterMap_append, ih]
    cases x <;> rfl

/-- At the end either nothing is reported, or that no retries are left. -/
theorem exhaustion_cases (replayable : Bool) (n : Nat) (x : HostResult) :
    (exhaustion e replayable n x : List (Event α)) = [] ∨
      (exhaustion e replayable n x : List (Event α)) = [.exhausted e.label n (label x)] := by
  unfold exhaustion
  split
  · exact .inr rfl
  · exact .inl rfl

end Retry

/-! ### The numbers of a call -/

namespace RetryingCall

/-- The numbers under which the retries of a call are reported, and the number of attempts
that is reported at its end. -/
structure Labels (finished : Bool) (notes : List (Note α)) : Prop where
  /-- Each retry is reported under the number of attempts made so far. -/
  labelled : Note.Labelled 0 notes
  /-- The retries are reported as one, two, and so on: all attempts but the last, which has
  not ended or is not retried, or all of them while the call pauses. -/
  retries : ∃ m, notes.filterMap Note.retried? = List.range' 1 m ∧
    m ≤ Note.attempts notes ∧ Note.attempts notes ≤ m + 1
  /-- A call of `n` attempts reports `n - 1` retries, and `n` if no retries were left. -/
  ended : finished = true →
    notes.filterMap Note.retried? = List.range' 1 (Note.attempts notes - 1) ∧
      (notes.filterMap Note.exhausted? = [] ∨
        notes.filterMap Note.exhausted? = [Note.attempts notes])
  /-- That no retries are left is reported only at the end. -/
  underWay : finished = false → notes.filterMap Note.exhausted? = []

variable {e : Endpoint} {r : Request} {config : RetryConfig α} {given : List HostResult}
  {c : RetryingCall α γ} {ns : List (Note α)}

theorem Stands.labels (h : Stands e r config given c ns) : Labels false ns := by
  cases hphase : c.phase with
  | attempting a =>
    obtain ⟨-, hnotes⟩ := h.attempting hphase
    subst hnotes
    have hattempts : Note.attempts (Retry.laps e r given ++ [.issued e r] : List (Note α)) =
        given.length + 1 := by
      rw [Note.attempts_append, Retry.attempts_laps]
      rfl
    have hretried : (Retry.laps e r given ++ [.issued e r] : List (Note α)).filterMap
        Note.retried? = List.range' 1 given.length := by
      rw [List.filterMap_append, Retry.retried_laps]
      exact List.append_nil _
    refine ⟨(Retry.labelled_laps given).append trivial, ⟨given.length, hretried, ?_, ?_⟩,
      fun hfinished => (by cases hfinished), fun _ => ?_⟩
    · omega
    · omega
    · rw [List.filterMap_append, Retry.exhausted_laps]
      rfl
  | pausing alarm =>
    obtain ⟨-, hnotes⟩ := h.pausing hphase
    subst hnotes
    have hattempts := Retry.attempts_laps (α := α) (e := e) (r := r) given
    refine ⟨Retry.labelled_laps given, ⟨given.length, Retry.retried_laps given, ?_, ?_⟩,
      fun hfinished => (by cases hfinished), fun _ => Retry.exhausted_laps given⟩
    · omega
    · omega

theorem Ends.labels {result : HostResult} (h : Ends e r config given result ns) :
    Labels true ns := by
  have hnotes := h.notes_eq
  subst hnotes
  -- The last attempt is no retry; what may follow it is the number of all attempts.
  have hlast : ∀ n, Note.attempts (Retry.lastLap e r n result : List (Note α)) = 1 ∧
      (Retry.lastLap e r n result : List (Note α)).filterMap Note.retried? = [] ∧
      ((Retry.lastLap e r n result : List (Note α)).filterMap Note.exhausted? = [] ∨
        (Retry.lastLap e r n result : List (Note α)).filterMap Note.exhausted? = [n]) ∧
      ∀ k, Note.Labelled k (Retry.lastLap e r n result : List (Note α)) := by
    intro n
    unfold Retry.lastLap
    rcases Retry.exhaustion_cases (α := α) (e := e) r.isReplayable n result with hnone | hsome
    · rw [hnone]
      exact ⟨rfl, rfl, .inl rfl, fun k => trivial⟩
    · rw [hsome]
      exact ⟨rfl, rfl, .inr rfl, fun k => trivial⟩
  obtain ⟨hone, hretried, hexhausted, hlabelled⟩ := hlast (given.length + 1)
  have hattempts : Note.attempts (Retry.laps e r given ++
      Retry.lastLap e r (given.length + 1) result : List (Note α)) = given.length + 1 := by
    rw [Note.attempts_append, Retry.attempts_laps, hone]
  have hretries : (Retry.laps e r given ++
      Retry.lastLap e r (given.length + 1) result : List (Note α)).filterMap Note.retried? =
        List.range' 1 given.length := by
    rw [List.filterMap_append, Retry.retried_laps, hretried, List.append_nil]
  refine ⟨(Retry.labelled_laps given).append (hlabelled _), ⟨given.length, hretries, ?_, ?_⟩,
    fun _ => ⟨?_, ?_⟩, fun hfinished => (by cases hfinished)⟩
  · omega
  · omega
  · rw [hattempts, Nat.add_sub_cancel]
    exact hretries
  · rw [hattempts, List.filterMap_append, Retry.exhausted_laps, List.nil_append]
    exact hexhausted

variable [Scalar α]

/-- However often a call is polled and whatever happens in between, its first retry is reported
under one, the second under two, and so on: each under the number of attempts made so far. A
call that ends after `n` attempts has reported one to `n - 1`, and `n` if it reports that no
retries are left. -/
theorem run_labels (d : Dispatcher α γ σ) (e : Endpoint) (r : Request)
    (changes : List (σ → σ)) (s : σ) :
    Labels (run d e r changes s).1.isSome (notes d e r changes s) := by
  have hcomes : Comes e r (d.settings (d.submit e r s).2)
      (run d.noted e r (changes.map Noted.onState) ⟨s, []⟩).1
      (run d.noted e r (changes.map Noted.onState) ⟨s, []⟩).2.1
      (run d.noted e r (changes.map Noted.onState) ⟨s, []⟩).2.2.notes :=
    (start_stands d e r s).drive changes
  rw [run_noted] at hcomes
  dsimp only at hcomes
  cases hanswer : (run d e r changes s).1 with
  | none =>
    rw [hanswer] at hcomes
    obtain ⟨given, hstands⟩ := hcomes
    exact hstands.labels
  | some result =>
    rw [hanswer] at hcomes
    obtain ⟨given, hends⟩ := hcomes
    exact hends.labels

/-- The retries of a call are not reported under the number of the attempt about to run, which
is two for the first of them. -/
theorem retries_not_labelled_ahead :
    ¬∀ (k label : Nat),
      ((notes (scripted prompt) list (.blank 0) [id] troubled).filterMap Note.retried?)[k]? =
        some label → label = k + 2 := by
  intro h
  have hfirst : ((notes (scripted prompt) list (.blank 0) [id] troubled).filterMap
      Note.retried?)[0]? = some 1 := rfl
  exact absurd (h 0 1 hfirst) (by decide)

end RetryingCall

end RpcPipeline
