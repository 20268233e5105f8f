import RpcPipeline.Proofs.Pipeline.Accounts
import RpcPipeline.Proofs.Pipeline.Admission
import RpcPipeline.Proofs.Selection.Custody

/-!
# `RpcPipeline.Proofs.Pipeline.Custody`: no slot leaks

A pipeline counts what is under way in three places. Its queue counts the attempts that
wait and those that were taken, and every server counts those that it has taken. Each
counter is raised in one place and lowered in several: when an attempt ends, when it is
dropped, before or after its caller has collected it, and when it is withdrawn.
`Pipeline.Tallies` says that the counters agree with the attempts that callers hold. All
operations keep that, so an attempt is given back exactly once, whatever becomes of it.

* `tallies_iff`: tallies are accounts, so all that can happen keeps them.
* `Tallies.counts`, `Tallies.covered`: what the counters say, and that whatever is given
  back was counted.
* `Traffic.run_leaks_nothing`: the counters of every run.
-/

set_option autoImplicit false

namespace RpcPipeline

variable {α : Type}

namespace Pipeline

/-- The counters agree with the attempts `live` that have neither ended nor been dropped,
and `n` hold the queue. -/
structure Tallies (n : Nat) (live : List (QueuedCall (SelectedCall α))) (p : Pipeline α) :
    Prop where
  queue : p.queue.Sound live
  idle : p.queue.running = false
  holders : p.holders = n
  alive : p.queue.alive = true ↔ 0 < n
  servers : Selection.Balances (Queue.taken p.queue.slots live) p.selection

variable {p : Pipeline α} {n : Nat} {live : List (QueuedCall (SelectedCall α))}

/-! ### Counters -/

/-- What the counters say, if `live` are the attempts that have neither ended nor been
dropped. -/
structure Counts (live : List (QueuedCall (SelectedCall α))) (p : Pipeline α) : Prop where
  /-- The queue counts the attempts that were taken, as long as it is there. -/
  inFlight : p.queue.alive = true →
    p.queue.inFlight = (Queue.taken p.queue.slots live).length
  /-- Every server that was ever set up counts those that it has taken. -/
  limiters : ∀ (serial : Nat) (h : Server α), p.selection.fleet.servers[serial]? = some h →
    h.limiter.inFlight = Selection.share serial (Queue.taken p.queue.slots live)
  len : p.queue.len = live.countP (QueuedCall.isWaiting p.queue.slots)

/-- Whatever may be given back was counted, so no counter is lowered that is zero. -/
structure Covered (live : List (QueuedCall (SelectedCall α))) (p : Pipeline α) : Prop where
  /-- The queue counts an attempt that can end or be dropped, and so does its server. -/
  taken : ∀ c ∈ Queue.taken p.queue.slots live, (p.queue.alive = true → 0 < p.queue.inFlight) ∧
    ∀ serial, c.serial? = some serial →
      ∃ h : Server α, p.selection.fleet.servers[serial]? = some h ∧ 0 < h.limiter.inFlight
  /-- An attempt that can be withdrawn is counted. -/
  waiting : ∀ c ∈ live, QueuedCall.isWaiting p.queue.slots c = true → 0 < p.queue.len
  /-- A pass can take no more attempts out of the lanes than are counted. -/
  lanes : p.queue.lanes.count = p.queue.len

theorem Tallies.counts (h : p.Tallies n live) : p.Counts live where
  inFlight := h.queue.length_taken
  limiters serial server hget := by
    rw [← h.servers serial, Fleet.load_of_getElem? hget]
  len := h.queue.len_eq_countP

theorem Tallies.covered (h : p.Tallies n live) : p.Covered live where
  taken c hc := by
    refine ⟨fun halive => ?_, fun serial hserial => ?_⟩
    · rw [h.counts.inFlight halive]
      exact List.length_pos_of_mem hc
    · have hpos := h.servers.load_pos hc hserial
      cases hget : p.selection.fleet.servers[serial]? with
      | none => simp [Fleet.load, hget] at hpos
      | some server =>
        rw [Fleet.load_of_getElem? hget] at hpos
        exact ⟨server, rfl, hpos⟩
  waiting c hc hwaiting := by
    rw [h.counts.len]
    exact List.countP_pos_iff.mpr ⟨c, hc, hwaiting⟩
  lanes := h.queue.len_eq.symm

/-! ### Tallies are accounts -/

theorem tallies_iff : p.Tallies n live ↔ p.Accounts Selection.Balances n live := by
  constructor
  · intro h
    exact ⟨h.queue, h.idle, h.holders, h.alive, h.servers⟩
  · intro h
    exact ⟨h.queue, h.idle, h.holders, h.alive, h.stand⟩

/-- What retry does to the queue keeps the tallies, between any two attempts and within
each of them. -/
theorem dispatcher_tallies [Scalar α] :
    Dispatcher.Keeps dispatcher (fun _ => True)
      fun n live (p : Pipeline α) => p.Tallies n live := by
  simp only [tallies_iff]
  exact dispatcher_accounts Selection.balances_lasts

end Pipeline

namespace PipelineCall

variable (slots : Table Nat (Slot (SelectedCall α)))

/-- The attempt of a call that was taken and has not ended, as the slots show. -/
def taken? (c : PipelineCall α) : Option (SelectedCall α) :=
  match c.call.phase with
  | .attempting a => a.taken? slots
  | .pausing _ => none

/-- Whether the attempt of a call waits, as the slots show. -/
def waits (c : PipelineCall α) : Bool :=
  match c.call.phase with
  | .attempting a => a.isWaiting slots
  | .pausing _ => false

theorem countP_attempts (c : PipelineCall α) :
    c.call.attempts.countP (QueuedCall.isWaiting slots) = (c.waits slots).toNat := by
  unfold RetryingCall.attempts waits
  cases c.call.phase with
  | attempting a =>
    show [a].countP (QueuedCall.isWaiting slots) = (a.isWaiting slots).toNat
    rw [List.countP_singleton]
    cases a.isWaiting slots <;> rfl
  | pausing _ => rfl

end PipelineCall

namespace Traffic

open Pipeline

variable {before : List (String × String)} {x : Traffic α}

/-! ### Callers -/

/-- The calls that were dispatched and have neither ended nor been dropped. -/
def dispatched (x : Traffic α) : List (SelectedCall α) :=
  x.calls.filterMap fun c => c.bind (·.taken? x.pipeline.queue.slots)

/-- The number of callers whose attempts wait. -/
def waiting (x : Traffic α) : Nat :=
  x.calls.countP fun c => c.any (·.waits x.pipeline.queue.slots)

/-- A call makes at most one attempt at a time. -/
theorem taken_held (slots : Table Nat (Slot (SelectedCall α)))
    (calls : List (Option (PipelineCall α))) :
    Queue.taken slots (held calls) = calls.filterMap fun c => c.bind (·.taken? slots) := by
  rw [Queue.taken, held, List.filterMap_flatMap, List.filterMap_eq_flatMap_toList]
  refine List.flatMap_congr fun c _ => ?_
  cases c with
  | none => rfl
  | some c =>
    simp only [Option.map_some, Option.getD_some, Option.bind_some, RetryingCall.attempts,
      PipelineCall.taken?]
    cases c.call.phase with
    | attempting a => cases h : a.taken? slots <;> simp [h]
    | pausing _ => rfl

theorem countP_held (slots : Table Nat (Slot (SelectedCall α)))
    (calls : List (Option (PipelineCall α))) :
    (held calls).countP (QueuedCall.isWaiting slots) =
      calls.countP fun c => c.any (·.waits slots) := by
  induction calls with
  | nil => rfl
  | cons c calls ih =>
    have hcons : held (c :: calls) =
        ((c.map fun c => c.call.attempts).getD []) ++ held calls := rfl
    rw [hcons, List.countP_append, List.countP_cons, ih, Nat.add_comm]
    congr 1
    cases c with
    | none => rfl
    | some c =>
      rw [Option.map_some, Option.getD_some, PipelineCall.countP_attempts, Option.any_some]
      cases c.waits slots <;> rfl

/-! ### Every run -/

/-- The counters agree with the attempts that callers hold. -/
def Tallied (x : Traffic α) : Prop := x.pipeline.Tallies x.pipeline.holders (held x.calls)

theorem tallied_iff : x.Tallied ↔ x.Accounted Selection.Balances := tallies_iff

variable [Scalar α] {outside : Outside α} {config : ClientConfig α} {resolver : Option Resolver}
  {timed : Bool} {entropy : RandomStream} {p : Pipeline α}

theorem start_tallied (h : Pipeline.new outside config resolver timed entropy = .ok p) :
    (start p).Tallied := by
  refine tallied_iff.mpr (start_accounted h fun serial => ?_)
  unfold Pipeline.new at h
  split at h
  · cases h
  · cases h
    -- No server was set up yet.
    rfl

theorem run_tallied (h : x.Tallied) (hs : x.Sound (fun _ => True) before)
    (moves : List (Move α)) :
    (x.run moves).Tallied ∧ (x.run moves).Sound (fun _ => True) before := by
  rw [tallied_iff] at h ⊢
  exact run_accounted Selection.balances_lasts h hs moves

/-- All counters agree with what callers hold, and once they hold nothing, all counters are
zero. -/
structure LeaksNothing (x : Traffic α) : Prop where
  tallies : x.pipeline.Tallies x.pipeline.holders (held x.calls)
  /-- The queue is there until the pipeline was let go and no caller holds a call. -/
  alive : x.pipeline.queue.alive = true ↔ x.pipeline.gone = false ∨ ∃ c, some c ∈ x.calls
  inFlight : x.pipeline.queue.alive = true → x.pipeline.queue.inFlight = x.dispatched.length
  /-- Servers that have left the fleet are among those that were ever set up. -/
  limiters : ∀ (serial : Nat) (h : Server α), x.pipeline.selection.fleet.servers[serial]? = some h →
    h.limiter.inFlight = Selection.share serial x.dispatched
  len : x.pipeline.queue.len = x.waiting
  drained : (∀ c ∈ x.calls, c = none) → x.pipeline.queue.len = 0 ∧
    (x.pipeline.gone = false → x.pipeline.queue.inFlight = 0) ∧
    ∀ (serial : Nat) (h : Server α), x.pipeline.selection.fleet.servers[serial]? = some h →
      h.limiter.inFlight = 0

omit [Scalar α] in
theorem Tallied.leaksNothing (h : x.Tallied)
    (halive : x.pipeline.queue.alive = true ↔
      x.pipeline.gone = false ∨ ∃ c, some c ∈ x.calls) : x.LeaksNothing := by
  have hcounts := h.counts
  refine ⟨h, halive, ?_, ?_, ?_, fun hnone => ?_⟩
  · rw [dispatched, ← taken_held]
    exact hcounts.inFlight
  · rw [dispatched, ← taken_held]
    exact hcounts.limiters
  · rw [waiting, ← countP_held]
    exact hcounts.len
  · -- Callers that hold nothing make no attempts.
    have hheld : held x.calls = [] := by
      rw [held, List.flatMap_eq_nil_iff]
      intro c hc
      rw [hnone c hc]
      rfl
    rw [hheld] at hcounts
    exact ⟨hcounts.len, fun hgone => hcounts.inFlight (halive.mpr (.inl hgone)),
      hcounts.limiters⟩

/-- In every run of a pipeline, between any two moves, the queue and every server that was
ever set up count exactly the calls that they have taken and that callers still hold, and the
queue is as long as there are calls that wait. Once callers hold nothing, all of these are
zero. The same holds within the moves of callers, between any two things that a call does to
the queue. Whatever may be given back was counted before, so no counter is ever lowered that
is zero. A queue that nobody holds is not there, and counts nothing. -/
theorem run_leaks_nothing (hnew : Pipeline.new outside config resolver timed entropy = .ok p)
    (moves : List (Move α)) :
    ((start p).run moves).LeaksNothing ∧
      Dispatcher.Keeps dispatcher (fun _ => True)
        (fun n live (p : Pipeline α) => p.Tallies n live) ∧
      ∀ n live (p : Pipeline α), p.Tallies n live → p.Counts live ∧ p.Covered live := by
  refine ⟨?_, dispatcher_tallies, fun n live p h => ⟨h.counts, h.covered⟩⟩
  obtain ⟨htallies, hsound⟩ := run_tallied (start_tallied hnew) (start_sound hnew) moves
  generalize (start p).run moves = x at htallies hsound
  have hcallers : 0 < x.calls.countP Option.isSome ↔ ∃ c, some c ∈ x.calls := by
    rw [List.countP_pos_iff]
    constructor
    · rintro ⟨_ | c, hc, hsome⟩
      · cases hsome
      · exact ⟨c, hc⟩
    · exact fun ⟨c, hc⟩ => ⟨some c, hc, rfl⟩
  refine htallies.leaksNothing ?_
  rw [hsound.alive, hsound.holders, ← hcallers]
  cases x.pipeline.gone <;> simp

/-- Two calls, of which one goes out and the other waits, until their callers drop them.
Neither was ever polled. -/
def pairDropped : List (Move Rat) := pair ++ [.drop 0, .drop 1]

theorem pair_counted : ∃ p, Pipeline.new .start tight none true (.ofSeed 0) = .ok p ∧
    ((start p).run pair).pipeline.queue.inFlight = 1 ∧
    ((start p).run pair).pipeline.selection.fleet.servers.toList.map
      (fun h => h.limiter.inFlight) = [1] ∧
    ((start p).run pairDropped).pipeline.gone = false ∧
    (((start p).run pairDropped).calls.all Option.isNone) = true := by
  let shows (x y : Traffic Rat) : Bool :=
    x.pipeline.queue.inFlight = 1 &&
      x.pipeline.selection.fleet.servers.toList.map (fun h => h.limiter.inFlight) = [1] &&
      y.pipeline.gone = false && y.calls.all Option.isNone
  have hruns : (Pipeline.new .start tight none true (.ofSeed 0)).toOption.any
      (fun p => shows ((start p).run pair) ((start p).run pairDropped)) = true := by
    decide +kernel
  rcases hnew : Pipeline.new .start tight none true (.ofSeed 0) with e | p
  · rw [hnew] at hruns
    cases hruns
  · rw [hnew] at hruns
    have hshows : shows ((start p).run pair) ((start p).run pairDropped) = true := hruns
    simp only [shows, Bool.and_eq_true, decide_eq_true_iff, and_assoc] at hshows
    exact ⟨p, rfl, hshows⟩

theorem run_leaks_nothing_pair :
    ∃ p, Pipeline.new .start tight none true (.ofSeed 0) = .ok p ∧
      ((start p).run pair).LeaksNothing ∧
      ((start p).run pair).pipeline.queue.inFlight = 1 ∧
      ((start p).run pair).pipeline.selection.fleet.servers.toList.map
        (fun h => h.limiter.inFlight) = [1] ∧
      ((start p).run pairDropped).pipeline.queue.inFlight = 0 ∧
      ((start p).run pairDropped).pipeline.queue.len = 0 ∧
      ∀ (serial : Nat) (h : Server Rat),
        ((start p).run pairDropped).pipeline.selection.fleet.servers[serial]? = some h →
          h.limiter.inFlight = 0 := by
  obtain ⟨p, hnew, hflight, hlimiter, hgone, hnone⟩ := pair_counted
  obtain ⟨hlen, hzero, hlimiters⟩ := (run_leaks_nothing hnew pairDropped).1.drained fun c hc =>
    Option.isNone_iff_eq_none.mp (List.all_eq_true.mp hnone c hc)
  exact ⟨p, hnew, (run_leaks_nothing hnew pair).1, hflight, hlimiter, hzero hgone, hlen,
    hlimiters⟩

end Traffic

end RpcPipeline
