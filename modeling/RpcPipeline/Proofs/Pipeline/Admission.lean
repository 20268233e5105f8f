import RpcPipeline.Proofs.Number.Exact
import RpcPipeline.Proofs.Pipeline.Traffic

/-!
# `RpcPipeline.Proofs.Pipeline.Admission`: which calls go out, and which have to wait

A pipeline must send no call to a host that should not have it, and it should leave no
host idle as long as a call waits for one. This module puts both down for every run of a
pipeline, whatever the callers, the hosts, the clock and the settings do.

* `run_admits`: every call went to a host in use that was not excluded.
* `run_conserves_work`: while calls wait, every host is excluded or busy.
-/

set_option autoImplicit false

namespace RpcPipeline

namespace Traffic

/-! ### One host for two calls -/

/-- Settings with one host, which may be busy with one call. -/
def tight : ClientConfig Rat :=
  { ClientConfig.standard with
    uris := ["https://a.example"], limit := { LimitConfig.standard with initialLimit := 1 } }

/-- Two calls, one after the other. -/
def pair : List (Move Rat) :=
  let endpoint : Endpoint := ⟨"catalog", "list", "1.0", "GET", ⟨[]⟩⟩
  [.execute endpoint (.blank 0), .execute endpoint (.blank 4)]

/-- The first call goes out, and the second one waits. -/
theorem pair_waits : ∃ p, Pipeline.new .start tight none true (.ofSeed 0) = .ok p ∧
    ((start p).run pair).calm = true ∧
    ((start p).run pair).pipeline.config.value.selection.strategy = .balanced ∧
    ((start p).run pair).pipeline.queue.len = 1 ∧
    ((start p).run pair).pipeline.selection.fleet.sent.map Sending.call =
      [("a.example", "catalog.list")] ∧
    ((start p).run pair).pipeline.selection.fleet.refresh.hosts.map Prod.fst = [0] := by
  let shows (x : Traffic Rat) : Bool :=
    x.calm && x.pipeline.config.value.selection.strategy = .balanced &&
      x.pipeline.queue.len = 1 &&
      x.pipeline.selection.fleet.sent.map Sending.call = [("a.example", "catalog.list")] &&
      x.pipeline.selection.fleet.refresh.hosts.map Prod.fst = [0]
  have hruns : (Pipeline.new .start tight none true (.ofSeed 0)).toOption.any
      (fun p => shows ((start p).run pair)) = true := by
    decide +kernel
  rcases hnew : Pipeline.new .start tight none true (.ofSeed 0) with e | p
  · rw [hnew] at hruns
    cases hruns
  · rw [hnew] at hruns
    have hshows : shows ((start p).run pair) = true := hruns
    simp only [shows, Bool.and_eq_true, decide_eq_true_iff, and_assoc] at hshows
    exact ⟨p, rfl, hshows⟩

/-! ### Every run -/

variable {α : Type} [Scalar α]

/-- Calls go only where they should. -/
structure Admits (before : List (String × String)) (x : Traffic α) : Prop where
  /-- The notes about calls that went out leave out none. -/
  complete : x.pipeline.outside.calls =
    x.pipeline.selection.fleet.sent.map Sending.call ++ before
  /-- Each went to a host that there should be and that was not excluded. -/
  admissible : ∀ c ∈ x.pipeline.selection.fleet.sent, c.Admissible
  /-- What a move sends goes out under the settings and with the names of that moment. -/
  next : ∀ m : Move α, ∃ sent,
    (x.step m).pipeline.selection.fleet.sent = sent ++ x.pipeline.selection.fleet.sent ∧
      ∀ c ∈ sent, c.Under x.pipeline.selection

variable {outside : Outside α} {config : ClientConfig α} {resolver : Option Resolver}
  {timed : Bool} {entropy : RandomStream} {p : Pipeline α}

/-- In every run of a pipeline calls go only to hosts that follow from the settings and
names of that moment and that are not excluded at that moment. One offer sends at most one
call, and if it is refused, none, and no host is busier for it. -/
theorem run_admits (hnew : Pipeline.new outside config resolver timed entropy = .ok p)
    (moves : List (Move α)) :
    ((start p).run moves).Admits outside.calls ∧
      ∀ (s : Selection α) (e : Endpoint) (r : Request),
        s.Admits (s.offer e r).1 (s.offer e r).2 := by
  refine ⟨?_, fun s e r => s.offer_admits e r⟩
  -- Requests may ask for anything.
  have hany : ∀ m : Move α, m.Asks fun _ => True := by
    intro m
    cases m <;> trivial
  have hsound : ((start p).run moves).Sound (fun _ => True) outside.calls :=
    (start_sound hnew).run fun m _ => hany m
  exact
    { complete := hsound.selection.calls_eq
      admissible := hsound.selection.admissible
      next := fun m => (hsound.step (hany m)).sent }

theorem run_admits_pair : ∃ p, Pipeline.new .start tight none true (.ofSeed 0) = .ok p ∧
    ((start p).run pair).Admits [] ∧
    ((start p).run pair).pipeline.selection.fleet.sent.length = 1 := by
  obtain ⟨p, hnew, -, -, -, hsent, -⟩ := pair_waits
  refine ⟨p, hnew, (run_admits hnew pair).1, ?_⟩
  have hlength := congrArg List.length hsent
  rw [List.length_map] at hlength
  exact hlength

/-- Let no request ask for a host. Whenever calls wait under balanced selection, and since
the last pass of the queue no time has passed, neither settings nor names were replaced and
nobody has lifted an exclusion by hand, then every host in use is excluded or busy with as
many calls as its limit allows. -/
theorem run_conserves_work (hnew : Pipeline.new outside config resolver timed entropy = .ok p)
    {moves : List (Move α)} (hmoves : ∀ m ∈ moves, m.Asks Request.Unhinted)
    (hcalm : ((start p).run moves).calm = true)
    (hbalanced : ((start p).run moves).pipeline.config.value.selection.strategy = .balanced)
    (hwaits : 0 < ((start p).run moves).pipeline.queue.len) :
    ∀ serial h, (serial, h) ∈ ((start p).run moves).pipeline.selection.fleet.refresh.hosts →
      ((start p).run moves).pipeline.selection.fleet.refresh.excludes h.id = true ∨
        max 1 (Scalar.floor h.limiter.limit) ≤ h.limiter.inFlight := by
  have hsound : ((start p).run moves).Sound Request.Unhinted outside.calls :=
    (start_sound hnew).run hmoves
  generalize (start p).run moves = x at hsound hcalm hbalanced hwaits
  have hfull := hsound.settled hcalm hwaits (fun _ hr => hr) hbalanced
  have hsame : x.pipeline.selection.fleet.refresh = x.pipeline.selection.fleet :=
    Fleet.refresh_of_seen hfull.seen
  rw [hsame]
  intro serial h hmem
  rcases hfull.hosts serial h hmem with hexcluded | hbusy
  · exact .inl hexcluded
  · right
    have hslots : ¬h.limiter.inFlight < h.limiter.slots := of_decide_eq_false hbusy
    exact Nat.le_of_not_lt hslots

theorem run_conserves_work_pair :
    ∃ p, Pipeline.new .start tight none true (.ofSeed 0) = .ok p ∧
      ((start p).run pair).pipeline.queue.len = 1 ∧
      ∃ h, (0, h) ∈ ((start p).run pair).pipeline.selection.fleet.refresh.hosts ∧
        (((start p).run pair).pipeline.selection.fleet.refresh.excludes h.id = true ∨
          max 1 (Scalar.floor h.limiter.limit) ≤ h.limiter.inFlight) := by
  obtain ⟨p, hnew, hcalm, hbalanced, hlen, -, hhosts⟩ := pair_waits
  have hmoves : ∀ m ∈ pair, m.Asks Request.Unhinted := by
    intro m hm
    simp only [pair, List.mem_cons, List.not_mem_nil, or_false] at hm
    rcases hm with rfl | rfl <;> rfl
  have hzero : 0 ∈ ((start p).run pair).pipeline.selection.fleet.refresh.hosts.map Prod.fst := by
    rw [hhosts]
    exact List.mem_singleton.mpr rfl
  obtain ⟨⟨serial, h⟩, hmem, hserial⟩ := List.mem_map.mp hzero
  cases hserial
  refine ⟨p, hnew, hlen, h, hmem, ?_⟩
  exact run_conserves_work hnew hmoves hcalm hbalanced (by rw [hlen]; decide) 0 h hmem

end Traffic

end RpcPipeline
