import RpcPipeline.Proofs.Queue.Calls

/-!
# `RpcPipeline.Proofs.Queue.Backend`: what a queue keeps of its backend

`Backend.Obeys` states for one answer of a backend at a time what it keeps, and what a
refusal tells: if it refuses a call, it is full. From this follows for each operation of
a queue what that keeps (`Queue.Goes`), since an operation does nothing to the backend
but offer, poll, drop and report.

The second half of `Goes` is about the moment after an operation. A queue is settled if
the backend is full as long as anything waits. A pass settles the queue, and nothing
that an operation does after its last pass undoes that (`Queue.Steady`).

* `Round.goes`: a pass settles the queue.
* `Submits.goes`, `Polls.goes`, `Drops.goes`, `Fires.goes`: the operations.
-/

set_option autoImplicit false

namespace RpcPipeline

variable {κ σ : Type}

/-- A quiet backend keeps `I` if it is offered only requests with `R`, and it is `Full`
whenever it has refused a call. Reporting and polling a call that has not ended do not
change the latter. -/
structure Backend.Obeys (b : Backend κ σ) (R : Request → Prop) (I Full : σ → Prop) : Prop where
  quiet : b.Quiet
  offer : ∀ e r q s, R r → I s →
    I (b.offer e r q s).2.2 ∧ ((b.offer e r q s).1 = none → Full (b.offer e r q s).2.2)
  poll : ∀ c s, I s →
    I (b.poll c s).2.2 ∧ ((b.poll c s).1 = none → Full s → Full (b.poll c s).2.2)
  drop : ∀ c s, I s → I (b.drop c s)
  report : ∀ n s, I s → I (b.report n s) ∧ (Full s → Full (b.report n s))

namespace Queue

/-- All calls that wait have requests with a property. -/
def Asks (R : Request → Prop) (q : Queue κ) : Prop := ∀ w ∈ q.lanes.waiters, R w.request

/-- As long as anything waits, the backend is full. -/
def Settled (Full : σ → Prop) (q : Queue κ) (s : σ) : Prop := 0 < q.len → Full s

/-- Passes settle the queue, and otherwise it stays settled. -/
structure Steady (Full : σ → Prop) (q : Queue κ) (s : σ) (q' : Queue κ) (s' : σ) : Prop where
  rounds_le : q.rounds ≤ q'.rounds
  passed : q.rounds < q'.rounds → q'.Settled Full s'
  kept : q'.rounds = q.rounds → q.Settled Full s → q'.Settled Full s'

namespace Steady

variable {Full : σ → Prop} {q q' q'' : Queue κ} {s s' s'' : σ}

theorem refl (q : Queue κ) (s : σ) : Steady Full q s q s :=
  ⟨Nat.le_refl _, fun h => absurd h (Nat.lt_irrefl _), fun _ h => h⟩

theorem trans (h : Steady Full q s q' s') (h' : Steady Full q' s' q'' s'') :
    Steady Full q s q'' s'' := by
  refine ⟨Nat.le_trans h.rounds_le h'.rounds_le, fun hlt => ?_, fun heq hq => ?_⟩
  · -- The last pass was either in the second part, or in the first.
    rcases Nat.lt_or_eq_of_le h'.rounds_le with hpassed | hnone
    · exact h'.passed hpassed
    · exact h'.kept hnone.symm (h.passed (by omega))
  · have hle := h.rounds_le
    have hle' := h'.rounds_le
    exact h'.kept (by omega) (h.kept (by omega) hq)

/-- Without a pass, what matters is that the queue stays settled. -/
theorem of_rounds (hr : q'.rounds = q.rounds) (h : q.Settled Full s → q'.Settled Full s') :
    Steady Full q s q' s' :=
  ⟨Nat.le_of_eq hr.symm, fun hlt => by omega, fun _ => h⟩

/-- After a pass, what matters is that it settles the queue. -/
theorem of_settled (hr : q.rounds ≤ q'.rounds) (h : q'.Settled Full s') :
    Steady Full q s q' s' :=
  ⟨hr, fun _ => h, fun _ _ => h⟩

end Steady

/-- What an operation keeps. -/
structure Goes (R : Request → Prop) (I Full : σ → Prop) (q : Queue κ) (s : σ) (q' : Queue κ)
    (s' : σ) : Prop where
  inv : I s'
  asks : q'.Asks R
  steady : Steady Full q s q' s'

variable {b : Backend κ σ} {R : Request → Prop} {I Full : σ → Prop} {q q' : Queue κ} {s s' : σ}
  {live : List (QueuedCall κ)}

theorem settled_of_len (h : q.len = 0) : q.Settled Full s := fun hlen => by omega

/-! ### Passes -/

theorem Serves.goes {fairness : Fairness} {stalled : Bool}
    (h : Serves b fairness q s stalled q' s') (hb : b.Obeys R I Full) (ha : q.Asks R)
    (hs : I s) : I s' ∧ q'.Asks R ∧ (stalled = true → Full s') := by
  -- What is offered next waits, so its request has `R`, and what is left waits as well.
  induction h with
  | done => exact ⟨hs, ha, fun h => by cases h⟩
  | @refused q s s' w rest hpop hoffer =>
    have hwaiters := Lanes.waiters_of_pop hpop
    have hrequest : R w.request := ha w (hwaiters.mem_iff.mpr (by simp))
    have hstep := hb.offer w.endpoint w.request { q with lanes := rest } s hrequest hs
    rw [hoffer] at hstep
    refine ⟨hstep.1, fun v hv => ha v ?_, fun _ => hstep.2 rfl⟩
    rw [hwaiters.mem_iff]
    exact (Lanes.waiters_restore fairness w rest).mem_iff.mp hv
  | @taken q q' s s' s'' w rest call stalled hpop hoffer _ ih =>
    have hwaiters := Lanes.waiters_of_pop hpop
    have hrequest : R w.request := ha w (hwaiters.mem_iff.mpr (by simp))
    have hstep := hb.offer w.endpoint w.request { q with lanes := rest } s hrequest hs
    rw [hoffer] at hstep
    refine ih (fun v hv => ha v ?_) hstep.1
    rw [hwaiters.mem_iff]
    exact List.mem_cons_of_mem _ hv

/-- A pass settles the queue: it leaves calls behind only if one was refused, and
nothing happens to the backend after that. -/
theorem Round.goes (h : Round b q s q' s') (hb : b.Obeys R I Full) (hq : q.Sound live)
    (ha : q.Asks R) (hs : I s) : I s' ∧ q'.Asks R ∧ q'.Settled Full s' := by
  have hsound := h.sound hq
  obtain ⟨stalled, mid, s₁, hserves, rfl, rfl⟩ := h
  obtain ⟨hinv, hasks, hfull⟩ := hserves.goes hb ha hs
  have hreport := hb.report mid.len s₁ hinv
  have hstuck := hserves.stalled_iff hq.beginPass
  rw [endPass_eq] at hsound ⊢
  refine ⟨hreport.1, hasks, fun hlen => hreport.2 (hfull (hstuck.mpr fun hnil => ?_))⟩
  have hzero := hsound.lanes_eq_nil.mp hnil
  exact absurd hlen (by rw [hzero]; exact Nat.lt_irrefl 0)

/-! ### Operations -/

theorem Leaves.goes {call : κ} (h : Leaves b q s q' s') (hb : b.Obeys R I Full)
    (hq : q.Sound (.running call :: live)) (ha : q.Asks R) (hs : I s) :
    I s' ∧ q'.Asks R ∧ q'.Settled Full s' ∧ q.rounds ≤ q'.rounds := by
  cases h with
  | counted _ hround =>
    obtain ⟨hinv, hasks, hsettled⟩ := hround.goes hb hq.release ha hs
    exact ⟨hinv, hasks, hsettled, hround.rounds_le⟩
  | uncounted hdead =>
    exact ⟨hs, ha, settled_of_len (hq.lanes_eq_nil.mp (hq.shut (.inr hdead))), Nat.le_refl _⟩

theorem Submits.goes {e : Endpoint} {r : Request} {c : QueuedCall κ}
    (h : Submits b e r q s c q' s') (hb : b.Obeys R I Full) (hq : q.Sound live)
    (halive : q.alive = true) (ha : q.Asks R) (hr : R r) (hs : I s) :
    Goes R I Full q s q' s' := by
  -- A call is offered directly only as long as nothing waits.
  have hdeclined : ∀ {s₁ : σ}, Declined b e r q s s₁ →
      I s₁ ∧ (q.Settled Full s → q.Settled Full s₁) := by
    rintro s₁ (⟨-, rfl⟩ | ⟨hlen, hoffer⟩)
    · exact ⟨hs, fun h => h⟩
    · have hstep := hb.offer e r q s hr hs
      rw [hoffer] at hstep
      exact ⟨hstep.1, fun _ => settled_of_len hlen⟩
  cases h with
  | closed => exact ⟨hs, ha, .refl q s⟩
  | direct _ hlen hoffer =>
    have hstep := hb.offer e r q s hr hs
    rw [hoffer] at hstep
    -- Nothing waits, so it does not matter whether the backend is full.
    exact ⟨hstep.1, ha, .of_rounds rfl fun _ => settled_of_len hlen⟩
  | full _ hdecl _ =>
    obtain ⟨hinv, hkept⟩ := hdeclined hdecl
    exact ⟨hinv, ha, .of_rounds rfl fun h => hkept h⟩
  | @queued q' s₁ s' hopen hdecl _ hround =>
    obtain ⟨hinv, -⟩ := hdeclined hdecl
    have hasks : (enqueue { q with nextId := q.nextId + 1 } (b.settings s₁).fairness q.nextId
        e r).Asks R := by
      intro v hv
      rcases List.mem_cons.mp ((Lanes.waiters_push _ _ _).mem_iff.mp hv) with rfl | hv
      · exact hr
      · exact ha v hv
    obtain ⟨hinv', hasks', hsettled⟩ := hround.goes hb (hq.enqueue hopen halive _ e r) hasks
      (hb.report (q.len + 1) s₁ hinv).1
    exact ⟨hinv', hasks', .of_settled hround.rounds_le hsettled⟩

theorem Polls.goes {c c' : QueuedCall κ} {result : Option HostResult}
    (h : Polls b c q s result c' q' s') (hb : b.Obeys R I Full) (hq : q.Sound (c :: live))
    (ha : q.Asks R) (hs : I s) : Goes R I Full q s q' s' := by
  induction h generalizing live with
  | @refused e q s => exact ⟨hs, ha, .refl q s⟩
  | @pending call call' q s s' hpoll =>
    have hstep := hb.poll call s hs
    rw [hpoll] at hstep
    exact ⟨hstep.1, ha, .of_rounds rfl fun h hlen => hstep.2 rfl (h hlen)⟩
  | @ended call call' result q q' s s₁ s' hpoll hleaves =>
    have hstep := hb.poll call s hs
    rw [hpoll] at hstep
    obtain ⟨hinv, hasks, hsettled, hle⟩ := hleaves.goes hb hq ha hstep.1
    exact ⟨hinv, hasks, .of_settled hle hsettled⟩
  | @unready id q s => exact ⟨hs, ha, .refl q s⟩
  | @collected id call result c' q q' s s' hslot _ ih =>
    obtain ⟨hinv, hasks, hsteady⟩ := ih (hq.collect hslot) ha hs
    exact ⟨hinv, hasks, hsteady.rounds_le, hsteady.passed, hsteady.kept⟩
  | abandoned => exact ⟨hs, ha, .of_rounds rfl fun h => h⟩

theorem Drops.goes {c : QueuedCall κ} (h : Drops b c q s q' s') (hb : b.Obeys R I Full)
    (hq : q.Sound (c :: live)) (ha : q.Asks R) (hs : I s) : Goes R I Full q s q' s' := by
  induction h generalizing live with
  | @refused e q s => exact ⟨hs, ha, .refl q s⟩
  | @running call q q' s s' hleaves =>
    obtain ⟨hinv, hasks, hsettled, hle⟩ := hleaves.goes hb hq ha (hb.drop call s hs)
    exact ⟨hinv, hasks, .of_settled hle hsettled⟩
  | @withdrawn id q s _ =>
    -- A withdrawal makes no pass. If calls wait after it, calls waited before.
    have hreport := hb.report (q.len - 1) s hs
    refine ⟨hreport.1, fun v hv => ha v ?_, .of_rounds rfl fun h hlen => hreport.2 (h ?_)⟩
    · have hv' : v ∈ (q.lanes.remove id).waiters := hv
      rw [Lanes.waiters_remove] at hv'
      exact (List.mem_filter.mp hv').1
    · have hlen' : 0 < q.len - 1 := hlen
      omega
  | @collected id call q q' s s' hslot _ ih =>
    obtain ⟨hinv, hasks, hsteady⟩ := ih (hq.collect hslot) ha hs
    exact ⟨hinv, hasks, hsteady.rounds_le, hsteady.passed, hsteady.kept⟩
  | abandoned => exact ⟨hs, ha, .of_rounds rfl fun h => h⟩

theorem Fires.goes (h : Fires b q s q' s') (hb : b.Obeys R I Full) (hq : q.Sound live)
    (ha : q.Asks R) (hs : I s) : Goes R I Full q s q' s' := by
  cases h with
  | early => exact ⟨hs, ha, .refl q s⟩
  | spent => exact ⟨hs, ha, .of_rounds rfl fun h => h⟩
  | rung _ _ _ hround =>
    obtain ⟨hinv, hasks, hsettled⟩ := hround.goes hb (hq.ring _) ha hs
    exact ⟨hinv, hasks, .of_settled hround.rounds_le hsettled⟩

theorem close_goes (hb : b.Obeys R I Full) (ha : q.Asks R) (hs : I s) :
    Goes R I Full q s (close b q s).1 (close b q s).2 := by
  by_cases hopen : q.closed = false
  · rw [close_eq hopen]
    exact ⟨(hb.report 0 s hs).1, (fun v hv => by cases hv),
      .of_rounds rfl fun _ => settled_of_len rfl⟩
  · unfold close
    rw [if_pos (by simpa using hopen)]
    exact ⟨hs, ha, .refl q s⟩

theorem die_goes (hs : I s) : Goes R I Full q s q.die s := by
  rw [die_eq]
  exact ⟨hs, (fun v hv => by cases hv), .of_rounds rfl fun _ => settled_of_len rfl⟩

end Queue

end RpcPipeline
