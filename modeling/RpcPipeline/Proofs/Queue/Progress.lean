import RpcPipeline.Proofs.Queue.Conservation

/-!
# `RpcPipeline.Proofs.Queue.Progress`: no call is stranded

A waiting call needs another pass sooner or later. There is one whenever a call that was
taken ends or is dropped, and whenever the timer goes off. `Queue.Wakeful` says that one
of these is still to come as long as anything waits, and that the timer counts as set
exactly as long as one is outstanding.

A pass establishes this, whatever was before: it leaves calls behind only if it got
stuck, and then it sees to the timer if nothing is under way. All other operations have
to keep it. They never put a call into a lane without a pass, and they never end a call
under way without one.

* `Round.wakeful`: a pass establishes it.
* `step_wakeful`, `run_wakeful`: every move keeps it.
* `run_progress`: in every run, a pass is still to come as long as anything waits.
-/

set_option autoImplicit false

namespace RpcPipeline

variable {κ σ : Type}

namespace Queue

/-- The timer counts as set exactly as long as there is one, and there is never more
than one. -/
def TimerKnown (q : Queue κ) : Prop :=
  q.armed = true ∧ (∃ a, q.timers = [a]) ∨ q.armed = false ∧ q.timers = []

/-- As long as anything waits, something is still to come that makes a pass. -/
structure Wakeful (q : Queue κ) : Prop where
  timed : q.timed = true
  known : q.TimerKnown
  pending : q.lanes ≠ [] → 0 < q.inFlight ∨ q.armed = true

variable {b : Backend κ σ} {q q' : Queue κ} {s s' : σ} {live : List (QueuedCall κ)}

theorem new_wakeful : (Queue.new true : Queue κ).Wakeful :=
  ⟨rfl, .inr ⟨rfl, rfl⟩, fun h => absurd rfl h⟩

/-- Setting the timer makes it count as set, and there is still only one. -/
theorem arm_known (h : q.TimerKnown) (ht : q.timed = true) (now : Instant) (delay : Nanos) :
    (q.arm now delay).TimerKnown ∧ (q.arm now delay).armed = true := by
  unfold arm
  rcases h with ⟨ha, a, htimers⟩ | ⟨ha, htimers⟩
  · rw [if_pos (by simp [ha])]
    exact ⟨.inl ⟨ha, a, htimers⟩, ha⟩
  · rw [if_neg (by simp [ha, ht])]
    exact ⟨.inl ⟨rfl, .after now delay, by rw [htimers]; rfl⟩, rfl⟩

/-- A timer that is set stays as it is. -/
theorem arm_timers {a : Alarm} (h : q.TimerKnown) (ha : q.timers = [a]) (now : Instant)
    (delay : Nanos) : (q.arm now delay).timers = [a] := by
  unfold arm
  rcases h with ⟨harmed, -⟩ | ⟨-, hnone⟩
  · rw [if_pos (by simp [harmed])]
    exact ha
  · rw [hnone] at ha
    cases ha

/-- It is time for a timer exactly if it is for the only one. -/
theorem isDue_of_timers {a : Alarm} (ha : q.timers = [a]) (now : Instant) :
    q.isDue now = a.isDue now := by
  simp [isDue, ha]

/-- When the only timer goes off, there is none any more. -/
theorem ring_of_timers {a : Alarm} (ha : q.timers = [a]) {now : Instant}
    (hdue : a.isDue now = true) : q.ring now = { q with armed := false, timers := [] } := by
  simp [ring, ha, hdue]

theorem ring_known (h : q.TimerKnown) {now : Instant} (hdue : q.isDue now = true) :
    (q.ring now).TimerKnown := by
  rcases h with ⟨-, a, ha⟩ | ⟨-, hnone⟩
  · rw [isDue_of_timers ha] at hdue
    rw [ring_of_timers ha hdue]
    exact .inr ⟨rfl, rfl⟩
  · rw [isDue, hnone] at hdue
    cases hdue

/-- Offering calls does not concern the timer. -/
theorem Serves.known {fairness : Fairness} {stalled : Bool}
    (h : Serves b fairness q s stalled q' s') :
    q'.armed = q.armed ∧ q'.timers = q.timers ∧ q'.timed = q.timed := by
  rw [h.eq_update]
  exact ⟨rfl, rfl, rfl⟩

/-- A pass establishes that another one is still to come, if it leaves calls behind. -/
theorem Round.wakeful (h : Round b q s q' s') (hq : q.Sound live) (ht : q.timed = true)
    (hk : q.TimerKnown) : q'.Wakeful := by
  obtain ⟨stalled, mid, s₁, hserves, -, rfl⟩ := h
  obtain ⟨harmed, htimers, htimed⟩ := hserves.known
  have hmid : mid.TimerKnown := by
    unfold TimerKnown
    rw [harmed, htimers]
    exact hk
  have hmidt : mid.timed = true := htimed.trans ht
  -- A pass that leaves calls behind got stuck, and then the timer is set unless a call
  -- is under way.
  have hstuck := hserves.stalled_iff hq.beginPass
  unfold endPass
  split
  · obtain ⟨hknown, hset⟩ := arm_known hmid hmidt (b.now s') (b.settings s').stallRetryDelay
    refine ⟨?_, hknown, fun _ => .inr hset⟩
    show (mid.arm _ _).timed = true
    rw [arm_eq]
    exact hmidt
  · next hcond =>
    refine ⟨hmidt, hmid, fun hlanes => .inl ?_⟩
    have hstalled : stalled = true := hstuck.mpr hlanes
    have hne : mid.inFlight ≠ 0 := by simpa [hstalled] using hcond
    exact Nat.pos_of_ne_zero hne

/-- A pass does not touch a timer that is set. -/
theorem Round.timers (h : Round b q s q' s') {a : Alarm} (hk : q.TimerKnown)
    (ha : q.timers = [a]) : q'.timers = [a] := by
  obtain ⟨stalled, mid, s₁, hserves, -, rfl⟩ := h
  obtain ⟨harmed, htimers, -⟩ := hserves.known
  have hmid : mid.TimerKnown := by
    unfold TimerKnown
    rw [harmed, htimers]
    exact hk
  have hmida : mid.timers = [a] := htimers.trans ha
  unfold endPass
  split
  · exact arm_timers hmid hmida _ _
  · exact hmida

/-! ### The life of a call -/

theorem Leaves.wakeful {call : κ} (h : Leaves b q s q' s')
    (hq : q.Sound (.running call :: live)) (ht : q.timed = true) (hk : q.TimerKnown) :
    q'.Wakeful := by
  cases h with
  | counted _ hround => exact hround.wakeful hq.release ht hk
  | uncounted hdead => exact ⟨ht, hk, fun hlanes => absurd (hq.shut (.inr hdead)) hlanes⟩

theorem Polls.wakeful {c c' : QueuedCall κ} {result : Option HostResult}
    (h : Polls b c q s result c' q' s') (hq : q.Sound (c :: live)) (hw : q.Wakeful) :
    q'.Wakeful := by
  induction h generalizing live with
  | refused => exact hw
  | pending => exact hw
  | ended _ hleaves => exact hleaves.wakeful hq hw.timed hw.known
  | unready => exact hw
  | collected hslot _ ih => exact ih (hq.collect hslot) ⟨hw.timed, hw.known, hw.pending⟩
  | abandoned => exact ⟨hw.timed, hw.known, hw.pending⟩

theorem Drops.wakeful {c : QueuedCall κ} (h : Drops b c q s q' s') (hq : q.Sound (c :: live))
    (hw : q.Wakeful) : q'.Wakeful := by
  induction h generalizing live with
  | refused => exact hw
  | running hleaves => exact hleaves.wakeful hq hw.timed hw.known
  | @withdrawn id q s hslot =>
    -- Withdrawing a call makes no pass. If others wait, what they wait for is still to come.
    refine ⟨hw.timed, hw.known, fun hlanes => hw.pending ?_⟩
    rintro hnil
    rw [hnil] at hlanes
    exact hlanes rfl
  | collected hslot _ ih => exact ih (hq.collect hslot) ⟨hw.timed, hw.known, hw.pending⟩
  | abandoned => exact ⟨hw.timed, hw.known, hw.pending⟩

theorem Submits.wakeful {e : Endpoint} {r : Request} {c : QueuedCall κ}
    (h : Submits b e r q s c q' s') (hq : q.Sound live) (ha : q.alive = true)
    (hw : q.Wakeful) : q'.Wakeful := by
  cases h with
  | closed => exact hw
  | direct => exact ⟨hw.timed, hw.known, fun _ => .inl (Nat.succ_pos _)⟩
  | full => exact ⟨hw.timed, hw.known, hw.pending⟩
  | queued hopen _ _ hround =>
    exact hround.wakeful (hq.enqueue hopen ha _ e r) hw.timed hw.known

theorem Fires.wakeful (h : Fires b q s q' s') (hq : q.Sound live) (hw : q.Wakeful) :
    q'.Wakeful := by
  cases h with
  | early => exact hw
  | spent hdue hshut =>
    exact ⟨hw.timed, ring_known hw.known hdue, fun hlanes => absurd (hq.shut hshut) hlanes⟩
  | rung hdue _ _ hround =>
    exact hround.wakeful (hq.ring _) hw.timed (ring_known hw.known hdue)

theorem close_wakeful (hw : q.Wakeful) (b : Backend κ σ) (s : σ) :
    (close b q s).1.Wakeful := by
  by_cases hopen : q.closed = false
  · rw [close_eq hopen]
    exact ⟨hw.timed, hw.known, fun hlanes => absurd rfl hlanes⟩
  · unfold close
    rw [if_pos (by simpa using hopen)]
    exact hw

theorem die_wakeful (hw : q.Wakeful) : q.die.Wakeful := by
  rw [die_eq]
  exact ⟨hw.timed, hw.known, fun hlanes => absurd rfl hlanes⟩

/-! ### What makes a pass -/

theorem Leaves.rounds (h : Leaves b q s q' s') (ha : q.alive = true) :
    q'.rounds = q.rounds + 1 := by
  cases h with
  | counted _ hround => exact hround.flags.2.1
  | uncounted hdead =>
    rw [ha] at hdead
    cases hdead

/-- The end of a call that was taken makes a pass. -/
theorem Polls.rounds {c c' : QueuedCall κ} {result : Option HostResult}
    (h : Polls b c q s result c' q' s') (hc : c.isTaken q.slots = true) (ha : q.alive = true)
    (hend : result.isSome = true) : q'.rounds = q.rounds + 1 := by
  induction h with
  | refused => cases hc
  | pending => cases hend
  | ended _ hleaves => exact hleaves.rounds ha
  | unready => cases hend
  | collected _ _ ih => exact ih rfl ha hend
  | abandoned hslot =>
    rw [isTaken_waiting, hslot] at hc
    cases hc

/-- Dropping a call that was taken makes a pass. -/
theorem Drops.rounds {c : QueuedCall κ} (h : Drops b c q s q' s')
    (hc : c.isTaken q.slots = true) (ha : q.alive = true) : q'.rounds = q.rounds + 1 := by
  induction h with
  | refused => cases hc
  | running hleaves => exact hleaves.rounds ha
  | withdrawn hslot =>
    rw [isTaken_waiting, hslot] at hc
    cases hc
  | collected _ _ ih => exact ih rfl ha
  | abandoned hslot =>
    rw [isTaken_waiting, hslot] at hc
    cases hc

/-! ### Timers are kept until they go off -/

theorem Leaves.timers (h : Leaves b q s q' s') {a : Alarm} (hk : q.TimerKnown)
    (ha : q.timers = [a]) : q'.timers = [a] := by
  cases h with
  | counted _ hround => exact hround.timers hk ha
  | uncounted => exact ha

theorem Polls.timers {c c' : QueuedCall κ} {result : Option HostResult}
    (h : Polls b c q s result c' q' s') {a : Alarm} (hk : q.TimerKnown)
    (ha : q.timers = [a]) : q'.timers = [a] := by
  induction h with
  | refused => exact ha
  | pending => exact ha
  | ended _ hleaves => exact hleaves.timers hk ha
  | unready => exact ha
  | collected _ _ ih => exact ih hk ha
  | abandoned => exact ha

theorem Drops.timers {c : QueuedCall κ} (h : Drops b c q s q' s') {a : Alarm}
    (hk : q.TimerKnown) (ha : q.timers = [a]) : q'.timers = [a] := by
  induction h with
  | refused => exact ha
  | running hleaves => exact hleaves.timers hk ha
  | withdrawn => exact ha
  | collected _ _ ih => exact ih hk ha
  | abandoned => exact ha

theorem Submits.timers {e : Endpoint} {r : Request} {c : QueuedCall κ}
    (h : Submits b e r q s c q' s') {a : Alarm} (hk : q.TimerKnown) (ha : q.timers = [a]) :
    q'.timers = [a] := by
  cases h with
  | closed => exact ha
  | direct => exact ha
  | full => exact ha
  | queued _ _ _ hround => exact hround.timers hk ha

end Queue

/-! ### Sessions -/

/-- Whether a call was taken, and its caller has neither seen it end nor dropped it. -/
def Submission.isUnderWay (slots : Table Nat (Slot κ)) (c : Submission κ) : Bool :=
  match c.stage with
  | .held held => held.isTaken slots
  | .ended _ _ | .dropped _ => false

namespace Session

/-- No call is stranded. -/
structure Progresses (d : Delegate κ σ) (x : Session κ σ) : Prop where
  /-- As long as anything waits, a call is under way or the timer is set. -/
  pending : x.queue.closed = false → x.queue.alive = true → 0 < x.queue.len →
    0 < x.queue.inFlight ∨ x.queue.armed = true
  inFlight_eq : x.queue.alive = true →
    x.queue.inFlight = x.calls.countP (·.isUnderWay x.queue.slots)
  /-- When a call that is under way ends, a pass is made, -/
  ended : ∀ (n : Nat) (c : Submission (Stamped κ)), x.queue.alive = true →
    x.calls[n]? = some c → c.isUnderWay x.queue.slots = true →
    ∀ st result, (x.step d (.poll n)).calls[n]? = some { c with stage := .ended st result } →
      (x.step d (.poll n)).queue.rounds = x.queue.rounds + 1
  /-- and so it is when it is dropped. -/
  dropped : ∀ (n : Nat) (c : Submission (Stamped κ)), x.queue.alive = true →
    x.calls[n]? = some c → c.isUnderWay x.queue.slots = true →
      (x.step d (.drop n)).queue.rounds = x.queue.rounds + 1
  /-- The timer counts as set exactly as long as one is outstanding. -/
  known : x.queue.TimerKnown
  /-- It is outstanding until it goes off. -/
  kept : ∀ a m, x.queue.timers = [a] → (m = .fire → a.isDue (d.now x.watch.state) = false) →
    (x.step d m).queue.timers = [a]
  /-- When it goes off, it does not count as set any more, and then a pass is made, -/
  rung : ∀ a, x.queue.timers = [a] → a.isDue (d.now x.watch.state) = true →
    x.queue.closed = false → x.queue.alive = true →
      Queue.Round d.watched { x.queue with armed := false, timers := [] } x.watch
        (x.step d .fire).queue (x.step d .fire).watch ∧
      (x.step d .fire).queue.rounds = x.queue.rounds + 1
  /-- unless there is nothing left to do. -/
  spent : ∀ a, x.queue.timers = [a] → a.isDue (d.now x.watch.state) = true →
    x.queue.closed = true ∨ x.queue.alive = false →
      (x.step d .fire).queue.armed = false ∧ (x.step d .fire).queue.timers = []

variable {d : Delegate κ σ} {x : Session κ σ}

/-- Every move keeps it that something is still to come that makes a pass. -/
theorem step_wakeful (h : x.InOrder) (hw : x.queue.Wakeful) (m : Move σ) :
    (x.step d m).queue.Wakeful := by
  have hsound := h.accounts.sound
  have hdoes := step_does d hsound h.idle m
  generalize x.step d m = x' at hdoes ⊢
  cases hdoes with
  | nothing => exact hw
  | submitted halive hsubmits => exact hsubmits.wakeful hsound halive hw
  | polled hc hpolls =>
    obtain ⟨rest, hheld⟩ := sound_of_held hsound hc
    exact hpolls.wakeful hheld hw
  | dropped hc hdrops =>
    obtain ⟨rest, hheld⟩ := sound_of_held hsound hc
    exact hdrops.wakeful hheld hw
  | fired hfires => exact hfires.wakeful hsound hw
  | closed => exact Queue.close_wakeful hw d.watched x.watch
  | letGo => exact Queue.die_wakeful hw
  | changed => exact hw

theorem run_wakeful (h : x.InOrder) (hw : x.queue.Wakeful) (moves : List (Move σ)) :
    (x.run d moves).queue.Wakeful := by
  induction moves generalizing x with
  | nil => exact hw
  | cons m moves ih => exact ih (step_inOrder h m).1 (step_wakeful h hw m)

/-- A timer that is set stays as it is until it goes off. -/
theorem step_timers (h : x.InOrder) (hw : x.queue.Wakeful) {a : Alarm}
    (ha : x.queue.timers = [a]) (m : Move σ)
    (hm : m = .fire → a.isDue (d.now x.watch.state) = false) :
    (x.step d m).queue.timers = [a] := by
  have hdoes := step_does d h.accounts.sound h.idle m
  generalize x.step d m = x' at hdoes ⊢
  cases hdoes with
  | nothing => exact ha
  | submitted _ hsubmits => exact hsubmits.timers hw.known ha
  | polled _ hpolls => exact hpolls.timers hw.known ha
  | dropped _ hdrops => exact hdrops.timers hw.known ha
  | fired hfires =>
    have hnot : x.queue.isDue (d.watched.now x.watch) = false :=
      (Queue.isDue_of_timers ha _).trans (hm rfl)
    cases hfires with
    | early => exact ha
    | spent hdue _ => exact absurd (hnot.symm.trans hdue) (by simp)
    | rung hdue _ _ _ => exact absurd (hnot.symm.trans hdue) (by simp)
  | closed hopen =>
    show (x.queue.close d.watched x.watch).1.timers = [a]
    rw [Queue.close_eq hopen]
    exact ha
  | letGo =>
    show x.queue.die.timers = [a]
    rw [Queue.die_eq]
    exact ha
  | changed => exact ha

/-- The callers hold the calls under way. -/
theorem countP_isUnderWay (calls : List (Submission (Stamped κ)))
    (slots : Table Nat (Slot (Stamped κ))) :
    calls.countP (·.isUnderWay slots) = (live calls).countP (QueuedCall.isTaken slots) := by
  induction calls with
  | nil => rfl
  | cons c calls ih =>
    obtain ⟨e, r, stage⟩ := c
    cases stage with
    | ended _ _ => exact ih
    | dropped _ => exact ih
    | held held =>
      have hlive : live (⟨e, r, .held held⟩ :: calls) = held :: live calls := rfl
      rw [hlive, List.countP_cons, List.countP_cons, ih]
      rfl

/-- When a call that is under way ends, a pass is made. -/
theorem rounds_of_ended (h : x.InOrder) (ha : x.queue.alive = true) {n : Nat}
    {c : Submission (Stamped κ)} (hc : x.calls[n]? = some c)
    (hway : c.isUnderWay x.queue.slots = true) {st : Standing (Stamped κ)} {result : HostResult}
    (hend : (x.step d (.poll n)).calls[n]? = some { c with stage := .ended st result }) :
    (x.step d (.poll n)).queue.rounds = x.queue.rounds + 1 := by
  have hdoes := step_does d h.accounts.sound h.idle (.poll n)
  generalize x.step d (.poll n) = x' at hdoes hend ⊢
  cases hdoes with
  | nothing =>
    -- The caller would have been done with its call before.
    rw [hc, Option.some.injEq] at hend
    rw [hend] at hway
    cases hway
  | @polled _ e r held c' answer q' w' hheld hpolls =>
    have hn : n < x.calls.length := (List.getElem?_eq_some_iff.mp hc).1
    rw [hc, Option.some.injEq] at hheld
    subst hheld
    cases answer with
    | some _ => exact hpolls.rounds hway ha rfl
    | none =>
      have hlast : (x.calls.set n ⟨e, r, .held c'⟩)[n]? = some ⟨e, r, .ended st result⟩ := hend
      rw [List.getElem?_set_self hn] at hlast
      cases hlast

/-- When a call that is under way is dropped, a pass is made. -/
theorem rounds_of_dropped (h : x.InOrder) (ha : x.queue.alive = true) {n : Nat}
    {c : Submission (Stamped κ)} (hc : x.calls[n]? = some c)
    (hway : c.isUnderWay x.queue.slots = true) :
    (x.step d (.drop n)).queue.rounds = x.queue.rounds + 1 := by
  obtain ⟨e, r, stage⟩ := c
  cases stage with
  | ended _ _ => cases hway
  | dropped _ => cases hway
  | held held =>
    obtain ⟨rest, hheld⟩ := sound_of_held h.accounts.sound hc
    have hdrops := Queue.drop_drops d.watched_quiet hheld h.idle x.watch
    show (x.drop d n).queue.rounds = _
    unfold drop
    rw [hc]
    exact hdrops.rounds hway ha

/-- When the timer goes off, it does not count as set any more, and then a pass is made,
unless there is nothing left to do. -/
theorem fire_of_due (h : x.InOrder) {a : Alarm} (ha : x.queue.timers = [a])
    (hdue : a.isDue (d.now x.watch.state) = true) :
    (x.queue.closed = false → x.queue.alive = true →
      Queue.Round d.watched { x.queue with armed := false, timers := [] } x.watch
        (x.step d .fire).queue (x.step d .fire).watch) ∧
    (x.queue.closed = true ∨ x.queue.alive = false →
      (x.step d .fire).queue.armed = false ∧ (x.step d .fire).queue.timers = []) := by
  have hdue' : x.queue.isDue (d.watched.now x.watch) = true :=
    (Queue.isDue_of_timers ha _).trans hdue
  have hclear : x.queue.ring (d.watched.now x.watch) =
      { x.queue with armed := false, timers := [] } := Queue.ring_of_timers ha hdue
  have hdoes := step_does d h.accounts.sound h.idle .fire
  generalize x.step d .fire = x' at hdoes ⊢
  cases hdoes with
  | nothing hm => exact absurd rfl hm
  | fired hfires =>
    cases hfires with
    | early hnot => exact absurd (hdue'.symm.trans hnot) (by simp)
    | spent _ hshut =>
      refine ⟨fun hopen halive => absurd hshut (Queue.not_shut hopen halive), fun _ => ?_⟩
      rw [hclear]
      exact ⟨rfl, rfl⟩
    | rung _ hopen halive hround =>
      rw [hclear] at hround
      exact ⟨fun _ _ => hround, fun hshut => absurd hshut (Queue.not_shut hopen halive)⟩

/-- In every run, no call is stranded. -/
theorem run_progress (d : Delegate κ σ) (s : σ) (moves : List (Move σ)) :
    ((start true s : Session κ σ).run d moves).Progresses d := by
  -- Both invariants hold at the end of the run, and the rest is about one more move.
  have h := run_inOrder (d := d) (start_inOrder true s) moves
  have hw := run_wakeful (d := d) (start_inOrder true s) Queue.new_wakeful moves
  generalize (start true s : Session κ σ).run d moves = x at h hw
  have hsound := h.accounts.sound
  refine ⟨?_, ?_, ?_, ?_, hw.known, fun a m ha hm => step_timers h hw ha m hm, ?_, ?_⟩
  · intro _ _ hlen
    refine hw.pending fun hnil => ?_
    have hzero := hsound.lanes_eq_nil.mp hnil
    omega
  · intro ha
    rw [hsound.inFlight_eq ha, countP_isUnderWay]
  · exact fun n c ha hc hway st result hend => rounds_of_ended h ha hc hway hend
  · exact fun n c ha hc hway => rounds_of_dropped h ha hc hway
  · intro a ha hdue hopen halive
    have hround := (fire_of_due h ha hdue).1 hopen halive
    exact ⟨hround, hround.flags.2.1⟩
  · exact fun a ha hdue hshut => (fire_of_due h ha hdue).2 hshut

end Session

end RpcPipeline
