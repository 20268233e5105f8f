import RpcPipeline.Proofs.Queue.Progress
import RpcPipeline.Proofs.Queue.Service

/-!
# `RpcPipeline.Proofs.Queue.Closing`: closing a queue is final

Closing gives up what waits and lets go on what was taken. `run_close_final` says what this
comes to in every continuation of every run: nothing is offered any more, every call that
waited and every later one fails as cancelled, and a call that was taken before is answered
by its own host and counted until then (`Session.Final`).

A closed queue does not even look at its backend's answer to an offer. This is so for every
backend, also for one that calls back into the queue, and in whatever state the queue was
closed: `Backend.asking` replaces the answers, and no operation of a closed queue comes out
differently (`offerAll_closed`, `pass_closed`, `poll_closed` and so on).

* `Backend.asking`: a backend that answers offers in another way.
* `Session.Fares`: what one move through a closed queue does to one call.
* `Session.Outcome`: what becomes of a call that was taken.
* `run_close_final`: the theorem.
-/

set_option autoImplicit false

namespace RpcPipeline

variable {κ σ : Type}

/-- The backend with other answers to offers. -/
def Backend.asking (b : Backend κ σ)
    (ask : Endpoint → Request → Queue κ → σ → Option κ × Queue κ × σ) : Backend κ σ :=
  { b with offer := ask }

namespace Queue

/-! ### A closed queue offers nothing -/

section

variable {b : Backend κ σ} {q : Queue κ}

/-- The loop of a pass that finds the queue closed, at whichever call, makes no further
offer. -/
theorem offerAll_closed (b : Backend κ σ)
    (ask : Endpoint → Request → Queue κ → σ → Option κ × Queue κ × σ) (f : Fairness) :
    ∀ (fuel : Nat) (q : Queue κ) (s : σ), q.closed = true →
      (offerAll b f fuel q s).2.1.closed = true ∧
        offerAll (b.asking ask) f fuel q s = offerAll b f fuel q s := by
  intro fuel
  induction fuel with
  | zero =>
    intro q s hclosed
    exact ⟨hclosed, rfl⟩
  | succ fuel ih =>
    intro q s hclosed
    cases hp : q.lanes.pop with
    | none =>
      rw [offerAll_of_none b f _ s hp, offerAll_of_none (b.asking ask) f _ s hp]
      exact ⟨hclosed, rfl⟩
    | some next =>
      obtain ⟨w, rest⟩ := next
      -- Whatever a closed queue still has in a lane is passed over.
      have hgone : (q.isDeserted w.id || q.closed) = true := by simp [hclosed]
      rw [offerAll_of_gone b f fuel s hp hgone, offerAll_of_gone (b.asking ask) f fuel s hp hgone]
      exact ih _ s hclosed

theorem arm_closed (q : Queue κ) (now : Instant) (delay : Nanos) :
    (q.arm now delay).closed = q.closed := by
  rw [arm_eq]

theorem pass_closed (b : Backend κ σ)
    (ask : Endpoint → Request → Queue κ → σ → Option κ × Queue κ × σ) (s : σ)
    (hclosed : q.closed = true) :
    (pass b q s).1.closed = true ∧ pass (b.asking ask) q s = pass b q s := by
  obtain ⟨hstill, hsame⟩ := offerAll_closed b ask (b.settings s).fairness
    (q.lanes.count + b.callbacks s + 1) { q with rounds := q.rounds + 1 } s hclosed
  rcases hoffers : offerAll b (b.settings s).fairness (q.lanes.count + b.callbacks s + 1)
    { q with rounds := q.rounds + 1 } s with ⟨stalled, mid, s₁⟩
  rw [hoffers] at hstill hsame
  rw [pass_eq b hoffers, pass_eq (b.asking ask) hsame]
  refine ⟨?_, rfl⟩
  show (if _ then _ else mid : Queue κ).closed = true
  split
  · rw [arm_closed]
    exact hstill
  · exact hstill

theorem passes_closed (b : Backend κ σ)
    (ask : Endpoint → Request → Queue κ → σ → Option κ × Queue κ × σ) :
    ∀ (fuel : Nat) (q : Queue κ) (s : σ), q.closed = true →
      (passes b fuel q s).1.closed = true ∧
        passes (b.asking ask) fuel q s = passes b fuel q s := by
  intro fuel
  induction fuel with
  | zero =>
    intro q s hclosed
    exact ⟨hclosed, rfl⟩
  | succ fuel ih =>
    intro q s hclosed
    cases hrerun : q.rerun with
    | false =>
      rw [passes_of_rerun b _ s hrerun, passes_of_rerun (b.asking ask) _ s hrerun]
      exact ⟨hclosed, rfl⟩
    | true =>
      obtain ⟨hstill, hsame⟩ := pass_closed (q := { q with rerun := false }) b ask s hclosed
      rw [passes_of_asked b _ s hrerun, passes_of_asked (b.asking ask) _ s hrerun, hsame]
      exact ih _ _ hstill

theorem trigger_closed (b : Backend κ σ)
    (ask : Endpoint → Request → Queue κ → σ → Option κ × Queue κ × σ) (s : σ)
    (hclosed : q.closed = true) :
    (trigger b q s).1.closed = true ∧ trigger (b.asking ask) q s = trigger b q s := by
  unfold trigger
  cases hr : q.running with
  | true => exact ⟨hclosed, rfl⟩
  | false => exact passes_closed b ask _ _ _ hclosed

theorem leave_closed (b : Backend κ σ)
    (ask : Endpoint → Request → Queue κ → σ → Option κ × Queue κ × σ) (s : σ)
    (hclosed : q.closed = true) : leave (b.asking ask) q s = leave b q s := by
  unfold leave
  split
  · exact (trigger_closed (q := { q with inFlight := q.inFlight - 1 }) b ask s hclosed).2
  · rfl

theorem pollTaken_closed (b : Backend κ σ)
    (ask : Endpoint → Request → Queue κ → σ → Option κ × Queue κ × σ) (call : κ) (s : σ)
    (hclosed : q.closed = true) : pollTaken (b.asking ask) call q s = pollTaken b call q s := by
  have hpoll : (b.asking ask).poll call s = b.poll call s := rfl
  unfold pollTaken
  rw [hpoll]
  rcases b.poll call s with ⟨_ | result, call', s'⟩
  · rfl
  · show (_, _, leave (b.asking ask) q s') = (_, _, leave b q s')
    rw [leave_closed b ask s' hclosed]

theorem poll_closed (b : Backend κ σ)
    (ask : Endpoint → Request → Queue κ → σ → Option κ × Queue κ × σ) (c : QueuedCall κ) (s : σ)
    (hclosed : q.closed = true) : poll (b.asking ask) c q s = poll b c q s := by
  cases c with
  | refused e => rfl
  | running call => exact pollTaken_closed b ask call s hclosed
  | waiting id =>
    simp only [poll]
    split
    · rfl
    · next call _ =>
      exact pollTaken_closed (q := { q with slots := q.slots.erase id }) b ask call s hclosed
    · rfl
    · rfl

theorem drop_closed (b : Backend κ σ)
    (ask : Endpoint → Request → Queue κ → σ → Option κ × Queue κ × σ) (c : QueuedCall κ) (s : σ)
    (hclosed : q.closed = true) : drop (b.asking ask) c q s = drop b c q s := by
  cases c with
  | refused e => rfl
  | running call => exact leave_closed b ask _ hclosed
  | waiting id =>
    unfold drop
    by_cases hhas : q.lanes.has id = true
    · simp only [withdraw_eq, if_pos hhas]
      split
      · exact leave_closed (q := { q with
          lanes := q.lanes.remove id, len := q.len - 1, slots := q.slots.erase id }) b ask _ hclosed
      · rfl
    · simp only [withdraw_eq, if_neg hhas]
      split
      · exact leave_closed (q := { q with slots := q.slots.erase id }) b ask _ hclosed
      · rfl

theorem fire_closed (b : Backend κ σ)
    (ask : Endpoint → Request → Queue κ → σ → Option κ × Queue κ × σ) (s : σ)
    (hclosed : q.closed = true) : fire (b.asking ask) q s = fire b q s := by
  have hspent : ∀ now, ((q.ring now).closed || !(q.ring now).alive) = true := by
    intro now
    simp [ring, hclosed]
  unfold fire
  show (if q.isDue (b.now s) = true then _ else _) = _
  split
  · rw [if_pos (hspent _)]
    exact (if_pos (hspent _)).symm
  · rfl

theorem submit_closed (b : Backend κ σ) (e : Endpoint) (r : Request) (s : σ)
    (hclosed : q.closed = true) : submit b e r q s = (.refused .cancelled, q, s) := by
  unfold submit
  exact if_pos hclosed

end

/-! ### A queue in which nothing waits -/

section

variable {b : Backend κ σ} {q q' : Queue κ} {s s' : σ} {live : List (QueuedCall κ)}

/-- Where nothing waits, no slot is empty. -/
theorem Sound.get?_ne_empty (hq : q.Sound live) (hlanes : q.lanes = []) (id : Nat) :
    q.slots.get? id ≠ some .empty := by
  intro hempty
  have hid := (hq.awaits id).mpr hempty
  rw [hlanes] at hid
  cases hid

/-- Where nothing waits, a pass only reports. -/
theorem Round.of_lanes (h : Round b q s q' s') (hlanes : q.lanes = []) :
    s' = b.report q.len s ∧ q'.slots = q.slots := by
  obtain ⟨stalled, mid, s₁, hserves, rfl, rfl⟩ := h
  have hpop : q.beginPass.lanes.pop = none := by
    show q.lanes.pop = none
    rw [hlanes]
    rfl
  cases hserves with
  | done =>
    rw [endPass_eq]
    exact ⟨rfl, rfl⟩
  | refused hsome =>
    rw [hpop] at hsome
    cases hsome
  | taken hsome =>
    rw [hpop] at hsome
    cases hsome

variable {d : Delegate κ σ} {q q' : Queue (Stamped κ)} {w w' : Watched σ}

/-- Where nothing waits, a pass makes no offer. -/
theorem Round.unasked (h : Round d.watched q w q' w') (hlanes : q.lanes = []) :
    w'.offers = w.offers ∧ q'.slots = q.slots := by
  obtain ⟨rfl, hslots⟩ := h.of_lanes hlanes
  exact ⟨rfl, hslots⟩

theorem Leaves.unasked (h : Leaves d.watched q w q' w') (hlanes : q.lanes = []) :
    w'.offers = w.offers ∧ q'.slots = q.slots := by
  cases h with
  | counted _ hround => exact hround.unasked hlanes
  | uncounted => exact ⟨rfl, rfl⟩

/-- A closed queue turns new calls away. -/
theorem Submits.of_closed {b : Backend κ σ} {e : Endpoint} {r : Request} {c : QueuedCall κ}
    {q q' : Queue κ} {s s' : σ} (h : Submits b e r q s c q' s') (hclosed : q.closed = true) :
    c = .refused .cancelled ∧ q' = q ∧ s' = s := by
  have hnot : q.closed ≠ false := by simp [hclosed]
  cases h with
  | closed => exact ⟨rfl, rfl, rfl⟩
  | direct hopen => exact absurd hopen hnot
  | full hopen => exact absurd hopen hnot
  | queued hopen => exact absurd hopen hnot

theorem Fires.unasked (h : Fires d.watched q w q' w') (hlanes : q.lanes = []) :
    w'.offers = w.offers ∧ q'.slots = q.slots := by
  cases h with
  | early => exact ⟨rfl, rfl⟩
  | spent => exact ⟨rfl, rfl⟩
  | rung _ _ _ hround => exact hround.unasked hlanes

/-- Where nothing waits, a poll makes no offer, and other callers find in their slots what
was there. -/
theorem Polls.unasked {c c' : QueuedCall (Stamped κ)} {result : Option HostResult}
    (h : Polls d.watched c q w result c' q' w') (hlanes : q.lanes = []) :
    w'.offers = w.offers ∧ ∀ id, c ≠ .waiting id → q'.slots.get? id = q.slots.get? id := by
  induction h with
  | refused => exact ⟨rfl, fun _ _ => rfl⟩
  | pending hpoll => exact ⟨(Delegate.watched_poll hpoll).2.2, fun _ _ => rfl⟩
  | ended hpoll hleaves =>
    obtain ⟨hoffers, hslots⟩ := hleaves.unasked hlanes
    exact ⟨hoffers.trans (Delegate.watched_poll hpoll).2.2, fun id _ => by rw [hslots]⟩
  | unready => exact ⟨rfl, fun _ _ => rfl⟩
  | collected hslot _ ih =>
    obtain ⟨hoffers, hothers⟩ := ih hlanes
    refine ⟨hoffers, fun id hid => ?_⟩
    rw [hothers id (by simp)]
    exact get?_erase_of_ne hid
  | abandoned => exact ⟨rfl, fun _ hid => get?_erase_of_ne hid⟩

theorem Drops.unasked {c : QueuedCall (Stamped κ)} (h : Drops d.watched c q w q' w')
    (hlanes : q.lanes = []) :
    w'.offers = w.offers ∧ ∀ id, c ≠ .waiting id → q'.slots.get? id = q.slots.get? id := by
  induction h with
  | refused => exact ⟨rfl, fun _ _ => rfl⟩
  | running hleaves =>
    obtain ⟨hoffers, hslots⟩ := hleaves.unasked hlanes
    exact ⟨hoffers, fun id _ => by rw [hslots]⟩
  | withdrawn => exact ⟨rfl, fun _ hid => get?_erase_of_ne hid⟩
  | collected hslot _ ih =>
    obtain ⟨hoffers, hothers⟩ := ih hlanes
    refine ⟨hoffers, fun id hid => ?_⟩
    rw [hothers id (by simp)]
    exact get?_erase_of_ne hid
  | abandoned => exact ⟨rfl, fun _ hid => get?_erase_of_ne hid⟩

end

end Queue

/-! ### What a poll tells -/

namespace Delegate

/-- What a caller is left with after it has polled a call that was taken. -/
def answer (d : Delegate κ σ) (f : Stamped κ) (s : σ) : Stage (Stamped κ) :=
  Session.afterPoll (.taken f) (.running { f with call := (d.poll f.call s).2.1 })
    (d.poll f.call s).1

theorem afterPoll_watched {d : Delegate κ σ} {f f' : Stamped κ} {w w' : Watched σ}
    {result : Option HostResult} (h : d.watched.poll f w = (result, f', w')) :
    Session.afterPoll (.taken f) (.running f') result = d.answer f w.state := by
  cases h
  rfl

end Delegate

namespace Queue

variable {d : Delegate κ σ} {q q' : Queue (Stamped κ)} {w w' : Watched σ}
  {c c' : QueuedCall (Stamped κ)} {result : Option HostResult}

/-- A call that was taken answers for itself. -/
theorem Polls.answers (h : Polls d.watched c q w result c' q' w') {f : Stamped κ}
    (hst : c.standing q.slots = .taken f) :
    Session.afterPoll (c.standing q.slots) c' result = d.answer f w.state := by
  rw [hst]
  induction h with
  | refused => cases hst
  | pending hpoll =>
    cases hst
    exact Delegate.afterPoll_watched hpoll
  | ended hpoll _ =>
    cases hst
    exact Delegate.afterPoll_watched hpoll
  | unready hslot =>
    rw [QueuedCall.standing_empty hslot] at hst
    cases hst
  | collected hslot _ ih =>
    rw [QueuedCall.standing_filled hslot] at hst
    cases hst
    exact ih rfl
  | abandoned hslot =>
    rw [QueuedCall.standing_abandoned hslot] at hst
    cases hst

/-- A call that failed tells its error. -/
theorem Polls.fails (h : Polls d.watched c q w result c' q' w') {e : CallError}
    (hst : c.standing q.slots = .failed e) : result = some (.error e) := by
  induction h with
  | refused =>
    cases hst
    rfl
  | pending => cases hst
  | ended => cases hst
  | unready hslot =>
    rw [QueuedCall.standing_empty hslot] at hst
    cases hst
  | collected hslot =>
    rw [QueuedCall.standing_filled hslot] at hst
    cases hst
  | abandoned hslot =>
    rw [QueuedCall.standing_abandoned hslot] at hst
    cases hst
    rfl

end Queue

namespace Session

variable {d : Delegate κ σ} {x x' : Session κ σ} {n : Nat} {c : Submission (Stamped κ)}

/-! ### One move -/

/-- A session whose queue is closed. -/
structure Shut (x : Session κ σ) : Prop where
  inOrder : x.InOrder
  closed : x.queue.closed = true

/-- What one move through a closed queue does to a call. -/
inductive Fares (d : Delegate κ σ) (x x' : Session κ σ) (n : Nat) (c : Submission (Stamped κ)) :
    Move σ → Prop where
  | stays {m : Move σ} (hc : x'.calls[n]? = some c)
      (hst : c.stage.standing x'.queue.slots = c.stage.standing x.queue.slots) : Fares d x x' n c m
  | answered {call : QueuedCall (Stamped κ)} {f : Stamped κ} (hheld : c.stage = .held call)
      (hst : call.standing x.queue.slots = .taken f)
      (hc : x'.calls[n]? = some { c with stage := d.answer f x.watch.state }) :
      Fares d x x' n c (.poll n)
  | failed {call : QueuedCall (Stamped κ)} {e : CallError} (hheld : c.stage = .held call)
      (hst : call.standing x.queue.slots = .failed e)
      (hc : x'.calls[n]? = some { c with stage := .ended (.failed e) (.error e) }) :
      Fares d x x' n c (.poll n)
  | dropped {call : QueuedCall (Stamped κ)} (hheld : c.stage = .held call)
      (hc : x'.calls[n]? = some { c with stage := .dropped (call.standing x.queue.slots) }) :
      Fares d x x' n c (.drop n)

/-- The queue stays closed, nothing is offered, and whoever comes is turned away. -/
structure Idles (x x' : Session κ σ) : Prop where
  closed : x'.queue.closed = true
  unasked : x'.watch.offers = x.watch.offers
  turnedAway : ∀ n, x.calls.length ≤ n → n < x'.calls.length →
    ∃ c : Submission (Stamped κ), x'.calls[n]? = some c ∧
      c.stage.standing x'.queue.slots = .failed .cancelled

/-- Nobody comes. -/
theorem Idles.of_calls (hclosed : x'.queue.closed = true)
    (hunasked : x'.watch.offers = x.watch.offers) (hcalls : x'.calls.length = x.calls.length) :
    x.Idles x' :=
  ⟨hclosed, hunasked, fun n hn hlt => by omega⟩

namespace Shut

theorem lanes_eq (h : x.Shut) : x.queue.lanes = [] :=
  h.inOrder.accounts.sound.shut (.inl h.closed)

/-- A caller that holds its call does not wait any more. -/
theorem standing_ne (h : x.Shut) {e : Endpoint} {r : Request} {call : QueuedCall (Stamped κ)}
    (hc : x.calls[n]? = some ⟨e, r, .held call⟩) : call.standing x.queue.slots ≠ .waiting := by
  intro hst
  have hwaits := (waits_iff h.inOrder hc).mpr ⟨hst, by simp⟩
  obtain ⟨id, -, hempty⟩ := hwaits
  exact h.inOrder.accounts.sound.get?_ne_empty h.lanes_eq id hempty

/-- Other callers stand as before when one has done something with its call. -/
theorem stays_of_set (h : x.Shut) {k : Nat} {e : Endpoint} {r : Request}
    {call : QueuedCall (Stamped κ)} {stage : Stage (Stamped κ)} {m : Move σ}
    (hk : x.calls[k]? = some ⟨e, r, .held call⟩) (hkn : k ≠ n) (hc : x.calls[n]? = some c)
    (hcalls : x'.calls = x.calls.set k ⟨e, r, stage⟩)
    (hslots : ∀ id, call ≠ .waiting id → x'.queue.slots.get? id = x.queue.slots.get? id) :
    Fares d x x' n c m := by
  refine .stays ?_ ?_
  · rw [hcalls, List.getElem?_set_ne hkn, hc]
  · refine Stage.standing_congr fun id hstage => hslots id ?_
    rintro rfl
    exact hkn (h.inOrder.accounts.books.caller_unique hk hc rfl hstage)

theorem stays_of_slots {m : Move σ} (hc : x.calls[n]? = some c) (hcalls : x'.calls = x.calls)
    (hslots : ∀ id, x'.queue.slots.get? id = x.queue.slots.get? id) : Fares d x x' n c m :=
  .stays (by rw [hcalls, hc]) (Stage.standing_congr fun id _ => hslots id)

/-- A poll of a call that its caller holds. -/
theorem poll_fares (h : x.Shut) {e : Endpoint} {r : Request} {call c' : QueuedCall (Stamped κ)}
    {result : Option HostResult} {q' : Queue (Stamped κ)} {w' : Watched σ}
    (hc : x.calls[n]? = some ⟨e, r, .held call⟩)
    (hpolls : Queue.Polls d.watched call x.queue x.watch result c' q' w') :
    Fares d x ⟨q', w', x.calls.set n ⟨e, r, afterPoll (call.standing x.queue.slots) c' result⟩⟩ n
      ⟨e, r, .held call⟩ (.poll n) := by
  have hn : n < x.calls.length := (List.getElem?_eq_some_iff.mp hc).1
  cases hst : call.standing x.queue.slots with
  | waiting => exact absurd hst (h.standing_ne hc)
  | taken f =>
    have hanswer := hpolls.answers hst
    rw [hst] at hanswer
    refine .answered rfl hst ?_
    show (x.calls.set n _)[n]? = _
    rw [hanswer, List.getElem?_set_self hn]
  | failed err =>
    refine .failed rfl hst ?_
    show (x.calls.set n _)[n]? = _
    rw [hpolls.fails hst, List.getElem?_set_self hn]
    rfl

/-- A move through a closed queue fares with every call as listed. -/
theorem step_fares (h : x.Shut) (m : Move σ) (hc : x.calls[n]? = some c) :
    Fares d x (x.step d m) n c m := by
  have hsound := h.inOrder.accounts.sound
  have hdoes := step_does d hsound h.inOrder.idle m
  generalize x.step d m = x' at hdoes ⊢
  cases hdoes with
  | nothing => exact .stays hc rfl
  | submitted _ hsubmits =>
    obtain ⟨rfl, rfl, rfl⟩ := hsubmits.of_closed h.closed
    refine .stays ?_ rfl
    show (x.calls ++ _)[n]? = some c
    rw [List.getElem?_append_left (List.getElem?_eq_some_iff.mp hc).1, hc]
  | @polled k e r call c' result q' w' hk hpolls =>
    by_cases hkn : k = n
    · subst hkn
      rw [hk, Option.some.injEq] at hc
      subst hc
      exact h.poll_fares hk hpolls
    · exact h.stays_of_set hk hkn hc rfl (hpolls.unasked h.lanes_eq).2
  | @dropped k e r call q' w' hk hdrops =>
    by_cases hkn : k = n
    · subst hkn
      rw [hk, Option.some.injEq] at hc
      subst hc
      exact .dropped rfl (List.getElem?_set_self (List.getElem?_eq_some_iff.mp hk).1)
    · exact h.stays_of_set hk hkn hc rfl (hdrops.unasked h.lanes_eq).2
  | fired hfires =>
    exact stays_of_slots hc rfl fun id => by rw [(hfires.unasked h.lanes_eq).2]
  | closed hopen => exact absurd hopen (by simp [h.closed])
  | letGo =>
    refine stays_of_slots hc rfl fun id => ?_
    show x.queue.die.slots.get? id = _
    -- Only empty slots are given up, and there is none.
    have hempty := hsound.get?_ne_empty h.lanes_eq id
    rw [Queue.get?_die hsound]
    rcases hslot : x.queue.slots.get? id with _ | (_ | _ | _)
    · rfl
    · exact absurd hslot hempty
    · rfl
    · rfl
  | changed => exact .stays hc rfl

/-- A move through a closed queue leaves it closed, makes no offer, and adds only a call that
is turned away. -/
theorem step_idles (h : x.Shut) (m : Move σ) : x.Idles (x.step d m) := by
  have hdoes := step_does d h.inOrder.accounts.sound h.inOrder.idle m
  generalize x.step d m = x' at hdoes ⊢
  cases hdoes with
  | nothing => exact .of_calls h.closed rfl rfl
  | @submitted e r _ _ _ _ hsubmits =>
    obtain ⟨rfl, rfl, rfl⟩ := hsubmits.of_closed h.closed
    refine ⟨h.closed, rfl, fun k hk hlt => ?_⟩
    have hk' : k = x.calls.length := by
      simp only [List.length_append, List.length_singleton] at hlt
      omega
    subst hk'
    exact ⟨⟨e, r, .held (.refused .cancelled)⟩, List.getElem?_concat_length, rfl⟩
  | polled _ hpolls =>
    exact .of_calls (hpolls.ends.1.trans h.closed) (hpolls.unasked h.lanes_eq).1 (by simp)
  | dropped _ hdrops =>
    exact .of_calls (hdrops.ends.1.trans h.closed) (hdrops.unasked h.lanes_eq).1 (by simp)
  | fired hfires =>
    exact .of_calls (hfires.ends.1.trans h.closed) (hfires.unasked h.lanes_eq).1 rfl
  | closed hopen => exact absurd hopen (by simp [h.closed])
  | letGo =>
    refine .of_calls ?_ rfl rfl
    show x.queue.die.closed = true
    rw [Queue.die_eq]
    exact h.closed
  | changed => exact .of_calls h.closed rfl rfl

theorem step (h : x.Shut) (m : Move σ) : (x.step d m).Shut :=
  ⟨(step_inOrder h.inOrder m).1, (h.step_idles m).closed⟩

theorem run (h : x.Shut) (moves : List (Move σ)) : (x.run d moves).Shut := by
  induction moves generalizing x with
  | nil => exact h
  | cons m moves ih => exact ih (h.step m)

/-! ### Runs -/

theorem run_offers (h : x.Shut) (moves : List (Move σ)) :
    (x.run d moves).watch.offers = x.watch.offers := by
  induction moves generalizing x with
  | nil => rfl
  | cons m moves ih => exact (ih (h.step m)).trans (h.step_idles m).unasked

/-- A call whose caller is done with it stays as it is. -/
theorem run_done (h : x.Shut) (hc : x.calls[n]? = some c) (hdone : c.stage.held? = none)
    (moves : List (Move σ)) : (x.run d moves).calls[n]? = some c := by
  induction moves generalizing x with
  | nil => exact hc
  | cons m moves ih =>
    have hnot : ∀ call, c.stage ≠ .held call := by
      intro call hheld
      rw [hheld] at hdone
      cases hdone
    cases h.step_fares (d := d) m hc with
    | stays hc' => exact ih (h.step m) hc'
    | answered hheld => exact absurd hheld (hnot _)
    | failed hheld => exact absurd hheld (hnot _)
    | dropped hheld => exact absurd hheld (hnot _)

/-- A call that failed stays failed. -/
theorem run_failed (h : x.Shut) {e : CallError} (hc : x.calls[n]? = some c)
    (hst : c.stage.standing x.queue.slots = .failed e) (moves : List (Move σ)) :
    ∃ c' : Submission (Stamped κ), (x.run d moves).calls[n]? = some c' ∧
      c'.stage.standing (x.run d moves).queue.slots = .failed e := by
  induction moves generalizing x c with
  | nil => exact ⟨c, hc, hst⟩
  | cons m moves ih =>
    cases h.step_fares (d := d) m hc with
    | stays hc' hsame => exact ih (h.step m) hc' (hsame.trans hst)
    | answered hheld htaken =>
      rw [hheld] at hst
      cases htaken.symm.trans hst
    | failed hheld herror hc' =>
      rw [hheld] at hst
      cases herror.symm.trans hst
      exact ih (h.step _) hc' rfl
    | dropped hheld hc' =>
      refine ih (h.step _) hc' ?_
      rw [hheld] at hst
      exact hst

/-- Every later call is turned away. -/
theorem run_later (h : x.Shut) (moves : List (Move σ)) (hn : x.calls.length ≤ n)
    (hlt : n < (x.run d moves).calls.length) :
    ∃ c : Submission (Stamped κ), (x.run d moves).calls[n]? = some c ∧
      c.stage.standing (x.run d moves).queue.slots = .failed .cancelled := by
  induction moves generalizing x with
  | nil => exact absurd hlt (Nat.not_lt.mpr hn)
  | cons m moves ih =>
    by_cases hnew : n < (x.step d m).calls.length
    · obtain ⟨c, hc, hst⟩ := (h.step_idles m).turnedAway n hn hnew
      exact (h.step m).run_failed hc hst moves
    · exact ih (h.step m) (Nat.le_of_not_lt hnew) hlt

end Shut

/-- A caller holds a call that was taken. -/
def Holds (x : Session κ σ) (n : Nat) (f : Stamped κ) : Prop :=
  ∃ (e : Endpoint) (r : Request) (call : QueuedCall (Stamped κ)),
    x.calls[n]? = some ⟨e, r, .held call⟩ ∧ call.standing x.queue.slots = .taken f

/-- What becomes of a call in a run, once it was taken with a stamp. -/
inductive Outcome (d : Delegate κ σ) (x : Session κ σ) (n stamp : Nat) :
    List (Move σ) → Prop where
  /-- Its caller still holds it. -/
  | held {moves : List (Move σ)} {f : Stamped κ} (hheld : (x.run d moves).Holds n f)
      (hstamp : f.stamp = stamp) : Outcome d x n stamp moves
  /-- Its caller has polled it and was given the result that its host gave then. -/
  | ended (before : List (Move σ)) {after : List (Move σ)} {f : Stamped κ} {result : HostResult}
      {e : Endpoint} {r : Request} (hheld : (x.run d before).Holds n f) (hstamp : f.stamp = stamp)
      (hpoll : (d.poll f.call (x.run d before).watch.state).1 = some result)
      (hend : (x.run d (before ++ .poll n :: after)).calls[n]? =
        some ⟨e, r, .ended (.taken f) result⟩) :
      Outcome d x n stamp (before ++ .poll n :: after)
  /-- Its caller has dropped it. -/
  | dropped (before : List (Move σ)) {after : List (Move σ)} {f : Stamped κ} {e : Endpoint}
      {r : Request} (hheld : (x.run d before).Holds n f) (hstamp : f.stamp = stamp)
      (hend : (x.run d (before ++ .drop n :: after)).calls[n]? = some ⟨e, r, .dropped (.taken f)⟩) :
      Outcome d x n stamp (before ++ .drop n :: after)

/-- What becomes of a call after a move that it survives. -/
theorem Outcome.cons {m : Move σ} {moves : List (Move σ)} {stamp : Nat}
    (h : Outcome d (x.step d m) n stamp moves) : Outcome d x n stamp (m :: moves) := by
  cases h with
  | held hheld hstamp => exact .held hheld hstamp
  | ended before hheld hstamp hpoll hend =>
    exact .ended (m :: before) hheld hstamp hpoll hend
  | dropped before hheld hstamp hend =>
    exact .dropped (m :: before) hheld hstamp hend

/-- A call that was taken before is answered by its host, if its caller polls it. -/
theorem Shut.run_outcome (h : x.Shut) {f : Stamped κ} (hheld : x.Holds n f)
    (moves : List (Move σ)) : Outcome d x n f.stamp moves := by
  induction moves generalizing x f with
  | nil => exact .held hheld rfl
  | cons m moves ih =>
    obtain ⟨e, r, call, hc, hst⟩ := hheld
    cases h.step_fares (d := d) m hc with
    | stays hc' hsame => exact (ih (h.step m) ⟨e, r, call, hc', hsame.trans hst⟩).cons
    | @answered call' f' hcall htaken hc' =>
      cases hcall
      cases htaken.symm.trans hst
      cases hresult : (d.poll f.call x.watch.state).1 with
      | none =>
        -- There is no result yet, and the caller holds the call on.
        rw [Delegate.answer, hresult] at hc'
        exact (ih (h.step _) ⟨e, r, _, hc', rfl⟩).cons
      | some result =>
        rw [Delegate.answer, hresult] at hc'
        exact .ended [] ⟨e, r, call, hc, hst⟩ rfl hresult
          ((h.step _).run_done hc' rfl moves)
    | failed hcall herror =>
      cases hcall
      cases herror.symm.trans hst
    | dropped hcall hc' =>
      cases hcall
      rw [hst] at hc'
      exact .dropped [] ⟨e, r, call, hc, hst⟩ rfl ((h.step _).run_done hc' rfl moves)

/-! ### The close itself -/

theorem close_shut (h : x.InOrder) : (x.step d .close).Shut := by
  refine ⟨(step_inOrder h .close).1, ?_⟩
  show (x.queue.close d.watched x.watch).1.closed = true
  by_cases hopen : x.queue.closed = false
  · rw [Queue.close_eq hopen]
  · unfold Queue.close
    rw [if_pos (by simpa using hopen)]
    simpa using hopen

/-- A queue that is closed already stays as it is. -/
theorem close_again (hclosed : x.queue.closed = true) : x.step d .close = x := by
  have hsame : x.queue.close d.watched x.watch = (x.queue, x.watch) := by
    unfold Queue.close
    exact if_pos hclosed
  show (⟨_, _, _⟩ : Session κ σ) = x
  rw [hsame]

theorem close_offers (x : Session κ σ) :
    (x.step d .close).watch.offers = x.watch.offers := by
  show (x.queue.close d.watched x.watch).2.offers = _
  unfold Queue.close
  split <;> rfl

/-- Closing gives up every slot that is empty. -/
theorem get?_step_close (h : x.InOrder) (id : Nat) :
    (x.step d .close).queue.slots.get? id = (x.queue.slots.get? id).map Slot.givenUp := by
  by_cases hopen : x.queue.closed = false
  · exact Queue.get?_close h.accounts.sound hopen x.watch id
  · have hclosed : x.queue.closed = true := by simpa using hopen
    rw [close_again hclosed]
    have hempty := h.accounts.sound.get?_ne_empty (Shut.lanes_eq ⟨h, hclosed⟩) id
    rcases hslot : x.queue.slots.get? id with _ | (_ | _ | _)
    · rfl
    · exact absurd hslot hempty
    · rfl
    · rfl

/-- A call that waits is cancelled. -/
theorem close_waiting (h : x.InOrder) (hwaits : x.WaitsAt n) :
    ∃ c : Submission (Stamped κ), (x.step d .close).calls[n]? = some c ∧
      c.stage.standing (x.step d .close).queue.slots = .failed .cancelled := by
  obtain ⟨c, hc, id, hstage, hempty⟩ := hwaits
  refine ⟨c, hc, ?_⟩
  have hslot := get?_step_close (d := d) h id
  rw [hempty] at hslot
  rw [hstage]
  exact QueuedCall.standing_abandoned hslot

/-- A call that was taken is not concerned. -/
theorem close_holds (h : x.InOrder) {f : Stamped κ} (hheld : x.Holds n f) :
    (x.step d .close).Holds n f := by
  obtain ⟨e, r, call, hc, hst⟩ := hheld
  refine ⟨e, r, call, hc, ?_⟩
  cases call with
  | refused _ => cases hst
  | running _ => exact hst
  | waiting id =>
    have hslot := get?_step_close (d := d) h id
    simp only [QueuedCall.standing] at hst ⊢
    rw [hslot]
    rcases hs : x.queue.slots.get? id with _ | (_ | call | _) <;> rw [hs] at hst <;> cases hst
    rfl

/-! ### Answers to offers make no difference -/

theorem step_asking (d : Delegate κ σ) (ask : Endpoint → Request → σ → Option κ × σ)
    (hclosed : x.queue.closed = true) (m : Move σ) :
    x.step { d with offer := ask } m = x.step d m := by
  -- As far as the queue goes, this is another answer of the same backend.
  have hasking : ({ d with offer := ask } : Delegate κ σ).watched =
      d.watched.asking ({ d with offer := ask } : Delegate κ σ).watched.offer := rfl
  cases m with
  | submit e r =>
    show x.submit _ e r = x.submit d e r
    unfold submit
    rw [Queue.submit_closed _ e r _ hclosed, Queue.submit_closed _ e r _ hclosed]
  | poll n =>
    show x.poll _ n = x.poll d n
    unfold poll
    split
    · rw [hasking, Queue.poll_closed _ _ _ _ hclosed]
    · rfl
  | drop n =>
    show x.drop _ n = x.drop d n
    unfold drop
    split
    · rw [hasking, Queue.drop_closed _ _ _ _ hclosed]
    · rfl
  | fire =>
    show (⟨_, _, _⟩ : Session κ σ) = ⟨_, _, _⟩
    rw [hasking, Queue.fire_closed _ _ _ hclosed]
  | close => rw [close_again hclosed, close_again hclosed]
  | letGo => rfl
  | change f => rfl

theorem Shut.run_asking (h : x.Shut) (d : Delegate κ σ)
    (ask : Endpoint → Request → σ → Option κ × σ) (moves : List (Move σ)) :
    x.run { d with offer := ask } moves = x.run d moves := by
  induction moves generalizing x with
  | nil => rfl
  | cons m moves ih =>
    rw [run_cons, run_cons, step_asking d ask h.closed]
    exact ih (h.step m)

/-! ### Closing is final -/

/-- What a close is, where `x` is the session just before, and `after` is what happens
then. -/
structure Final (d : Delegate κ σ) (x : Session κ σ) (after : List (Move σ))
    (z : Session κ σ) : Prop where
  /-- Nothing is offered any more. -/
  unasked : z.watch.offers = x.watch.offers
  /-- The answers to offers make no difference. -/
  indifferent : ∀ ask, (x.step d .close).run { d with offer := ask } after = z
  len_eq : z.queue.len = 0
  /-- Another close changes nothing. -/
  again : z.step d .close = z
  /-- Every call that waited is cancelled, and so is every later one, -/
  cancelled : ∀ n, x.Meets n .waiting ∨ x.calls.length ≤ n ∧ n < z.calls.length →
    z.Meets n .cancelled
  /-- which its caller finds when it polls. -/
  told : ∀ (n : Nat) (e : Endpoint) (r : Request) (call : QueuedCall (Stamped κ)),
    z.calls[n]? = some ⟨e, r, .held call⟩ → z.Meets n .cancelled →
      (z.step d (.poll n)).calls[n]? =
        some ⟨e, r, .ended (.failed .cancelled) (.error .cancelled)⟩
  /-- What a caller holds is the call that was taken when its own was offered. -/
  own : ∀ n f, x.Holds n f → ∃ o : Offer, x.watch.offers[f.stamp]? = some o ∧ o.call = n ∧
    o.taken = true
  /-- A call that was taken before is held, or was answered by its host, or was dropped. -/
  taken : ∀ n f, x.Holds n f → Outcome d (x.step d .close) n f.stamp after
  /-- As long as its caller holds it, it is its host that answers. -/
  answered : ∀ n f, z.Holds n f → ∃ (e : Endpoint) (r : Request) (call : QueuedCall (Stamped κ)),
    z.calls[n]? = some ⟨e, r, .held call⟩ ∧
      (z.step d (.poll n)).calls[n]? = some ⟨e, r, d.answer f z.watch.state⟩
  /-- Until then it counts, -/
  inFlight_eq : z.queue.alive = true →
    z.queue.inFlight = z.calls.countP (·.isUnderWay z.queue.slots)
  underWay : ∀ n, (∃ c : Submission (Stamped κ), z.calls[n]? = some c ∧
    c.isUnderWay z.queue.slots = true) ↔ ∃ f, z.Holds n f
  /-- and nothing else does. -/
  before : ∀ n f, z.Holds n f → ∃ f₀, x.Holds n f₀ ∧ f₀.stamp = f.stamp

/-- A caller that polls the call that it holds. -/
theorem step_poll (d : Delegate κ σ) (h : x.InOrder) {e : Endpoint} {r : Request}
    {call : QueuedCall (Stamped κ)} (hc : x.calls[n]? = some ⟨e, r, .held call⟩) :
    ∃ (result : Option HostResult) (c' : QueuedCall (Stamped κ)) (q' : Queue (Stamped κ))
      (w' : Watched σ), Queue.Polls d.watched call x.queue x.watch result c' q' w' ∧
        (x.step d (.poll n)).calls[n]? =
          some ⟨e, r, afterPoll (call.standing x.queue.slots) c' result⟩ := by
  obtain ⟨rest, hheld⟩ := sound_of_held h.accounts.sound hc
  refine ⟨_, _, _, _, Queue.poll_polls d.watched_quiet hheld h.idle x.watch, ?_⟩
  show (x.poll d n).calls[n]? = _
  unfold poll
  rw [hc]
  exact List.getElem?_set_self (List.getElem?_eq_some_iff.mp hc).1

theorem isTaken_iff {slots : Table Nat (Slot κ)} {call : QueuedCall κ} :
    call.isTaken slots = true ↔ ∃ f, call.standing slots = .taken f := by
  cases call with
  | refused _ => simp [QueuedCall.standing]
  | running f => simp [QueuedCall.standing]
  | waiting id =>
    rw [Queue.isTaken_waiting, QueuedCall.standing]
    rcases slots.get? id with _ | (_ | f | _) <;> simp [Slot.isFilled, Slot.standing]

/-- The calls that count as under way are those that are taken and that callers hold. -/
theorem underWay_iff : (∃ c : Submission (Stamped κ), x.calls[n]? = some c ∧
    c.isUnderWay x.queue.slots = true) ↔ ∃ f, x.Holds n f := by
  constructor
  · rintro ⟨⟨e, r, stage⟩, hc, hway⟩
    cases stage with
    | held call =>
      obtain ⟨f, hst⟩ := isTaken_iff.mp hway
      exact ⟨f, e, r, call, hc, hst⟩
    | ended _ _ => cases hway
    | dropped _ => cases hway
  · rintro ⟨f, e, r, call, hc, hst⟩
    exact ⟨_, hc, isTaken_iff.mpr ⟨f, hst⟩⟩

/-- What is held after a close was held before, since the offer at which it was taken is an
old one. -/
theorem close_before (h : x.InOrder) (after : List (Move σ)) {f : Stamped κ}
    (hheld : ((x.step d .close).run d after).Holds n f) :
    ∃ f₀, x.Holds n f₀ ∧ f₀.stamp = f.stamp := by
  have hy : (x.step d .close).Shut := close_shut h
  obtain ⟨e, r, call, hc, hst⟩ := hheld
  have hledger := (hy.run after).inOrder.accounts.books.ledger n _ hc
  have hstage : (Stage.held call).standing ((x.step d .close).run d after).queue.slots =
      .taken f := hst
  rw [hstage, hy.run_offers, close_offers] at hledger
  obtain ⟨o, hget, rfl, htaken, -⟩ := hledger
  obtain ⟨⟨e₀, r₀, stage₀⟩, hc₀, -⟩ := h.accounts.books.offered o (List.mem_of_getElem? hget)
  obtain ⟨⟨f₀, hst₀, hstamp⟩, -⟩ := taken_of_offer h hget htaken hc₀
  cases stage₀ with
  | held call₀ => exact ⟨f₀, ⟨e₀, r₀, call₀, hc₀, hst₀⟩, hstamp⟩
  | ended _ _ =>
    have hdone := hy.run_done (d := d) hc₀ rfl after
    rw [hc] at hdone
    cases hdone
  | dropped _ =>
    have hdone := hy.run_done (d := d) hc₀ rfl after
    rw [hc] at hdone
    cases hdone

/-- In every run a close is final, whatever happens after it. -/
theorem run_close_final (d : Delegate κ σ) (timed : Bool) (s : σ) (before after : List (Move σ)) :
    Final d ((start timed s : Session κ σ).run d before) after
      ((((start timed s : Session κ σ).run d before).step d .close).run d after) := by
  have hx := run_inOrder (d := d) (start_inOrder timed s) before
  generalize (start timed s : Session κ σ).run d before = x at hx
  have hy : (x.step d .close).Shut := close_shut hx
  have hz : ((x.step d .close).run d after).Shut := hy.run after
  have hsound := hz.inOrder.accounts.sound
  refine
    { unasked := (hy.run_offers after).trans (close_offers x)
      indifferent := fun ask => hy.run_asking d ask after
      len_eq := hsound.lanes_eq_nil.mp hz.lanes_eq
      again := close_again hz.closed
      cancelled := ?_
      told := ?_
      own := ?_
      taken := fun n f hheld => hy.run_outcome (close_holds hx hheld) after
      answered := ?_
      inFlight_eq := fun halive => by rw [hsound.inFlight_eq halive, countP_isUnderWay]
      underWay := fun n => underWay_iff
      before := fun n f hheld => close_before hx after hheld }
  · rintro n (hwaits | ⟨hle, hlt⟩)
    · obtain ⟨c, hc, hst⟩ := close_waiting (d := d) hx ((meets_waiting_iff hx).mp hwaits)
      obtain ⟨c', hc', hst'⟩ := hy.run_failed hc hst after
      exact (meets_cancelled_iff hz.inOrder hc').mpr hst'
    · obtain ⟨c, hc, hst⟩ := hy.run_later after hle hlt
      exact (meets_cancelled_iff hz.inOrder hc).mpr hst
  · intro n e r call hc hcancelled
    have hst : call.standing ((x.step d .close).run d after).queue.slots = .failed .cancelled :=
      (meets_cancelled_iff hz.inOrder hc).mp hcancelled
    obtain ⟨result, c', q', w', hpolls, hstep⟩ := step_poll d hz.inOrder hc
    rw [hstep, hst, hpolls.fails hst]
    rfl
  · rintro n f ⟨e, r, call, hc, hst⟩
    have hledger := hx.accounts.books.ledger n _ hc
    have hstage : (Stage.held call).standing x.queue.slots = .taken f := hst
    rw [hstage] at hledger
    obtain ⟨o, hget, hcall, htaken, -⟩ := hledger
    exact ⟨o, hget, hcall, htaken⟩
  · rintro n f ⟨e, r, call, hc, hst⟩
    obtain ⟨result, c', q', w', hpolls, hstep⟩ := step_poll d hz.inOrder hc
    refine ⟨e, r, call, hc, ?_⟩
    rw [hstep, hpolls.answers hst]

/-- One of two calls passes the gate, and then the queue is closed. The other one is cancelled,
and so is a third one that comes later. -/
example :
    let x : Session Unit Gate := (start true ⟨1, .fifo⟩).run gate
      [.submit (catalog "list") (.blank 0), .submit (catalog "get") (.blank 4), .close,
        .submit (catalog "list") (.blank 8), .poll 0, .poll 1, .poll 2]
    (x.calls.map fun c => match c.stage with
      | .ended _ (.error .cancelled) => true
      | _ => false) = [false, true, true] ∧ x.queue.inFlight = 1 := by
  decide +kernel

end Session

end RpcPipeline
