import RpcPipeline.Proofs.Queue.Pass

/-!
# `RpcPipeline.Proofs.Queue.Calls`: the life of a call at the queue

A caller submits a call, polls it or drops it; a timer goes off; the queue is closed
or let go. For each of these there is a relation that lists what can happen, with one
constructor for each way, and a theorem that the operation does one of those things:
`submit_submits` (with `Queue.Submits`) stands next to passes, and here follow

* `leave_leaves`: a call that was taken ends (`Queue.Leaves`).
* `poll_polls`: a caller polls (`Queue.Polls`).
* `drop_drops`: a caller gives up (`Queue.Drops`).
* `fire_fires`: a timer goes off (`Queue.Fires`).

The relations keep `Queue.Sound` (`Submits.sound`, `Leaves.sound`, `Polls.sound`,
`Drops.sound`, `Fires.sound`), and no pass runs once an operation is over.
-/

set_option autoImplicit false

namespace RpcPipeline

namespace Queue

variable {κ σ : Type}

/-- A call that was taken has ended or was dropped. The queue makes a pass, if it is
still there. -/
inductive Leaves (b : Backend κ σ) (q : Queue κ) (s : σ) : Queue κ → σ → Prop where
  | counted {q' : Queue κ} {s' : σ} (halive : q.alive = true)
      (hround : Round b { q with inFlight := q.inFlight - 1 } s q' s') : Leaves b q s q' s'
  | uncounted (hdead : q.alive = false) : Leaves b q s q s

/-- A caller polls its call. -/
inductive Polls (b : Backend κ σ) :
    QueuedCall κ → Queue κ → σ → Option HostResult → QueuedCall κ → Queue κ → σ → Prop where
  | refused {e : CallError} {q : Queue κ} {s : σ} :
      Polls b (.refused e) q s (some (.error e)) (.refused e) q s
  | pending {call call' : κ} {q : Queue κ} {s s' : σ} (hpoll : b.poll call s = (none, call', s')) :
      Polls b (.running call) q s none (.running call') q s'
  | ended {call call' : κ} {result : HostResult} {q q' : Queue κ} {s s' s'' : σ}
      (hpoll : b.poll call s = (some result, call', s')) (hleaves : Leaves b q s' q' s'') :
      Polls b (.running call) q s (some result) (.running call') q' s''
  | unready {id : Nat} {q : Queue κ} {s : σ} (hslot : q.slots.get? id = some .empty) :
      Polls b (.waiting id) q s none (.waiting id) q s
  | collected {id : Nat} {call : κ} {result : Option HostResult} {c' : QueuedCall κ}
      {q q' : Queue κ} {s s' : σ} (hslot : q.slots.get? id = some (.filled call))
      (hpolls : Polls b (.running call) { q with slots := q.slots.erase id } s result c' q' s') :
      Polls b (.waiting id) q s result c' q' s'
  | abandoned {id : Nat} {q : Queue κ} {s : σ} (hslot : q.slots.get? id = some .abandoned) :
      Polls b (.waiting id) q s (some (.error .cancelled)) (.waiting id)
        { q with slots := q.slots.erase id } s

/-- A caller drops its call. -/
inductive Drops (b : Backend κ σ) : QueuedCall κ → Queue κ → σ → Queue κ → σ → Prop where
  | refused {e : CallError} {q : Queue κ} {s : σ} : Drops b (.refused e) q s q s
  | running {call : κ} {q q' : Queue κ} {s s' : σ} (hleaves : Leaves b q (b.drop call s) q' s') :
      Drops b (.running call) q s q' s'
  | withdrawn {id : Nat} {q : Queue κ} {s : σ} (hslot : q.slots.get? id = some .empty) :
      Drops b (.waiting id) q s
        { q with lanes := q.lanes.remove id, len := q.len - 1, slots := q.slots.erase id }
        (b.report (q.len - 1) s)
  | collected {id : Nat} {call : κ} {q q' : Queue κ} {s s' : σ}
      (hslot : q.slots.get? id = some (.filled call))
      (hdrops : Drops b (.running call) { q with slots := q.slots.erase id } s q' s') :
      Drops b (.waiting id) q s q' s'
  | abandoned {id : Nat} {q : Queue κ} {s : σ} (hslot : q.slots.get? id = some .abandoned) :
      Drops b (.waiting id) q s { q with slots := q.slots.erase id } s

/-- It may be time for a timer. -/
inductive Fires (b : Backend κ σ) (q : Queue κ) (s : σ) : Queue κ → σ → Prop where
  | early (hdue : q.isDue (b.now s) = false) : Fires b q s q s
  | spent (hdue : q.isDue (b.now s) = true) (hshut : q.closed = true ∨ q.alive = false) :
      Fires b q s (q.ring (b.now s)) s
  | rung {q' : Queue κ} {s' : σ} (hdue : q.isDue (b.now s) = true) (hopen : q.closed = false)
      (halive : q.alive = true) (hround : Round b (q.ring (b.now s)) s q' s') : Fires b q s q' s'

variable {b : Backend κ σ} {q q' : Queue κ} {s s' : σ} {live : List (QueuedCall κ)}

/-! ### The operations do one of these things -/

theorem leave_leaves {call : κ} (hb : b.Quiet) (hq : q.Sound (.running call :: live))
    (hr : q.running = false) (s : σ) : Leaves b q s (leave b q s).1 (leave b q s).2 := by
  unfold leave
  by_cases halive : q.alive = true
  · rw [if_pos halive]
    exact .counted halive (trigger_round hb hq.release hr s)
  · rw [if_neg halive]
    exact .uncounted (by simpa using halive)

theorem pollTaken_polls {call : κ} (hb : b.Quiet) (hq : q.Sound (.running call :: live))
    (hr : q.running = false) (s : σ) :
    Polls b (.running call) q s (pollTaken b call q s).1 (pollTaken b call q s).2.1
      (pollTaken b call q s).2.2.1 (pollTaken b call q s).2.2.2 := by
  unfold pollTaken
  rcases hpoll : b.poll call s with ⟨result, call', s'⟩
  cases result with
  | none => exact .pending hpoll
  | some result => exact .ended hpoll (leave_leaves hb hq hr s')

theorem poll_polls {c : QueuedCall κ} (hb : b.Quiet) (hq : q.Sound (c :: live))
    (hr : q.running = false) (s : σ) :
    Polls b c q s (poll b c q s).1 (poll b c q s).2.1 (poll b c q s).2.2.1
      (poll b c q s).2.2.2 := by
  cases c with
  | refused e => exact .refused
  | running call => exact pollTaken_polls hb hq hr s
  | waiting id =>
    obtain ⟨slot, hslot⟩ := hq.exists_slot
    unfold poll
    cases slot with
    | empty =>
      simp only [hslot]
      exact .unready hslot
    | filled call =>
      simp only [hslot]
      exact .collected hslot (pollTaken_polls hb (hq.collect hslot) hr s)
    | abandoned =>
      simp only [hslot]
      exact .abandoned hslot

/-- A call that waits is withdrawn, and that is reported. -/
theorem withdraw_eq (b : Backend κ σ) (id : Nat) (q : Queue κ) (s : σ) :
    withdraw b id q s =
      if q.lanes.has id then
        ({ q with lanes := q.lanes.remove id, len := q.len - 1 }, b.report (q.len - 1) s)
      else (q, s) := by
  unfold withdraw WaitingRoom.remove?
  cases q.lanes.has id <;> rfl

theorem drop_drops {c : QueuedCall κ} (hb : b.Quiet) (hq : q.Sound (c :: live))
    (hr : q.running = false) (s : σ) :
    Drops b c q s (drop b c q s).1 (drop b c q s).2 := by
  cases c with
  | refused e => exact .refused
  | running call => exact .running (leave_leaves hb hq hr _)
  | waiting id =>
    obtain ⟨slot, hslot⟩ := hq.exists_slot
    unfold drop
    -- The call stands in a lane exactly if its slot is empty.
    have hhas : q.lanes.has id = true ↔ slot = .empty := by
      rw [Lanes.has_iff, hq.awaits, hslot, Option.some.injEq]
    cases slot with
    | empty =>
      simp only [withdraw_eq, hhas.mpr rfl, if_true, hslot]
      exact .withdrawn hslot
    | filled call =>
      have hnot : q.lanes.has id = false := by simpa using hhas
      simp only [withdraw_eq, hnot, Bool.false_eq_true, if_false, hslot]
      exact .collected hslot (.running (leave_leaves hb (hq.collect hslot) hr _))
    | abandoned =>
      have hnot : q.lanes.has id = false := by simpa using hhas
      simp only [withdraw_eq, hnot, Bool.false_eq_true, if_false, hslot]
      exact .abandoned hslot

/-- A timer that goes off leaves lanes, slots and counters alone. -/
theorem Sound.ring (h : q.Sound live) (now : Instant) : (q.ring now).Sound live := h.reflag ..

theorem fire_fires (hb : b.Quiet) (hq : q.Sound live) (hr : q.running = false) (s : σ) :
    Fires b q s (fire b q s).1 (fire b q s).2 := by
  unfold fire
  cases hdue : q.isDue (b.now s) with
  | false =>
    rw [if_neg (by simp)]
    exact .early hdue
  | true =>
    rw [if_pos rfl]
    by_cases hshut : q.closed = true ∨ q.alive = false
    · have hif : ((q.ring (b.now s)).closed || !(q.ring (b.now s)).alive) = true := by
        simpa [Queue.ring] using hshut
      simp only [hif, if_true]
      exact .spent hdue hshut
    · have hif : ((q.ring (b.now s)).closed || !(q.ring (b.now s)).alive) = false := by
        simpa [Queue.ring] using hshut
      simp only [hif, Bool.false_eq_true, if_false]
      have hopen : q.closed = false ∧ q.alive = true := by simpa using hshut
      exact .rung hdue hopen.1 hopen.2 (trigger_round hb (hq.ring _) hr s)

/-! ### They keep the queue sound -/

theorem Submits.sound {e : Endpoint} {r : Request} {c : QueuedCall κ}
    (h : Submits b e r q s c q' s') (hq : q.Sound live) (hr : q.running = false)
    (ha : q.alive = true) : q'.Sound (c :: live) ∧ q'.running = false := by
  cases h with
  | closed => exact ⟨hq.refused _, hr⟩
  | direct => exact ⟨hq.direct _, hr⟩
  | full => exact ⟨hq.skip.refused _, hr⟩
  | queued hopen _ _ hround =>
    exact ⟨hround.sound (hq.enqueue hopen ha _ e r), hround.flags.1⟩

theorem Leaves.sound {call : κ} (h : Leaves b q s q' s') (hq : q.Sound (.running call :: live))
    (hr : q.running = false) : q'.Sound live ∧ q'.running = false := by
  cases h with
  | counted _ hround => exact ⟨hround.sound hq.release, hround.flags.1⟩
  | uncounted hdead => exact ⟨hq.release_of_dead hdead, hr⟩

/-- A call that has ended is no longer in the hands of its caller. -/
theorem Polls.sound {c c' : QueuedCall κ} {result : Option HostResult}
    (h : Polls b c q s result c' q' s') (hq : q.Sound (c :: live)) (hr : q.running = false) :
    q'.Sound (if result.isSome then live else c' :: live) ∧ q'.running = false := by
  induction h generalizing live with
  | refused => exact ⟨hq.of_refused, hr⟩
  | pending => exact ⟨hq.proceed, hr⟩
  | ended _ hleaves => exact hleaves.sound hq hr
  | unready => exact ⟨hq, hr⟩
  | collected hslot _ ih => exact ih (hq.collect hslot) hr
  | abandoned hslot => exact ⟨hq.forget hslot, hr⟩

theorem Drops.sound {c : QueuedCall κ} (h : Drops b c q s q' s') (hq : q.Sound (c :: live))
    (hr : q.running = false) : q'.Sound live ∧ q'.running = false := by
  induction h generalizing live with
  | refused => exact ⟨hq.of_refused, hr⟩
  | running hleaves => exact hleaves.sound hq hr
  | withdrawn hslot => exact ⟨hq.withdraw hslot, hr⟩
  | collected hslot _ ih => exact ih (hq.collect hslot) hr
  | abandoned hslot => exact ⟨hq.forget hslot, hr⟩

theorem Fires.sound (h : Fires b q s q' s') (hq : q.Sound live) (hr : q.running = false) :
    q'.Sound live ∧ q'.running = false := by
  cases h with
  | early => exact ⟨hq, hr⟩
  | spent => exact ⟨hq.ring _, hr⟩
  | rung _ _ _ hround => exact ⟨hround.sound (hq.ring _), hround.flags.1⟩

/-! ### They do not end the queue -/

theorem Leaves.ends (h : Leaves b q s q' s') : q'.closed = q.closed ∧ q'.alive = q.alive := by
  cases h with
  | counted _ hround => exact hround.ends
  | uncounted => exact ⟨rfl, rfl⟩

theorem Submits.ends {e : Endpoint} {r : Request} {c : QueuedCall κ}
    (h : Submits b e r q s c q' s') : q'.closed = q.closed ∧ q'.alive = q.alive := by
  cases h with
  | closed => exact ⟨rfl, rfl⟩
  | direct => exact ⟨rfl, rfl⟩
  | full => exact ⟨rfl, rfl⟩
  | queued _ _ _ hround => exact hround.ends

theorem Polls.ends {c c' : QueuedCall κ} {result : Option HostResult}
    (h : Polls b c q s result c' q' s') : q'.closed = q.closed ∧ q'.alive = q.alive := by
  induction h with
  | refused => exact ⟨rfl, rfl⟩
  | pending => exact ⟨rfl, rfl⟩
  | ended _ hleaves => exact hleaves.ends
  | unready => exact ⟨rfl, rfl⟩
  | collected _ _ ih => exact ih
  | abandoned => exact ⟨rfl, rfl⟩

theorem Drops.ends {c : QueuedCall κ} (h : Drops b c q s q' s') :
    q'.closed = q.closed ∧ q'.alive = q.alive := by
  induction h with
  | refused => exact ⟨rfl, rfl⟩
  | running hleaves => exact hleaves.ends
  | withdrawn => exact ⟨rfl, rfl⟩
  | collected _ _ ih => exact ih
  | abandoned => exact ⟨rfl, rfl⟩

theorem Fires.ends (h : Fires b q s q' s') : q'.closed = q.closed ∧ q'.alive = q.alive := by
  cases h with
  | early => exact ⟨rfl, rfl⟩
  | spent => exact ⟨rfl, rfl⟩
  | rung _ _ _ hround => exact hround.ends

/-! ### No slot becomes empty again -/

/-- A slot that is empty after a pass was empty before. -/
theorem Round.wasEmpty (h : Round b q s q' s') (hq : q.Sound live) {id : Nat}
    (he : q'.slots.get? id = some .empty) : q.slots.get? id = some .empty := by
  rcases h.get?_slots hq id with hsame | ⟨hempty, -⟩
  · rw [← hsame, he]
  · exact hempty

theorem Leaves.wasEmpty {call : κ} (h : Leaves b q s q' s')
    (hq : q.Sound (.running call :: live)) {id : Nat}
    (he : q'.slots.get? id = some .empty) : q.slots.get? id = some .empty := by
  cases h with
  | counted _ hround => exact hround.wasEmpty hq.release he
  | uncounted => exact he

theorem wasEmpty_of_erase {slots : Table Nat (Slot κ)} {id id' : Nat}
    (he : (slots.erase id').get? id = some .empty) : slots.get? id = some .empty := by
  rw [Table.get?_erase] at he
  split at he
  · cases he
  · exact he

theorem Polls.wasEmpty {c c' : QueuedCall κ} {result : Option HostResult}
    (h : Polls b c q s result c' q' s') (hq : q.Sound (c :: live)) {id : Nat}
    (he : q'.slots.get? id = some .empty) : q.slots.get? id = some .empty := by
  induction h generalizing live with
  | refused => exact he
  | pending => exact he
  | ended _ hleaves => exact hleaves.wasEmpty hq he
  | unready => exact he
  | collected hslot _ ih => exact wasEmpty_of_erase (ih (hq.collect hslot) he)
  | abandoned => exact wasEmpty_of_erase he

theorem Drops.wasEmpty {c : QueuedCall κ} (h : Drops b c q s q' s') (hq : q.Sound (c :: live))
    {id : Nat} (he : q'.slots.get? id = some .empty) : q.slots.get? id = some .empty := by
  induction h generalizing live with
  | refused => exact he
  | running hleaves => exact hleaves.wasEmpty hq he
  | withdrawn => exact wasEmpty_of_erase he
  | collected hslot _ ih => exact wasEmpty_of_erase (ih (hq.collect hslot) he)
  | abandoned => exact wasEmpty_of_erase he

theorem Fires.wasEmpty (h : Fires b q s q' s') (hq : q.Sound live) {id : Nat}
    (he : q'.slots.get? id = some .empty) : q.slots.get? id = some .empty := by
  cases h with
  | early => exact he
  | spent => exact he
  | rung _ _ _ hround => exact hround.wasEmpty (hq.ring _) he

/-- A new call has the only slot that becomes empty. -/
theorem Submits.wasEmpty {e : Endpoint} {r : Request} {c : QueuedCall κ}
    (h : Submits b e r q s c q' s') (hq : q.Sound live) (ha : q.alive = true) {id : Nat}
    (hid : id ≠ q.nextId) (he : q'.slots.get? id = some .empty) :
    q.slots.get? id = some .empty := by
  cases h with
  | closed => exact he
  | direct => exact he
  | full => exact he
  | queued hopen _ _ hround =>
    have hinsert : (q.slots.insert q.nextId .empty).get? id = some .empty :=
      hround.wasEmpty (hq.enqueue hopen ha _ e r) he
    rwa [Table.get?_insert, if_neg hid] at hinsert

/-- A caller that waits after a poll waited before. -/
theorem Polls.waited {c : QueuedCall κ} {id : Nat}
    (h : Polls b c q s none (.waiting id) q' s') : c = .waiting id := by
  cases h with
  | unready => rfl
  | collected _ hpolls => cases hpolls

/-! ### The end of the queue -/

/-- Closing gives up what waits. -/
theorem get?_close (hq : q.Sound live) (hopen : q.closed = false) (s : σ) (id : Nat) :
    (close b q s).1.slots.get? id = (q.slots.get? id).map Slot.givenUp := by
  unfold close
  rw [if_neg (by simp [hopen])]
  exact get?_abandonAll (q := { q with closed := true }) hq.awaits id

/-- Closing an open queue touches lanes, count, slots and the flag. -/
theorem close_eq (hopen : q.closed = false) (s : σ) :
    close b q s =
      ({ q with lanes := [], len := 0, slots := (close b q s).1.slots, closed := true },
        b.report 0 s) := by
  unfold close
  rw [if_neg (by simp [hopen])]
  exact congrArg (fun q => (q, b.report 0 s)) (abandonAll_eq { q with closed := true })

theorem close_sound (hq : q.Sound live) (b : Backend κ σ) (s : σ) :
    (close b q s).1.Sound live := by
  by_cases hopen : q.closed = false
  · refine hq.givenUp (get?_close hq hopen s) ?_ ?_ <;> rw [close_eq hopen]
    · exact ⟨rfl, rfl, rfl, rfl⟩
    · exact id
  · have hsame : close b q s = (q, s) := by
      unfold close
      rw [if_pos (by simpa using hopen)]
    rw [hsame]
    exact hq

theorem close_flags (b : Backend κ σ) (q : Queue κ) (s : σ) :
    (close b q s).1.running = q.running ∧ (close b q s).1.alive = q.alive := by
  by_cases hopen : q.closed = false
  · rw [close_eq hopen]
    exact ⟨rfl, rfl⟩
  · unfold close
    rw [if_pos (by simpa using hopen)]
    exact ⟨rfl, rfl⟩

/-- Letting the queue go gives up what waits. -/
theorem get?_die (hq : q.Sound live) (id : Nat) :
    q.die.slots.get? id = (q.slots.get? id).map Slot.givenUp :=
  get?_abandonAll hq.awaits id

theorem die_eq (q : Queue κ) :
    q.die = { q with lanes := [], len := 0, slots := q.die.slots, alive := false } := by
  show { q.abandonAll with alive := false } = _
  rw [abandonAll_eq]
  rfl

theorem die_sound (hq : q.Sound live) : q.die.Sound live := by
  refine hq.givenUp (get?_die hq) ?_ ?_ <;> rw [die_eq]
  · exact ⟨rfl, rfl, rfl, rfl⟩
  · intro h
    cases h

end Queue

end RpcPipeline
