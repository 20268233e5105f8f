import RpcPipeline.Proofs.Queue.Fairness
import RpcPipeline.Proofs.Queue.Progress

/-!
# `RpcPipeline.Proofs.Queue.Withdrawal`: withdrawing a call makes no pass

A pass goes on until the next call is refused or none is left. So right after a pass, the
call that is next is one that would be refused. It stays so as long as the answers of the
delegate do not change, and for a delegate that looks at nothing but the call and at which
calls it has taken and are unfinished (`Delegate.Judges`), they change only where a pass
follows. One thing is left that can unblock a queue: a caller withdraws the very call that
is next. That makes no pass. The calls behind it wait for the next one.

* `Delegate.RefusesNext`: nothing waits, or the next call would be refused.
* `Queue.Settles`: an operation leaves the queue blocked, or else it made no pass and the
  queue was not blocked before.
* `step_settles`: every move settles the queue, other than the withdrawal of the next call.
* `run_withdrawal`: what a withdrawal comes to, in every run (`Session.Withdrawal`).
* `withdrawal_strands`: a run in which it leaves a call waiting that would be taken.
-/

set_option autoImplicit false

namespace RpcPipeline

variable {κ σ ν : Type}

namespace Lanes

variable {ls rest : Lanes} {w : Waiter}

/-- Whoever is next stays next when another call leaves. -/
theorem pop_remove {id : Nat} (hp : ls.pop = some (w, rest)) (hid : w.id ≠ id) :
    ∃ rest', (ls.remove id).pop = some (w, rest') := by
  obtain ⟨key, ws, ls', rfl⟩ := front_of_pop hp
  -- The front lane keeps its head, so it is not one that goes.
  have hremove : remove id (⟨key, w :: ws⟩ :: ls') =
      ⟨key, w :: ws.filter (·.id ≠ id)⟩ :: remove id ls' := by
    simp [remove, hid]
  rw [hremove]
  exact pop_cons _ _ _ _

end Lanes

namespace Delegate

/-- Nothing waits, or the call that is next is one that the delegate would refuse. -/
def RefusesNext (d : Delegate κ σ) (ls : Lanes) (s : σ) : Prop :=
  ∀ w rest, ls.pop = some (w, rest) → (d.offer w.endpoint w.request s).1 = none

/-- The answers of a delegate depend on nothing but the call that is offered and a view of
its state, and that changes only when a call is taken, ends or is dropped. Which of the calls
that it has taken are unfinished is such a view. -/
structure Judges (d : Delegate κ σ) (view : σ → ν)
    (admits : Endpoint → Request → ν → Bool) : Prop where
  answer : ∀ e r s, (d.offer e r s).1.isSome = admits e r (view s)
  refused : ∀ {e r s s'}, d.offer e r s = (none, s') → view s' = view s
  pending : ∀ {c c' s s'}, d.poll c s = (none, c', s') → view s' = view s
  report : ∀ n s, view (d.report n s) = view s

variable {d : Delegate κ σ} {view : σ → ν} {admits : Endpoint → Request → ν → Bool}
  {ls ls' : Lanes} {s s' : σ}

theorem refusesNext_nil (d : Delegate κ σ) (s : σ) : d.RefusesNext [] s := by
  intro w rest hp
  cases hp

/-- A refusal is one for every state that looks the same. -/
theorem Judges.refuses (hd : d.Judges view admits) (hview : view s' = view s) {e : Endpoint}
    {r : Request} (h : (d.offer e r s).1 = none) : (d.offer e r s').1 = none := by
  rw [← Option.isNone_iff_eq_none, ← Option.not_isSome, hd.answer, hview, ← hd.answer,
    Option.not_isSome, Option.isNone_iff_eq_none]
  exact h

/-- The same call is next, or none, and the delegate looks the same. -/
theorem Judges.refusesNext (hd : d.Judges view admits) (hview : view s' = view s)
    (hnext : ∀ w rest', ls'.pop = some (w, rest') → ∃ rest, ls.pop = some (w, rest))
    (h : d.RefusesNext ls s) : d.RefusesNext ls' s' := by
  intro w rest' hp
  obtain ⟨rest, hp'⟩ := hnext w rest' hp
  exact hd.refuses hview (h w rest hp')

end Delegate

namespace Queue

variable {d : Delegate κ σ} {view : σ → ν} {admits : Endpoint → Request → ν → Bool}
  {q q' : Queue (Stamped κ)} {w w' : Watched σ} {live : List (QueuedCall (Stamped κ))}

/-- An operation leaves the queue blocked, or else it made no pass, and the queue was not
blocked before. -/
def Settles (d : Delegate κ σ) (q : Queue (Stamped κ)) (w : Watched σ) (q' : Queue (Stamped κ))
    (w' : Watched σ) : Prop :=
  d.RefusesNext q'.lanes w'.state ∨
    q'.rounds = q.rounds ∧ ¬ d.RefusesNext q.lanes w.state

/-- Where nothing waits afterwards, there is nothing to show. -/
theorem Settles.of_nil (hlanes : q'.lanes = []) : Settles d q w q' w' := by
  refine .inl ?_
  rw [hlanes]
  exact d.refusesNext_nil _

/-- An operation that makes no pass does no harm as long as the same call stays next and the
delegate looks the same. -/
theorem Settles.of_next (hd : d.Judges view admits) (hview : view w'.state = view w.state)
    (hrounds : q'.rounds = q.rounds)
    (hnext : ∀ v rest', q'.lanes.pop = some (v, rest') → ∃ rest, q.lanes.pop = some (v, rest)) :
    Settles d q w q' w' := by
  by_cases hrefuses : d.RefusesNext q.lanes w.state
  · exact .inl (hd.refusesNext hview hnext hrefuses)
  · exact .inr ⟨hrounds, hrefuses⟩

theorem Settles.of_same (hd : d.Judges view admits) (hview : view w'.state = view w.state)
    (hrounds : q'.rounds = q.rounds) (hlanes : q'.lanes = q.lanes) : Settles d q w q' w' := by
  refine .of_next hd hview hrounds fun v rest' hp => ⟨rest', ?_⟩
  rw [← hlanes]
  exact hp

/-! ### Passes -/

/-- A pass ends with a refusal, or when nothing is left. -/
theorem Serves.refusesNext {fairness : Fairness} {stalled : Bool}
    (h : Serves d.watched fairness q w stalled q' w') (hd : d.Judges view admits) :
    d.RefusesNext q'.lanes w'.state := by
  induction h with
  | done hpop =>
    intro v rest hp
    rw [hpop] at hp
    cases hp
  | @refused q w w' v rest hpop hoffer =>
    intro v' rest' hp
    obtain ⟨left, hrestore⟩ := Lanes.pop_restore fairness v rest
    cases hrestore.symm.trans hp
    -- The call that went back is the one that was refused just now.
    simp only [Delegate.watched, Delegate.watchedOffer] at hoffer
    rcases hanswer : d.offer v.endpoint v.request w.state with ⟨_ | c, s⟩ <;>
      rw [hanswer] at hoffer <;> cases hoffer
    exact hd.refuses (hd.refused hanswer) (congrArg Prod.fst hanswer)
  | taken _ _ _ ih => exact ih

theorem Round.refusesNext (h : Round d.watched q w q' w') (hd : d.Judges view admits) :
    d.RefusesNext q'.lanes w'.state := by
  obtain ⟨stalled, mid, w₁, hserves, rfl, rfl⟩ := h
  rw [endPass_eq]
  exact hd.refusesNext (hd.report mid.len w₁.state) (fun v rest hp => ⟨rest, hp⟩)
    (hserves.refusesNext hd)

/-! ### Operations -/

/-- When a call that was taken ends or is dropped, the pass that follows blocks the queue. -/
theorem Leaves.refusesNext {f : Stamped κ} (h : Leaves d.watched q w q' w')
    (hq : q.Sound (.running f :: live)) (hd : d.Judges view admits) :
    d.RefusesNext q'.lanes w'.state := by
  cases h with
  | counted _ hround => exact hround.refusesNext hd
  | uncounted hdead =>
    rw [hq.shut (.inr hdead)]
    exact d.refusesNext_nil _

theorem Polls.settles {c c' : QueuedCall (Stamped κ)} {result : Option HostResult}
    (h : Polls d.watched c q w result c' q' w') (hq : q.Sound (c :: live))
    (hd : d.Judges view admits) : Settles d q w q' w' := by
  induction h generalizing live with
  | refused => exact .of_same hd rfl rfl rfl
  | @pending f f' q w w' hpoll =>
    refine .of_same hd ?_ rfl rfl
    -- A call that goes on leaves the view of the delegate as it is.
    simp only [Delegate.watched] at hpoll
    rcases hanswer : d.poll f.call w.state with ⟨answer, call', s'⟩
    rw [hanswer] at hpoll
    cases hpoll
    exact hd.pending hanswer
  | ended _ hleaves => exact .inl (hleaves.refusesNext hq hd)
  | unready => exact .of_same hd rfl rfl rfl
  | collected hslot _ ih => exact ih (hq.collect hslot)
  | abandoned => exact .of_same hd rfl rfl rfl

/-- Dropping a call settles the queue, unless that call waits and is next. -/
theorem Drops.settles {c : QueuedCall (Stamped κ)} (h : Drops d.watched c q w q' w')
    (hq : q.Sound (c :: live)) (hd : d.Judges view admits)
    (hnext : ∀ id v rest, c = .waiting id → q.lanes.pop = some (v, rest) → v.id ≠ id) :
    Settles d q w q' w' := by
  induction h generalizing live with
  | refused => exact .of_same hd rfl rfl rfl
  | running hleaves =>
    refine .inl (hleaves.refusesNext hq hd)
  | @withdrawn id q w hslot =>
    refine .of_next hd (hd.report (q.len - 1) w.state) rfl fun v rest' hp => ?_
    have hne : q.lanes ≠ [] := by
      intro hnil
      have hp' : (q.lanes.remove id).pop = some (v, rest') := hp
      rw [hnil] at hp'
      cases hp'
    obtain ⟨u, rest, hpop⟩ := Lanes.exists_pop hq.occupied hne
    obtain ⟨left, hstill⟩ := Lanes.pop_remove hpop (hnext id u rest rfl hpop)
    cases hstill.symm.trans hp
    exact ⟨rest, hpop⟩
  | collected hslot _ ih =>
    exact ih (hq.collect hslot) fun id v rest hrunning => by cases hrunning
  | abandoned => exact .of_same hd rfl rfl rfl

/-- A caller that withdraws a call takes it out of its lane and does nothing else. -/
theorem Drops.of_empty {b : Backend κ σ} {q q' : Queue κ} {s s' : σ} {id : Nat}
    (h : Drops b (.waiting id) q s q' s') (hslot : q.slots.get? id = some .empty) :
    q' = { q with lanes := q.lanes.remove id, len := q.len - 1, slots := q.slots.erase id } ∧
      s' = b.report (q.len - 1) s := by
  cases h with
  | withdrawn => exact ⟨rfl, rfl⟩
  | collected hfilled =>
    rw [hslot] at hfilled
    cases hfilled
  | abandoned habandoned =>
    rw [hslot] at habandoned
    cases habandoned

theorem Submits.settles {e : Endpoint} {r : Request} {c : QueuedCall (Stamped κ)}
    (h : Submits d.watched e r q w c q' w') (hq : q.Sound live) (hd : d.Judges view admits) :
    Settles d q w q' w' := by
  cases h with
  | closed => exact .of_same hd rfl rfl rfl
  | direct _ hlen => exact .of_nil (hq.lanes_eq_nil.mpr hlen)
  | full _ hdeclined =>
    rcases hdeclined with ⟨-, rfl⟩ | ⟨hlen, -⟩
    · exact .of_same hd rfl rfl rfl
    · exact .of_nil (hq.lanes_eq_nil.mpr hlen)
  | queued _ _ _ hround => exact .inl (hround.refusesNext hd)

theorem Fires.settles (h : Fires d.watched q w q' w') (hd : d.Judges view admits) :
    Settles d q w q' w' := by
  cases h with
  | early => exact .of_same hd rfl rfl rfl
  | spent => exact .of_same hd rfl rfl rfl
  | rung _ _ _ hround => exact .inl (hround.refusesNext hd)

end Queue

/-- What happens behind the queue does not show in a view of the delegate. -/
def Move.Unseen (view : σ → ν) : Move σ → Prop
  | .change f => ∀ s, view (f s) = view s
  | _ => True

namespace Session

variable {d : Delegate κ σ} {view : σ → ν} {admits : Endpoint → Request → ν → Bool}
  {x x₀ : Session κ σ} {n : Nat}

/-- Nothing waits, or the call that is next is one that the delegate would refuse now. -/
def Blocked (d : Delegate κ σ) (x : Session κ σ) : Prop :=
  d.RefusesNext x.queue.lanes x.watch.state

/-- A call waits, and its turn is next. -/
def IsNext (x : Session κ σ) (n : Nat) : Prop :=
  ∃ (e : Endpoint) (r : Request) (v : Waiter) (rest : Lanes),
    x.calls[n]? = some ⟨e, r, .held (.waiting v.id)⟩ ∧ x.queue.lanes.pop = some (v, rest)

/-- Since the last pass of a run, a caller has withdrawn the call that was next then. -/
def Loosened (d : Delegate κ σ) (x₀ : Session κ σ) (moves : List (Move σ)) : Prop :=
  ∃ (before : List (Move σ)) (m : Nat) (after : List (Move σ)),
    moves = before ++ .drop m :: after ∧ (x₀.run d before).IsNext m ∧
      (x₀.run d before).queue.rounds = (x₀.run d moves).queue.rounds

theorem run_concat (d : Delegate κ σ) (x : Session κ σ) (moves : List (Move σ)) (m : Move σ) :
    x.run d (moves ++ [m]) = (x.run d moves).step d m := by
  simp [run]

/-- The slot of a call that is next is empty. -/
theorem get?_of_pop (h : x.InOrder) {v : Waiter} {rest : Lanes}
    (hp : x.queue.lanes.pop = some (v, rest)) : x.queue.slots.get? v.id = some .empty := by
  rw [← h.accounts.sound.awaits, (Lanes.ids_of_pop hp).mem_iff]
  exact List.mem_cons_self

/-- Every move settles the queue, unless a caller withdraws the call that is next. -/
theorem step_settles (hd : d.Judges view admits) (h : x.InOrder) {m : Move σ}
    (hm : m.Unseen view) :
    Queue.Settles d x.queue x.watch (x.step d m).queue (x.step d m).watch ∨
      (x.step d m).queue.rounds = x.queue.rounds ∧ ∃ n, m = .drop n ∧ x.IsNext n := by
  have hsound := h.accounts.sound
  have hdoes := step_does d hsound h.idle m
  generalize x.step d m = x' at hdoes ⊢
  cases hdoes with
  | nothing => exact .inl (.of_same hd rfl rfl rfl)
  | submitted _ hsubmits =>
    have hsettles := hsubmits.settles hsound hd
    exact .inl hsettles
  | polled hc hpolls =>
    obtain ⟨rest, hheld⟩ := sound_of_held hsound hc
    exact .inl (hpolls.settles hheld hd)
  | @dropped n e r c q' w' hc hdrops =>
    obtain ⟨rest, hheld⟩ := sound_of_held hsound hc
    by_cases hnext : x.IsNext n
    · obtain ⟨e', r', v, left, hc', hp⟩ := hnext
      cases hc.symm.trans hc'
      obtain ⟨rfl, -⟩ := hdrops.of_empty (get?_of_pop h hp)
      exact .inr ⟨rfl, n, rfl, e, r, v, left, hc, hp⟩
    · refine .inl (hdrops.settles hheld hd ?_)
      rintro id v left rfl hp rfl
      exact hnext ⟨e, r, v, left, hc, hp⟩
  | fired hfires => exact .inl (hfires.settles hd)
  | closed hopen =>
    refine .inl (.of_nil ?_)
    exact congrArg (fun z => z.1.lanes) (Queue.close_eq (b := d.watched) hopen x.watch)
  | letGo => exact .inl (.of_nil (congrArg (·.lanes) x.queue.die_eq))
  | changed f => exact .inl (.of_same hd (hm x.watch.state) rfl rfl)

/-- After a move that made a pass, the queue is blocked. -/
theorem step_blocked (hd : d.Judges view admits) (h : x.InOrder) {m : Move σ}
    (hm : m.Unseen view) (hpass : x.queue.rounds < (x.step d m).queue.rounds) :
    (x.step d m).Blocked d := by
  rcases step_settles hd h hm with (hblocked | ⟨hrounds, -⟩) | ⟨hrounds, -⟩
  · exact hblocked
  · omega
  · omega

/-- In every run, the queue is blocked unless a caller has withdrawn the call that was next. -/
theorem run_blocked (hd : d.Judges view admits) (h : x₀.InOrder) (hstart : x₀.Blocked d)
    {moves : List (Move σ)} (hm : ∀ m ∈ moves, m.Unseen view) :
    (x₀.run d moves).Blocked d ∨ Loosened d x₀ moves := by
  -- The last move comes last, so the induction is from the end.
  induction moves using List.reverseRecOn with
  | nil => exact .inl hstart
  | append_singleton moves m ih =>
    have hin := run_inOrder (d := d) h moves
    have hunseen : m.Unseen view := hm m (by simp)
    rw [run_concat]
    rcases step_settles hd hin hunseen with (hblocked | ⟨hrounds, hnot⟩) | ⟨hrounds, k, rfl, hk⟩
    · exact .inl hblocked
    · right
      rcases ih fun m' hm' => hm m' (by simp [hm']) with hblocked | hloosened
      · exact absurd hblocked hnot
      · obtain ⟨before, k, after, rfl, hk, hsame⟩ := hloosened
        refine ⟨before, k, after ++ [m], by simp, hk, ?_⟩
        rw [run_concat, hrounds]
        exact hsame
    · refine .inr ⟨moves, k, [], rfl, hk, ?_⟩
      rw [run_concat, hrounds]

/-! ### Withdrawals -/

/-- What comes of it that a caller withdraws a call. The session was `x` before, after some
moves from `x₀` on, and is `x'` afterwards. -/
structure Withdrawal (d : Delegate κ σ) (view : σ → ν) (timed : Bool) (x₀ : Session κ σ)
    (moves : List (Move σ)) (n : Nat) (x x' : Session κ σ) : Prop where
  withdrawn : x'.Meets n .withdrawn
  /-- It offers nothing. -/
  unasked : x'.watch.offers = x.watch.offers ∧ x'.queue.rounds = x.queue.rounds
  /-- Afterwards nothing waits, or the next call would be refused, unless since the last
  pass a call was withdrawn that was next. -/
  blocked : x'.Blocked d ∨ Loosened d x₀ (moves ++ [.drop n])
  /-- The withdrawal of a call that is not next unblocks nothing. -/
  kept : ¬ x.IsNext n → x.Blocked d → x'.Blocked d
  /-- Every pass blocks the queue again, -/
  passed : ∀ m, m.Unseen view → x'.queue.rounds < (x'.step d m).queue.rounds →
    (x'.step d m).Blocked d
  /-- which is what the end of a call under way makes, -/
  ended : ∀ (m : Nat) (c : Submission (Stamped κ)) st result, x'.calls[m]? = some c →
    c.isUnderWay x'.queue.slots = true →
    (x'.step d (.poll m)).calls[m]? = some { c with stage := .ended st result } →
      (x'.step d (.poll m)).Blocked d
  /-- or its being dropped, -/
  dropped : ∀ (m : Nat) (c : Submission (Stamped κ)), x'.calls[m]? = some c →
    c.isUnderWay x'.queue.slots = true → (x'.step d (.drop m)).Blocked d
  /-- or the timer. -/
  rung : ∀ a, x'.queue.timers = [a] → a.isDue (d.now x'.watch.state) = true →
    (x'.step d .fire).Blocked d
  /-- With timers, one of these is to come as long as anything waits. -/
  pending : timed = true → 0 < x'.queue.len →
    0 < x'.queue.inFlight ∨ x'.queue.armed = true ∧ ∃ a, x'.queue.timers = [a]

/-- A caller that drops its call while that waits takes it out of its lane, which is
reported. -/
theorem step_drop_waiting (d : Delegate κ σ) (h : x.InOrder) {e : Endpoint} {r : Request} {id : Nat}
    (hc : x.calls[n]? = some ⟨e, r, .held (.waiting id)⟩)
    (hempty : x.queue.slots.get? id = some .empty) :
    x.step d (.drop n) =
      ⟨{ x.queue with
          lanes := x.queue.lanes.remove id
          len := x.queue.len - 1
          slots := x.queue.slots.erase id },
        { x.watch with state := d.report (x.queue.len - 1) x.watch.state },
        x.calls.set n ⟨e, r, .dropped .waiting⟩⟩ := by
  obtain ⟨rest, hheld⟩ := sound_of_held h.accounts.sound hc
  obtain ⟨hqueue, hwatch⟩ :=
    (Queue.drop_drops d.watched_quiet hheld h.idle x.watch).of_empty hempty
  show x.drop d n = _
  unfold drop
  rw [hc]
  simp only [hqueue, hwatch, QueuedCall.standing_empty hempty]
  rfl

/-- A queue in which a call waits is neither closed nor let go. -/
theorem open_of_waiting (h : x.InOrder) {id : Nat}
    (hempty : x.queue.slots.get? id = some .empty) :
    x.queue.closed = false ∧ x.queue.alive = true := by
  have hsound := h.accounts.sound
  have hne : x.queue.lanes ≠ [] := by
    intro hnil
    have hid := (hsound.awaits id).mpr hempty
    rw [hnil] at hid
    cases hid
  have hshut : ¬(x.queue.closed = true ∨ x.queue.alive = false) := fun hs => hne (hsound.shut hs)
  simpa using hshut

/-- What a withdrawal comes to, in every run in which nothing happens behind the queue that
the delegate looks at. -/
theorem run_withdrawal (hd : d.Judges view admits) (timed : Bool) (s : σ)
    {moves : List (Move σ)} (hm : ∀ m ∈ moves, m.Unseen view)
    (hw : ((start timed s : Session κ σ).run d moves).Meets n .waiting) :
    Withdrawal d view timed (start timed s) moves n ((start timed s : Session κ σ).run d moves)
      (((start timed s : Session κ σ).run d moves).step d (.drop n)) := by
  have hstart : (start timed s : Session κ σ).InOrder := start_inOrder timed s
  have hx := run_inOrder (d := d) hstart moves
  have hunseen : ∀ m ∈ moves ++ [.drop n], m.Unseen view := by
    intro m hmem
    rcases List.mem_append.mp hmem with hmem | hmem
    · exact hm m hmem
    · rw [List.mem_singleton.mp hmem]
      trivial
  have hblocked := run_blocked hd hstart (d.refusesNext_nil s) hunseen
  have hwakeful : timed = true →
      (((start timed s : Session κ σ).run d moves).step d (.drop n)).queue.Wakeful := by
    rintro rfl
    exact step_wakeful hx (run_wakeful hstart Queue.new_wakeful moves) _
  rw [run_concat] at hblocked
  generalize (start timed s : Session κ σ).run d moves = x at hx hw hblocked hwakeful
  have hx' := (step_inOrder (d := d) hx (.drop n)).1
  have hsettles := step_settles hd hx (m := .drop n) trivial
  obtain ⟨⟨e, r, stage⟩, hc, id, rfl, hempty⟩ := (meets_waiting_iff hx).mp hw
  obtain ⟨hopen, halive⟩ := open_of_waiting hx hempty
  have hstep := step_drop_waiting d hx hc hempty
  have hopen' : (x.step d (.drop n)).queue.closed = false := by rw [hstep]; exact hopen
  have halive' : (x.step d (.drop n)).queue.alive = true := by rw [hstep]; exact halive
  have hpassed : ∀ m : Move σ, m.Unseen view →
      (x.step d (.drop n)).queue.rounds < ((x.step d (.drop n)).step d m).queue.rounds →
        ((x.step d (.drop n)).step d m).Blocked d :=
    fun m hm hlt => step_blocked hd hx' hm hlt
  refine
    { withdrawn := ?_
      unasked := by rw [hstep]; exact ⟨rfl, rfl⟩
      blocked := hblocked
      kept := ?_
      passed := hpassed
      ended := ?_
      dropped := ?_
      rung := ?_
      pending := ?_ }
  · have hlt := (List.getElem?_eq_some_iff.mp hc).1
    refine (meets_withdrawn_iff (c := ⟨e, r, .dropped .waiting⟩) ?_).mpr rfl
    rw [hstep]
    exact List.getElem?_set_self hlt
  · intro hnot hbefore
    rcases hsettles with (hafter | ⟨-, hno⟩) | ⟨-, k, hk, hnext⟩
    · exact hafter
    · exact absurd hbefore hno
    · cases hk
      exact absurd hnext hnot
  · intro m c st result hcm hway hend
    have hrounds := rounds_of_ended hx' halive' hcm hway hend
    exact hpassed (.poll m) trivial (by omega)
  · intro m c hcm hway
    have hrounds := rounds_of_dropped (d := d) hx' halive' hcm hway
    exact hpassed (.drop m) trivial (by omega)
  · intro a ha hdue
    have hround := (fire_of_due hx' ha hdue).1 hopen' halive'
    have hrounds := hround.flags.2.1
    exact hpassed .fire trivial (by rw [hrounds]; exact Nat.lt_succ_self _)
  · intro ht hlen
    have hw' := hwakeful ht
    have hne : (x.step d (.drop n)).queue.lanes ≠ [] := by
      intro hnil
      have hzero := hx'.accounts.sound.lanes_eq_nil.mp hnil
      omega
    rcases hw'.pending hne with hflight | harmed
    · exact .inl hflight
    · rcases hw'.known with ⟨-, htimers⟩ | ⟨hnot, -⟩
      · exact .inr ⟨harmed, htimers⟩
      · rw [harmed] at hnot
        cases hnot

/-- A delegate that takes one call of each endpoint at a time. No call ever ends by itself. -/
def exclusive : Delegate Endpoint (List Endpoint) where
  offer e _ s := if e ∈ s then (none, s) else (some e, e :: s)
  poll c s := (none, c, s)
  drop c s := s.erase c
  settings _ := ⟨8, .fifo, 0⟩
  now _ := 0
  report _ s := s

/-- It looks at the calls that are unfinished, and at nothing else. -/
theorem exclusive_judges : exclusive.Judges id fun e _ s => decide (e ∉ s) where
  answer e r s := by
    unfold exclusive
    dsimp only
    split <;> simp_all
  refused {e r s s'} h := by
    unfold exclusive at h
    dsimp only at h
    split at h
    · cases h
      rfl
    · cases h
  pending h := by
    cases h
    rfl
  report _ _ := rfl

/-- A call to an endpoint is under way, another one to the same endpoint waits, and behind it
one to another endpoint. -/
def blockade : List (Move (List Endpoint)) :=
  [.submit (catalog "list") (.blank 0), .submit (catalog "list") (.blank 4),
    .submit (catalog "get") (.blank 8)]

theorem run_withdrawal_blockade :
    let x := (start true [] : Session Endpoint (List Endpoint)).run exclusive blockade
    (∀ m ∈ blockade, m.Unseen (id : List Endpoint → _)) ∧ x.Meets 1 .waiting ∧
      Withdrawal exclusive id true (start true []) blockade 1 x (x.step exclusive (.drop 1)) := by
  intro x
  have hm : ∀ m ∈ blockade, m.Unseen (id : List Endpoint → _) := by
    simp [blockade, Move.Unseen]
  have hw : x.Meets 1 .waiting := (waits_iff_meets x 1).mp (by decide +kernel)
  exact ⟨hm, hw, run_withdrawal exclusive_judges true [] hm hw⟩

/-- The call that waits is withdrawn. The one behind it would be taken now, but it is not
even offered. -/
theorem withdrawal_strands :
    let x := (start true [] : Session Endpoint (List Endpoint)).run exclusive blockade
    let x' := x.step exclusive (.drop 1)
    exclusive.Judges id (fun e _ s => decide (e ∉ s)) ∧ x.queue.closed = false ∧
      x.Meets 1 .waiting ∧ x'.queue.len = 1 ∧ ¬ x'.Blocked exclusive ∧
        x'.watch.offers.length = x.watch.offers.length := by
  intro x x'
  refine ⟨exclusive_judges, by decide +kernel, (waits_iff_meets x 1).mp (by decide +kernel),
    by decide +kernel, fun hblocked => ?_, by decide +kernel⟩
  have htaken : x'.queue.lanes.pop.map (fun t =>
      (exclusive.offer t.1.endpoint t.1.request x'.watch.state).1.isSome) = some true := by
    decide +kernel
  obtain ⟨⟨v, rest⟩, hp, hsome⟩ := Option.map_eq_some_iff.mp htaken
  rw [hblocked v rest hp] at hsome
  cases hsome

end Session

end RpcPipeline
