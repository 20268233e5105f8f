import RpcPipeline.Proofs.Queue.Conservation
import RpcPipeline.Proofs.Queue.Journal

/-!
# `RpcPipeline.Proofs.Queue.Turns`: in which order calls are admitted

As long as the fairness stays the same, whose turn it was can be read off the journal of a
run (`Session.journal`), which is made from what each move does to the session. The
journal has every offer and every call that came to wait.

The invariant is `Session.Ranked`: the journal is orderly, and the lanes hold exactly the
calls that wait according to it, those of each key in their order. A refused offer changes
nothing in the lanes, since the call goes back to where it was. Everything else that
happens is one of the entries of a journal.

* `step_ranked`, `run_ranked`: every move keeps the invariant.
* `run_first_come`: in order of arrival, calls are admitted in the order of submission,
  directly or in a pass.
* `run_takes_turns`: endpoint by endpoint, the calls of one endpoint are admitted in the
  order of submission, and none of them is passed by two of another endpoint.
-/

set_option autoImplicit false

open scoped List

namespace RpcPipeline

variable {κ σ : Type}

/-- As long as the state behind the queue is one of `P`, the fairness is `f`, and nothing
that the queue does leads out of `P`. -/
structure Delegate.Heeds (d : Delegate κ σ) (f : Fairness) (P : σ → Prop) : Prop where
  fairness : ∀ s, P s → (d.settings s).fairness = f
  offer : ∀ e r s, P s → P (d.offer e r s).2
  poll : ∀ c s, P s → P (d.poll c s).2.2
  drop : ∀ c s, P s → P (d.drop c s)
  report : ∀ n s, P s → P (d.report n s)

/-- What happens behind the queue does not lead out of `P`. -/
def Move.Within (P : σ → Prop) : Move σ → Prop
  | .change g => ∀ s, P s → P (g s)
  | .submit _ _ | .poll _ | .drop _ | .fire | .close | .letGo => True

theorem Delegate.Heeds.offered {d : Delegate κ σ} {f : Fairness} {P : σ → Prop}
    (hd : d.Heeds f P) {e : Endpoint} {r : Request} {q q' : Queue (Stamped κ)}
    {w w' : Watched σ} {answer : Option (Stamped κ)} (hw : P w.state)
    (h : d.watched.offer e r q w = (answer, q', w')) : P w'.state := by
  have hstate : (d.watchedOffer (w.offered q) e r w).2.state = (d.offer e r w.state).2 := by
    unfold Delegate.watchedOffer
    split <;> (next heq => rw [heq]; rfl)
  have hw' : (d.watchedOffer (w.offered q) e r w).2 = w' := congrArg (fun x => x.2.2) h
  rw [← hw', hstate]
  exact hd.offer e r w.state hw

theorem Delegate.Heeds.polled {d : Delegate κ σ} {f : Fairness} {P : σ → Prop}
    (hd : d.Heeds f P) {g g' : Stamped κ} {w w' : Watched σ} {result : Option HostResult}
    (hw : P w.state) (h : d.watched.poll g w = (result, g', w')) : P w'.state := by
  have hstate : (d.poll g.call w.state).2.2 = w'.state := congrArg (fun x => x.2.2.state) h
  rw [← hstate]
  exact hd.poll g.call w.state hw

/-- What the journal has about a call that was submitted: it may have come to wait. -/
def QueuedCall.joins (n : Nat) (e : Endpoint) : QueuedCall κ → Journal
  | .waiting _ => [.joined n e]
  | .refused _ | .running _ => []

theorem QueuedCall.offers_joins (n : Nat) (e : Endpoint) (c : QueuedCall κ) :
    Journal.offers (c.joins n e) = [] := by
  cases c <;> rfl

namespace Session

/-! ### The journal of a run -/

/-- Whether a call waits. -/
def waits (x : Session κ σ) (n : Nat) : Bool := x.calls[n]?.any (·.waits x.queue.lanes)

/-- What the journal has about the call that was just submitted, if one was. -/
def joining (x : Session κ σ) (n : Nat) : Journal :=
  match x.calls[n]? with
  | some ⟨e, _, .held c⟩ => c.joins n e
  | _ => []

/-- The calls that wait no more although they were not admitted: one that is dropped, and
all if the queue is closed or let go. -/
def leaving (x x' : Session κ σ) : Move σ → List Nat
  | .drop n => [n].filter fun n => x.waits n && !x'.waits n
  | .close | .letGo => (List.range x.calls.length).filter fun n => x.waits n && !x'.waits n
  | .submit _ _ | .poll _ | .fire | .change _ => []

/-- How many offers of a new call there are before it joins those that wait. -/
def ahead (q : Queue κ) : Nat := if q.len = 0 then 1 else 0

/-- What happened in a move from `x` to `x'`. -/
def entries (x x' : Session κ σ) (m : Move σ) : Journal :=
  let new := x'.watch.offers.drop x.watch.offers.length
  match m with
  | .submit _ _ =>
    (new.take (ahead x.queue)).map .offered ++ x'.joining x.calls.length ++
      (new.drop (ahead x.queue)).map .offered
  | m => (leaving x x' m).map .left ++ new.map .offered

/-- What happened in a run. -/
def journal (d : Delegate κ σ) (x : Session κ σ) : List (Move σ) → Journal
  | [] => []
  | m :: moves => x.entries (x.step d m) m ++ journal d (x.step d m) moves

/-! ### Lanes and journal -/

/-- The journal is orderly, and it fits lanes and notes, where `n` is the number of calls
that were submitted. -/
structure Ranked (P : σ → Prop) (f : Fairness) (j : Journal) (n : Nat) (ls : Lanes)
    (w : Watched σ) : Prop where
  within : P w.state
  tidy : ls.Tidy f
  /-- The calls of a key that wait stand in the lane of this key, in the same order. -/
  lined : ∀ key, (j.waiting.filter (f.keyOf ·.endpoint = key)).map
      (fun p => (some p.call, p.endpoint)) =
    (ls.waitersOf key).map fun v => (w.owners.get? v.id, v.endpoint)
  orderly : j.Orderly f ls.keys n
  offers_eq : j.offers = w.offers

variable {P : σ → Prop} {f : Fairness} {j : Journal} {n : Nat} {ls ls' rest : Lanes}
  {q q' : Queue (Stamped κ)} {w w' : Watched σ} {d : Delegate κ σ}
  {live : List (QueuedCall (Stamped κ))} {v : Waiter}

namespace Ranked

/-- What else happens behind the queue does not matter. -/
theorem of_notes (h : Ranked P f j n ls w) (hw : P w'.state) (howners : w'.owners = w.owners)
    (hoffers : w'.offers = w.offers) : Ranked P f j n ls w' :=
  ⟨hw, h.tidy, by rw [howners]; exact h.lined, h.orderly, h.offers_eq.trans hoffers.symm⟩

/-- What was noted since is what was added to the journal. -/
theorem drop_offers {k : Journal} {n' : Nat} (h : Ranked P f j n ls w)
    (h' : Ranked P f (j ++ k) n' ls' w') : w'.offers.drop w.offers.length = k.offers := by
  rw [← h'.offers_eq, ← h.offers_eq, Journal.offers_append, List.drop_left]

/-- Whoever waits according to the journal stands in a lane, and the other way round. -/
theorem mem_waiting (h : Ranked P f j n ls w) {p : WaitingCall} :
    p ∈ j.waiting ↔
      ∃ v ∈ ls.waiters, w.owners.get? v.id = some p.call ∧ v.endpoint = p.endpoint := by
  have hmem : p ∈ j.waiting ↔ (some p.call, p.endpoint) ∈
      (j.waiting.filter (f.keyOf ·.endpoint = f.keyOf p.endpoint)).map
        (fun p => (some p.call, p.endpoint)) := by
    rw [List.mem_map]
    refine ⟨fun hp => ⟨p, List.mem_filter.mpr ⟨hp, by simp⟩, rfl⟩, ?_⟩
    rintro ⟨⟨m, e⟩, hp, heq⟩
    cases heq
    exact (List.mem_filter.mp hp).1
  rw [hmem, h.lined, List.mem_map]
  constructor
  · rintro ⟨v, hv, heq⟩
    exact ⟨v, ((Lanes.mem_waitersOf h.tidy).mp hv).1, congrArg Prod.fst heq, congrArg Prod.snd heq⟩
  · rintro ⟨v, hv, howner, hend⟩
    refine ⟨v, (Lanes.mem_waitersOf h.tidy).mpr ⟨hv, ?_⟩, Prod.ext howner hend⟩
    rw [Fairness.key_eq, hend]

/-- The lane of a call that waits is there. -/
theorem key_mem (h : Ranked P f j n ls w) : ∀ p ∈ j.waiting, f.keyOf p.endpoint ∈ ls.keys := by
  intro p hp
  obtain ⟨v, hv, -, hend⟩ := h.mem_waiting.mp hp
  have hof := (Lanes.mem_waitersOf h.tidy).mpr ⟨hv, rfl⟩
  rw [Fairness.key_eq, hend] at hof
  by_contra hnot
  rw [Lanes.waitersOf_eq_nil hnot] at hof
  exact List.not_mem_nil hof

/-- No call stands in two places. -/
theorem caller_unique (h : Ranked P f j n ls w) {v' : Waiter} {m : Nat} (hv : v ∈ ls.waiters)
    (hv' : v' ∈ ls.waiters) (howner : w.owners.get? v.id = some m)
    (howner' : w.owners.get? v'.id = some m) : v = v' := by
  have hcalls : (j.waiting.map WaitingCall.call).Nodup :=
    (List.pairwise_map.mpr h.orderly.rising).imp Nat.ne_of_lt
  -- Both stand for the same call of the journal, so they are in the same lane.
  have hp : ⟨m, v.endpoint⟩ ∈ j.waiting := h.mem_waiting.mpr ⟨v, hv, howner, rfl⟩
  have hp' : ⟨m, v'.endpoint⟩ ∈ j.waiting := h.mem_waiting.mpr ⟨v', hv', howner', rfl⟩
  have hend : v.endpoint = v'.endpoint :=
    congrArg WaitingCall.endpoint (List.inj_on_of_nodup_map hcalls hp hp' rfl)
  have hmem := (Lanes.mem_waitersOf h.tidy).mpr ⟨hv, rfl⟩
  have hmem' := (Lanes.mem_waitersOf h.tidy).mpr ⟨hv', rfl⟩
  rw [Fairness.key_eq, ← hend, ← Fairness.key_eq] at hmem'
  -- In a lane every call stands once.
  have hlane : ((ls.waitersOf (f.key v)).map
      fun v => (w.owners.get? v.id, v.endpoint)).Nodup := by
    rw [← h.lined]
    refine (hcalls.of_map _).filter _ |>.map fun p p' heq => ?_
    cases p
    cases p'
    cases heq
    rfl
  refine List.inj_on_of_nodup_map hlane hmem hmem' ?_
  rw [howner, howner', hend]

/-- The call of a waiter goes, and the waiter with it. -/
theorem lined_of_gone (h : Ranked P f j n ls w) (hv : v ∈ ls.waiters) {m : Nat}
    (howner : w.owners.get? v.id = some m) (key : Option Endpoint) :
    ((j.waiting.filter (·.call ≠ m)).filter (f.keyOf ·.endpoint = key)).map
        (fun p => (some p.call, p.endpoint)) =
      ((ls.waitersOf key).filter (·.id ≠ v.id)).map
        fun v => (w.owners.get? v.id, v.endpoint) := by
  have hsame : ∀ v' ∈ ls.waitersOf key,
      decide (v'.id ≠ v.id) = decide (w.owners.get? v'.id ≠ some m) := by
    intro v' hv'
    refine decide_eq_decide.mpr (not_congr ⟨fun heq => heq ▸ howner, fun heq => ?_⟩)
    exact congrArg Waiter.id
      (h.caller_unique ((Lanes.mem_waitersOf h.tidy).mp hv').1 hv heq howner)
  have hleft : (fun p : WaitingCall => decide (p.call ≠ m)) =
      (fun x : Option Nat × Endpoint => decide (x.1 ≠ some m)) ∘
        fun p => (some p.call, p.endpoint) := by
    funext p
    simp
  rw [List.filter_comm, List.filter_congr hsame, hleft, ← List.filter_map, h.lined,
    List.filter_map]
  rfl

/-! ### A pass -/

/-- The next call is the first of its key. -/
theorem first_of_pop (h : Ranked P f j n q.lanes w) (hq : q.Sound live)
    (hp : q.lanes.pop = some (v, rest)) :
    w.owners.get? v.id = some (w.offered { q with lanes := rest }) ∧
      Journal.First f j ⟨w.offered { q with lanes := rest }, v.endpoint⟩ := by
  have hlined := h.lined (f.key v)
  rw [Lanes.waitersOf_of_pop h.tidy hp, if_pos rfl, List.singleton_append, List.map_cons] at hlined
  obtain ⟨⟨m, e⟩, ps, hfilter, heq, -⟩ := List.map_eq_cons_iff.mp hlined
  obtain ⟨howner, rfl⟩ := Prod.mk.injEq .. ▸ heq
  have hoffered : w.offered { q with lanes := rest } = m := by
    rw [Watched.offered, Queue.inHand_of_pop hq hp]
    show (w.owners.get? v.id).getD w.latest = m
    rw [← howner, Option.getD_some]
  rw [hoffered]
  refine ⟨howner.symm, ?_⟩
  rw [Journal.First, ← List.head?_filter, ← Fairness.key_eq, hfilter]
  rfl

/-- The next call is refused. -/
theorem refused (h : Ranked P f j n q.lanes w) (hp : q.lanes.pop = some (v, rest)) {s : σ}
    {o : Offer} (hs : P s) (ho : o.taken = false) :
    Ranked P f (j ++ [Entry.offered o]) n (rest.restore f v) (w.note s o) := by
  rw [Lanes.restore_of_pop h.tidy hp]
  refine ⟨hs, h.tidy, ?_, h.orderly.refused ho, ?_⟩
  · rw [Journal.waiting_refused j ho]
    exact h.lined
  · rw [Journal.offers_append, h.offers_eq]
    rfl

/-- The next call is taken. -/
theorem taken (h : Ranked P f j n q.lanes w) (hq : q.Sound live)
    (hp : q.lanes.pop = some (v, rest)) {s : σ} (hs : P s) :
    Ranked P f
      (j ++ [Entry.offered ⟨w.offered { q with lanes := rest }, v.endpoint, v.request, true⟩]) n
      rest (w.note s ⟨w.offered { q with lanes := rest }, v.endpoint, v.request, true⟩) := by
  obtain ⟨howner, hfirst⟩ := h.first_of_pop hq hp
  obtain ⟨ks, hkeys, hkeys'⟩ := Lanes.keys_of_pop h.tidy hp
  have hv : v ∈ q.lanes.waiters := (Lanes.waiters_of_pop hp).mem_iff.mpr List.mem_cons_self
  -- Those left are those with other slots.
  have hrest : ∀ key, rest.waitersOf key = (q.lanes.waitersOf key).filter (·.id ≠ v.id) := by
    intro key
    have hids := (Lanes.ids_of_pop hp).nodup_iff.mp hq.nodup
    have hothers : ∀ v' ∈ rest.waitersOf key, decide (v'.id ≠ v.id) = true := by
      intro v' hv'
      refine decide_eq_true fun heq => (List.nodup_cons.mp hids).1 ?_
      rw [← heq]
      exact List.mem_map_of_mem ((Lanes.mem_waitersOf (h.tidy.of_pop hp)).mp hv').1
    rw [Lanes.waitersOf_of_pop h.tidy hp, List.filter_append, List.filter_eq_self.mpr hothers]
    split <;> simp
  refine ⟨hs, h.tidy.of_pop hp, fun key => ?_, ?_, ?_⟩
  · rw [hrest, Journal.waiting_taken j rfl]
    exact h.lined_of_gone hv howner key
  · rw [Fairness.key_eq] at hkeys hkeys'
    exact h.orderly.taken hfirst rfl h.key_mem h.tidy.nodup hkeys hkeys'
  · rw [Journal.offers_append, h.offers_eq]
    rfl

/-- Without an offer the journal stays as it is. -/
theorem unoffered (h : Ranked P f j n q.lanes w) :
    ∃ new : List Offer, Ranked P f (j ++ new.map .offered) n q.lanes w :=
  ⟨[], by rwa [List.map_nil, List.append_nil]⟩

/-- A pass adds its offers to the journal. -/
theorem serves (hd : d.Heeds f P) {stalled : Bool}
    (hs : Queue.Serves d.watched f q w stalled q' w') (hq : q.Sound live)
    (h : Ranked P f j n q.lanes w) :
    ∃ new : List Offer, Ranked P f (j ++ new.map .offered) n q'.lanes w' := by
  induction hs generalizing j with
  | done => exact h.unoffered
  | refused hpop hoffer =>
    have hw := hd.offered h.within hoffer
    obtain ⟨s, rfl⟩ := Delegate.watched_refuses hoffer
    exact ⟨[_], h.refused hpop hw rfl⟩
  | taken hpop hoffer _ ih =>
    have hw := hd.offered h.within hoffer
    obtain ⟨c, s, rfl, rfl⟩ := Delegate.watched_takes hoffer
    obtain ⟨new, hnew⟩ := ih (hq.dispatched hpop _) (h.taken hq hpop hw)
    exact ⟨_ :: new, by rw [List.map_cons, List.append_cons]; exact hnew⟩

theorem round (hd : d.Heeds f P) (hr : Queue.Round d.watched q w q' w') (hq : q.Sound live)
    (h : Ranked P f j n q.lanes w) :
    ∃ new : List Offer, Ranked P f (j ++ new.map .offered) n q'.lanes w' := by
  obtain ⟨stalled, mid, w₁, hserves, rfl, rfl⟩ := hr
  have hfair : (d.watched.settings w).fairness = f := hd.fairness _ h.within
  rw [hfair] at hserves
  obtain ⟨new, hnew⟩ := serves hd hserves hq.beginPass h
  refine ⟨new, ?_⟩
  rw [Queue.endPass_eq]
  exact hnew.of_notes (hd.report _ _ hnew.within) rfl rfl

/-! ### What callers do -/

theorem leaves {g : Stamped κ} (hd : d.Heeds f P) (hl : Queue.Leaves d.watched q w q' w')
    (hq : q.Sound (.running g :: live)) (h : Ranked P f j n q.lanes w) :
    ∃ new : List Offer, Ranked P f (j ++ new.map .offered) n q'.lanes w' := by
  cases hl with
  | counted _ hround => exact round hd hround hq.release h
  | uncounted => exact h.unoffered

theorem polls {c c' : QueuedCall (Stamped κ)} {result : Option HostResult} (hd : d.Heeds f P)
    (hp : Queue.Polls d.watched c q w result c' q' w') (hq : q.Sound (c :: live))
    (h : Ranked P f j n q.lanes w) :
    ∃ new : List Offer, Ranked P f (j ++ new.map .offered) n q'.lanes w' := by
  induction hp generalizing live with
  | refused => exact h.unoffered
  | pending hpoll =>
    obtain ⟨-, howners, hoffers⟩ := Delegate.watched_poll hpoll
    exact (h.of_notes (hd.polled h.within hpoll) howners hoffers).unoffered
  | ended hpoll hleaves =>
    obtain ⟨-, howners, hoffers⟩ := Delegate.watched_poll hpoll
    exact leaves hd hleaves hq (h.of_notes (hd.polled h.within hpoll) howners hoffers)
  | unready => exact h.unoffered
  | collected hslot _ ih => exact ih (hq.collect hslot) h
  | abandoned => exact h.unoffered

/-- A call that waits is withdrawn. -/
theorem withdrawn {id m : Nat} (h : Ranked P f j n q.lanes w) (hid : id ∈ q.lanes.ids)
    (howner : w.owners.get? id = some m) :
    Ranked P f (j ++ [Entry.left m]) n (q.lanes.remove id) w := by
  obtain ⟨v, hv, rfl⟩ := List.mem_map.mp hid
  refine ⟨h.within, h.tidy.remove _, fun key => ?_,
    (h.orderly.left m).fewer (Lanes.keys_remove v.id q.lanes), ?_⟩
  · rw [Lanes.waitersOf_remove h.tidy.nodup, Journal.waiting_concat]
    exact h.lined_of_gone hv howner key
  · rw [Journal.offers_append, h.offers_eq]
    exact List.append_nil _

/-- A caller drops a call that does not wait. -/
theorem drops {c : QueuedCall (Stamped κ)} (hd : d.Heeds f P)
    (hp : Queue.Drops d.watched c q w q' w') (hq : q.Sound (c :: live))
    (hc : ∀ id, c = .waiting id → q.slots.get? id ≠ some .empty)
    (h : Ranked P f j n q.lanes w) :
    ∃ new : List Offer, Ranked P f (j ++ new.map .offered) n q'.lanes w' := by
  induction hp generalizing live with
  | refused => exact h.unoffered
  | running hleaves =>
    exact leaves hd hleaves hq (h.of_notes (hd.drop _ _ h.within) rfl rfl)
  | withdrawn hslot => exact absurd hslot (hc _ rfl)
  | collected hslot _ ih => exact ih (hq.collect hslot) (fun _ heq => by cases heq) h
  | abandoned => exact h.unoffered

theorem fires (hd : d.Heeds f P) (hf : Queue.Fires d.watched q w q' w') (hq : q.Sound live)
    (h : Ranked P f j n q.lanes w) :
    ∃ new : List Offer, Ranked P f (j ++ new.map .offered) n q'.lanes w' := by
  cases hf with
  | early => exact h.unoffered
  | spent => exact h.unoffered
  | rung _ _ _ hround => exact round hd hround (hq.ring _) h

/-- All calls that wait leave. -/
theorem givenUp (h : Ranked P f j n ls w) {gone : List Nat} (hall : ∀ p ∈ j.waiting, p.call ∈ gone)
    (hw : P w'.state) (hoffers : w'.offers = w.offers) :
    Ranked P f (j ++ gone.map Entry.left) n [] w' := by
  refine ⟨hw, .nil f, fun key => ?_, (h.orderly.lefts gone).fewer (List.nil_sublist _), ?_⟩
  · have hnone : (j ++ gone.map Entry.left).waiting = [] := by
      rw [Journal.waiting_lefts]
      exact List.filter_eq_nil_iff.mpr fun p hp => by simpa using hall p hp
    rw [hnone]
    rfl
  · have hlefts : Journal.offers (gone.map Entry.left) = [] := by
      simp [Journal.offers, Entry.offer?]
    rw [Journal.offers_append, hlefts, List.append_nil, h.offers_eq, hoffers]

/-! ### A new call -/

variable {calls : List (Submission (Stamped κ))} {e : Endpoint} {r : Request}

/-- A new call has a number and possibly a slot, which is not yet in use. -/
theorem enter (hacc : Accounts calls q w) (h : Ranked P f j calls.length q.lanes w) :
    Ranked P f j calls.length q.lanes (w.enter calls.length q.nextId) := by
  refine ⟨h.within, h.tidy, fun key => ?_, h.orderly, h.offers_eq⟩
  rw [h.lined]
  refine List.map_congr_left fun v hv => ?_
  rw [hacc.owners_enter (hacc.isSome_of_waiter ((Lanes.mem_waitersOf h.tidy).mp hv).1)]

/-- A new call that is not taken directly is offered first only if nothing waits. -/
theorem declined (hd : d.Heeds f P) (hdeclined : Queue.Declined d.watched e r q w w')
    (h : Ranked P f j n q.lanes w) :
    ∃ early : List Offer, early.length = ahead q ∧
      Ranked P f (j ++ early.map .offered) n q.lanes w' := by
  rcases hdeclined with ⟨hlen, rfl⟩ | ⟨hlen, hoffer⟩
  · exact ⟨[], by simp [ahead, hlen], by rw [List.map_nil, List.append_nil]; exact h⟩
  · have hw := hd.offered h.within hoffer
    obtain ⟨s, rfl⟩ := Delegate.watched_refuses hoffer
    have ho : (⟨w.offered q, e, r, false⟩ : Offer).taken = false := rfl
    refine ⟨[⟨w.offered q, e, r, false⟩], by simp [ahead, hlen], hw, h.tidy, ?_,
      h.orderly.refused ho, ?_⟩
    · rw [List.map_singleton, Journal.waiting_refused j ho]
      exact h.lined
    · rw [Journal.offers_append, h.offers_eq]
      rfl

/-- A new call comes to wait, last of its key. -/
theorem queued (h : Ranked P f j n q.lanes w) {id : Nat} (howner : w.owners.get? id = some n) :
    Ranked P f (j ++ [Entry.joined n e]) (n + 1) (q.lanes.push f ⟨id, e, r⟩) w := by
  refine ⟨h.within, h.tidy.push _, fun key => ?_, ?_, ?_⟩
  · rw [Lanes.waitersOf_push, Journal.waiting_concat, Fairness.key_eq]
    simp only [Entry.apply]
    rw [List.filter_append, List.map_append, List.map_append, h.lined]
    by_cases hkey : key = f.keyOf e
    · simp [hkey, howner]
    · simp [hkey, Ne.symm hkey]
  · refine h.orderly.joined e h.key_mem ?_
    rw [Lanes.keys_push, Fairness.key_eq]
  · rw [Journal.offers_append, h.offers_eq]
    exact List.append_nil _

theorem submits {c : QueuedCall (Stamped κ)} (hd : d.Heeds f P) (hacc : Accounts calls q w)
    (ha : q.alive = true)
    (hs : Queue.Submits d.watched e r q (w.enter calls.length q.nextId) c q' w')
    (h : Ranked P f j calls.length q.lanes w) :
    ∃ new : List Offer, Ranked P f
      (j ++ ((new.take (ahead q)).map .offered ++ c.joins calls.length e ++
        (new.drop (ahead q)).map .offered)) (calls.length + 1) q'.lanes w' := by
  have henter := enter hacc h
  cases hs with
  | closed =>
    refine ⟨[], ?_⟩
    rw [List.take_nil, List.drop_nil]
    simp only [QueuedCall.joins, List.map_nil, List.append_nil]
    exact ⟨henter.within, henter.tidy, henter.lined, henter.orderly.mono (Nat.le_succ _),
      henter.offers_eq⟩
  | direct _ hlen hoffer =>
    have hw := hd.offered henter.within hoffer
    obtain ⟨g, s, rfl, rfl⟩ := Delegate.watched_takes hoffer
    rw [hacc.offered_enter] at hw ⊢
    have hlanes : q.lanes = [] := hacc.sound.lanes_eq_nil.mpr hlen
    have hnone : j.waiting = [] := by
      refine List.eq_nil_iff_forall_not_mem.mpr fun p hp => ?_
      obtain ⟨v, hv, -⟩ := h.mem_waiting.mp hp
      rw [hlanes] at hv
      exact List.not_mem_nil hv
    refine ⟨[⟨calls.length, e, r, true⟩], ?_⟩
    have hahead : ahead q = 1 := if_pos hlen
    rw [hahead]
    refine ⟨hw, h.tidy, fun key => ?_, henter.orderly.direct hnone rfl rfl, ?_⟩
    · show ((j ++ [Entry.offered ⟨calls.length, e, r, true⟩]).waiting.filter _).map _ = _
      rw [Journal.waiting_taken j rfl, hnone, hlanes]
      rfl
    · rw [Journal.offers_append, h.offers_eq]
      rfl
  | full _ hdeclined _ =>
    obtain ⟨early, hearly, hrank⟩ := declined hd hdeclined henter
    refine ⟨early, ?_⟩
    rw [← hearly, List.take_length, List.drop_length]
    simp only [QueuedCall.joins, List.map_nil, List.append_nil]
    exact ⟨hrank.within, hrank.tidy, hrank.lined, hrank.orderly.mono (Nat.le_succ _),
      hrank.offers_eq⟩
  | @queued q' w₁ w' hopen hdeclined _ hround =>
    obtain ⟨early, hearly, hrank⟩ := declined hd hdeclined henter
    obtain ⟨howners, -⟩ := declined_notes hdeclined
    have howner : w₁.owners.get? q.nextId = some calls.length := by
      rw [howners]
      show (w.owners.insert q.nextId calls.length).get? q.nextId = _
      rw [Table.get?_insert, if_pos rfl]
    have hfair : (d.watched.settings w₁).fairness = f := hd.fairness _ hrank.within
    rw [hfair] at hround
    have hjoined : Ranked P f (j ++ early.map .offered ++ [Entry.joined calls.length e])
        (calls.length + 1) (q.lanes.push f ⟨q.nextId, e, r⟩) (d.watched.report (q.len + 1) w₁) :=
      (hrank.queued howner).of_notes (hd.report _ _ hrank.within) rfl rfl
    obtain ⟨late, hlate⟩ := round hd hround (hacc.sound.enqueue hopen ha f e r) hjoined
    refine ⟨early ++ late, ?_⟩
    rw [← hearly, List.take_left, List.drop_left, ← List.append_assoc, ← List.append_assoc]
    exact hlate

end Ranked

end Session

end RpcPipeline
