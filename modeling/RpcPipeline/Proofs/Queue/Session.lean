import RpcPipeline.Proofs.Queue.Calls

/-!
# `RpcPipeline.Proofs.Queue.Session`: runs of a queue

A run of a queue is a list of moves: callers submit calls, poll them and drop them, the
timer goes off, the queue is closed or let go, and between any two of these whatever
lies behind the queue may change in any way. That covers the passing of time, calls that
come to have a result, and new settings. `Session.run` makes the moves.

What lies behind the queue is any `Delegate`: it is offered calls and takes them or does
not, for whatever reason, but it never calls back into the queue. The session watches it
(`Delegate.watched`) and writes down every offer: about which call it was, and whether
the call was taken. A call that is taken is stamped with the place of its offer in these
notes, so that one can tell later where it has got to. The delegate knows of none of
this.

* `Session.step`, `Session.run`: moves.
* `step_does`: what a move can do (`Session.Does`).
* `Stage.standing`: how a call stands, as far as the queue goes.
* `Submission.waits`: whether a call waits.
-/

set_option autoImplicit false

namespace RpcPipeline

variable {κ σ : Type}

/-- What lies behind a queue and never calls back into it. -/
structure Delegate (κ σ : Type) where
  /-- Offers a call. -/
  offer : Endpoint → Request → σ → Option κ × σ
  /-- Polls a call that was taken. -/
  poll : κ → σ → Option HostResult × κ × σ
  /-- Drops a call that was taken, before it has ended. -/
  drop : κ → σ → σ
  settings : σ → QueueConfig
  now : σ → Instant
  /-- Reports the number of waiting calls. -/
  report : Nat → σ → σ

/-- A call that was taken, with the place of the offer at which it was. -/
structure Stamped (κ : Type) where
  stamp : Nat
  call : κ

/-- An offer to a delegate. -/
structure Offer where
  /-- Which of the submitted calls was offered. -/
  call : Nat
  endpoint : Endpoint
  request : Request
  taken : Bool

/-- A delegate's state, with notes about what it was offered. -/
structure Watched (σ : Type) where
  state : σ
  /-- The call that was submitted last. -/
  latest : Nat
  /-- Which call was given which slot. -/
  owners : Table Nat Nat
  /-- All offers, the oldest first. -/
  offers : List Offer

namespace Queue

/-- Whether a pass has a call in its hand: the call stands in no lane, and its slot is
still empty. -/
def isInHand (q : Queue κ) (id : Nat) : Bool :=
  !q.lanes.has id && match q.slots.get? id with
    | some .empty => true
    | _ => false

/-- The call that a pass has in its hand. -/
def inHand (q : Queue κ) : Option Nat := q.slots.keys.find? q.isInHand

end Queue

namespace Watched

/-- The call that is offered: the one in the hand of a pass, and if there is none, the
one that was just submitted. -/
def offered (w : Watched σ) (q : Queue κ) : Nat :=
  match q.inHand with
  | some id => (w.owners.get? id).getD w.latest
  | none => w.latest

/-- Notes an offer. -/
def note (w : Watched σ) (state : σ) (o : Offer) : Watched σ :=
  { w with state := state, offers := w.offers ++ [o] }

/-- Notes that a call is submitted, and which slot it has if it is given one. -/
def enter (w : Watched σ) (call slot : Nat) : Watched σ :=
  { w with latest := call, owners := w.owners.insert slot call }

end Watched

namespace Delegate

/-- The answer of a delegate, with notes. -/
def watchedOffer (d : Delegate κ σ) (call : Nat) (e : Endpoint) (r : Request) (w : Watched σ) :
    Option (Stamped κ) × Watched σ :=
  match d.offer e r w.state with
  | (some c, s) => (some ⟨w.offers.length, c⟩, w.note s ⟨call, e, r, true⟩)
  | (none, s) => (none, w.note s ⟨call, e, r, false⟩)

/-- A delegate behind a queue, with notes about what it is offered. -/
def watched (d : Delegate κ σ) : Backend (Stamped κ) (Watched σ) where
  offer e r q w :=
    ((d.watchedOffer (w.offered q) e r w).1, q, (d.watchedOffer (w.offered q) e r w).2)
  poll f w :=
    ((d.poll f.call w.state).1, { f with call := (d.poll f.call w.state).2.1 },
      { w with state := (d.poll f.call w.state).2.2 })
  drop f w := { w with state := d.drop f.call w.state }
  settings w := d.settings w.state
  now w := d.now w.state
  report n w := { w with state := d.report n w.state }
  callbacks _ := 0

theorem watched_quiet (d : Delegate κ σ) : d.watched.Quiet := fun _ _ _ _ => rfl

/-- An offer that is refused is noted. -/
theorem watched_refuses {d : Delegate κ σ} {e : Endpoint} {r : Request}
    {q q' : Queue (Stamped κ)} {w w' : Watched σ}
    (h : d.watched.offer e r q w = (none, q', w')) :
    ∃ s, w' = w.note s ⟨w.offered q, e, r, false⟩ := by
  simp only [watched, watchedOffer] at h
  rcases hoffer : d.offer e r w.state with ⟨_ | c, s⟩ <;> rw [hoffer] at h
  · cases h
    exact ⟨s, rfl⟩
  · cases h

/-- An offer at which a call is taken is noted, and the call is stamped with its place. -/
theorem watched_takes {d : Delegate κ σ} {e : Endpoint} {r : Request}
    {q q' : Queue (Stamped κ)} {w w' : Watched σ} {f : Stamped κ}
    (h : d.watched.offer e r q w = (some f, q', w')) :
    ∃ c s, f = ⟨w.offers.length, c⟩ ∧ w' = w.note s ⟨w.offered q, e, r, true⟩ := by
  simp only [watched, watchedOffer] at h
  rcases hoffer : d.offer e r w.state with ⟨_ | c, s⟩ <;> rw [hoffer] at h
  · cases h
  · cases h
    exact ⟨c, s, rfl, rfl⟩

/-- Polling a call leaves its stamp and the notes. -/
theorem watched_poll {d : Delegate κ σ} {f f' : Stamped κ} {w w' : Watched σ}
    {result : Option HostResult} (h : d.watched.poll f w = (result, f', w')) :
    f'.stamp = f.stamp ∧ w'.owners = w.owners ∧ w'.offers = w.offers := by
  cases h
  exact ⟨rfl, rfl, rfl⟩

end Delegate

/-! ### How calls stand -/

/-- How a call stands, as far as the queue goes. -/
inductive Standing (κ : Type) where
  /-- It was never taken and will not be. -/
  | failed (error : CallError)
  | waiting
  /-- It was taken. What follows is its own affair. -/
  | taken (call : κ)

/-- How a call stands, by its slot. -/
def Slot.standing : Slot κ → Standing κ
  | .empty => .waiting
  | .filled call => .taken call
  | .abandoned => .failed .cancelled

/-- How a call stands that its caller holds. -/
def QueuedCall.standing (slots : Table Nat (Slot κ)) : QueuedCall κ → Standing κ
  | .refused e => .failed e
  | .running call => .taken call
  | .waiting id => ((slots.get? id).map Slot.standing).getD (.failed .cancelled)

/-- What a caller has done with its call. -/
inductive Stage (κ : Type) where
  | held (call : QueuedCall κ)
  /-- The caller has the result. The call stood as it says just before. -/
  | ended (standing : Standing κ) (result : HostResult)
  /-- The caller has dropped the call, which stood as it says just before. -/
  | dropped (standing : Standing κ)

namespace Stage

/-- How a call stands, or how it stood when its caller was done with it. -/
def standing (slots : Table Nat (Slot κ)) : Stage κ → Standing κ
  | .held c => c.standing slots
  | .ended st _ => st
  | .dropped st => st

/-- What the caller holds. -/
def held? : Stage κ → Option (QueuedCall κ)
  | .held c => some c
  | .ended _ _ | .dropped _ => none

/-- The call fails with an error, which is also its result if its caller has asked. -/
def Fails (slots : Table Nat (Slot κ)) (e : CallError) : Stage κ → Prop
  | .held c => c.standing slots = .failed e
  | .ended st result => st = .failed e ∧ result = .error e
  | .dropped st => st = .failed e

end Stage

/-- A call that was submitted. -/
structure Submission (κ : Type) where
  endpoint : Endpoint
  request : Request
  stage : Stage κ

/-- Whether a call stands in exactly one place of the lanes, and its caller waits for
it. -/
def Submission.waits (lanes : Lanes) (c : Submission κ) : Bool :=
  match c.stage with
  | .held (.waiting id) => lanes.ids.count id = 1
  | _ => false

/-! ### Moves -/

/-- A queue, what lies behind it, and all calls that were ever submitted. -/
structure Session (κ σ : Type) where
  queue : Queue (Stamped κ)
  watch : Watched σ
  calls : List (Submission (Stamped κ))

/-- Something that happens to a queue. -/
inductive Move (σ : Type) where
  | submit (endpoint : Endpoint) (request : Request)
  | poll (call : Nat)
  | drop (call : Nat)
  | fire
  | close
  | letGo
  /-- Something happens behind the queue. -/
  | change (f : σ → σ)

namespace Session

/-- A session at its beginning. -/
def start (timed : Bool) (s : σ) : Session κ σ := ⟨.new timed, ⟨s, 0, {}, []⟩, []⟩

/-- A caller submits a call, as long as anybody holds the queue. -/
def submit (d : Delegate κ σ) (e : Endpoint) (r : Request) (x : Session κ σ) : Session κ σ :=
  if x.queue.alive then
    let (c, q, w) := x.queue.submit d.watched e r (x.watch.enter x.calls.length x.queue.nextId)
    ⟨q, w, x.calls ++ [⟨e, r, .held c⟩]⟩
  else x

/-- What a caller is left with after a poll. -/
def afterPoll (st : Standing κ) (c : QueuedCall κ) : Option HostResult → Stage κ
  | some result => .ended st result
  | none => .held c

/-- A caller polls its call. -/
def poll (d : Delegate κ σ) (n : Nat) (x : Session κ σ) : Session κ σ :=
  match x.calls[n]? with
  | some ⟨e, r, .held c⟩ =>
    let (result, c', q, w) := Queue.poll d.watched c x.queue x.watch
    ⟨q, w, x.calls.set n ⟨e, r, afterPoll (c.standing x.queue.slots) c' result⟩⟩
  | _ => x

/-- A caller drops its call. -/
def drop (d : Delegate κ σ) (n : Nat) (x : Session κ σ) : Session κ σ :=
  match x.calls[n]? with
  | some ⟨e, r, .held c⟩ =>
    let (q, w) := Queue.drop d.watched c x.queue x.watch
    ⟨q, w, x.calls.set n ⟨e, r, .dropped (c.standing x.queue.slots)⟩⟩
  | _ => x

/-- One move. A caller that is done with its call has nothing left to poll or drop. -/
def step (d : Delegate κ σ) (x : Session κ σ) : Move σ → Session κ σ
  | .submit e r => x.submit d e r
  | .poll n => x.poll d n
  | .drop n => x.drop d n
  | .fire => ⟨(x.queue.fire d.watched x.watch).1, (x.queue.fire d.watched x.watch).2, x.calls⟩
  | .close => ⟨(x.queue.close d.watched x.watch).1, (x.queue.close d.watched x.watch).2, x.calls⟩
  | .letGo => { x with queue := x.queue.die }
  | .change f => { x with watch := { x.watch with state := f x.watch.state } }

/-- Moves one after the other. -/
def run (d : Delegate κ σ) (x : Session κ σ) (moves : List (Move σ)) : Session κ σ :=
  moves.foldl (step d) x

/-- What the callers hold. -/
def live (calls : List (Submission κ)) : List (QueuedCall κ) :=
  calls.filterMap (·.stage.held?)

/-- The offers that were made of a call, the oldest first. -/
def offersOf (x : Session κ σ) (n : Nat) : List Offer := x.watch.offers.filter (·.call = n)

@[simp] theorem run_cons (d : Delegate κ σ) (x : Session κ σ) (m : Move σ) (moves : List (Move σ)) :
    x.run d (m :: moves) = (x.step d m).run d moves := rfl

/-! ### What callers hold -/

/-- A caller that holds something is one among the callers. What it does with it does
not concern the others, whether it still holds something afterwards or not. -/
theorem live_set {calls : List (Submission κ)} {n : Nat} {c : Submission κ} {held : QueuedCall κ}
    (hc : calls[n]? = some c) (hheld : c.stage.held? = some held) :
    ∃ rest, (live calls).Perm (held :: rest) ∧
      (∀ (c' : Submission κ) held', c'.stage.held? = some held' →
        (held' :: rest).Perm (live (calls.set n c'))) ∧
      ∀ c' : Submission κ, c'.stage.held? = none → rest.Perm (live (calls.set n c')) := by
  obtain ⟨hn, rfl⟩ := List.getElem?_eq_some_iff.mp hc
  -- The others are those before it and those after it.
  refine ⟨live (calls.take n) ++ live (calls.drop (n + 1)), ?_, fun c' held' hc' => ?_,
    fun c' hc' => ?_⟩
  · have hsplit : calls = calls.take n ++ calls[n] :: calls.drop (n + 1) := by
      rw [← List.drop_eq_getElem_cons hn, List.take_append_drop]
    have hlive : live calls = live (calls.take n) ++ held :: live (calls.drop (n + 1)) := by
      conv_lhs => rw [hsplit]
      simp only [live, List.filterMap_append, List.filterMap_cons, hheld]
    rw [hlive]
    exact List.perm_middle
  · have hlive : live (calls.set n c') =
        live (calls.take n) ++ held' :: live (calls.drop (n + 1)) := by
      rw [List.set_eq_take_append_cons_drop, if_pos hn]
      simp only [live, List.filterMap_append, List.filterMap_cons, hc']
    rw [hlive]
    exact List.perm_middle.symm
  · have hlive : live (calls.set n c') =
        live (calls.take n) ++ live (calls.drop (n + 1)) := by
      rw [List.set_eq_take_append_cons_drop, if_pos hn]
      simp only [live, List.filterMap_append, List.filterMap_cons, hc']
    rw [hlive]

theorem mem_live {calls : List (Submission κ)} {held : QueuedCall κ} :
    held ∈ live calls ↔
      ∃ (n : Nat) (c : Submission κ), calls[n]? = some c ∧ c.stage = .held held := by
  simp only [live, List.mem_filterMap]
  constructor
  · rintro ⟨c, hc, hheld⟩
    obtain ⟨n, hn⟩ := List.getElem?_of_mem hc
    refine ⟨n, c, hn, ?_⟩
    cases hstage : c.stage with
    | held c' =>
      rw [hstage] at hheld
      cases hheld
      rfl
    | ended _ _ =>
      rw [hstage] at hheld
      cases hheld
    | dropped _ =>
      rw [hstage] at hheld
      cases hheld
  · rintro ⟨n, c, hn, hstage⟩
    exact ⟨c, List.mem_of_getElem? hn, by rw [hstage]; rfl⟩

/-- After a caller has done something with its call, a call is that one or as before. -/
theorem getElem?_of_set {calls : List (Submission κ)} {n m : Nat} {c c' : Submission κ}
    (h : (calls.set n c)[m]? = some c') : m = n ∧ c' = c ∨ m ≠ n ∧ calls[m]? = some c' := by
  by_cases hmn : m = n
  · subst hmn
    have hm : m < calls.length := by
      have hlt := (List.getElem?_eq_some_iff.mp h).1
      rwa [List.length_set] at hlt
    rw [List.getElem?_set_self hm, Option.some.injEq] at h
    exact .inl ⟨rfl, h.symm⟩
  · rw [List.getElem?_set_ne (Ne.symm hmn)] at h
    exact .inr ⟨hmn, h⟩

/-- After a call was submitted, a call is that one or one from before. -/
theorem getElem?_of_push {calls : List (Submission κ)} {m : Nat} {c c' : Submission κ}
    (h : (calls ++ [c])[m]? = some c') :
    m < calls.length ∧ calls[m]? = some c' ∨ m = calls.length ∧ c' = c := by
  by_cases hlt : m < calls.length
  · rw [List.getElem?_append_left hlt] at h
    exact .inl ⟨hlt, h⟩
  · have hle := (List.getElem?_eq_some_iff.mp h).1
    rw [List.length_append, List.length_singleton] at hle
    obtain rfl : m = calls.length := by omega
    rw [List.getElem?_concat_length, Option.some.injEq] at h
    exact .inr ⟨rfl, h.symm⟩

/-! ### What a move does -/

/-- What a move does to a session. -/
inductive Does (d : Delegate κ σ) (x : Session κ σ) : Move σ → Session κ σ → Prop where
  | nothing {m : Move σ} (hm : m ≠ .fire) : Does d x m x
  | submitted {e : Endpoint} {r : Request} {c : QueuedCall (Stamped κ)} {q' : Queue (Stamped κ)}
      {w' : Watched σ} (halive : x.queue.alive = true)
      (hsubmits : Queue.Submits d.watched e r x.queue
        (x.watch.enter x.calls.length x.queue.nextId) c q' w') :
      Does d x (.submit e r) ⟨q', w', x.calls ++ [⟨e, r, .held c⟩]⟩
  | polled {n : Nat} {e : Endpoint} {r : Request} {c c' : QueuedCall (Stamped κ)}
      {result : Option HostResult} {q' : Queue (Stamped κ)} {w' : Watched σ}
      (hc : x.calls[n]? = some ⟨e, r, .held c⟩)
      (hpolls : Queue.Polls d.watched c x.queue x.watch result c' q' w') :
      Does d x (.poll n)
        ⟨q', w', x.calls.set n ⟨e, r, afterPoll (c.standing x.queue.slots) c' result⟩⟩
  | dropped {n : Nat} {e : Endpoint} {r : Request} {c : QueuedCall (Stamped κ)}
      {q' : Queue (Stamped κ)} {w' : Watched σ} (hc : x.calls[n]? = some ⟨e, r, .held c⟩)
      (hdrops : Queue.Drops d.watched c x.queue x.watch q' w') :
      Does d x (.drop n) ⟨q', w', x.calls.set n ⟨e, r, .dropped (c.standing x.queue.slots)⟩⟩
  | fired {q' : Queue (Stamped κ)} {w' : Watched σ}
      (hfires : Queue.Fires d.watched x.queue x.watch q' w') : Does d x .fire ⟨q', w', x.calls⟩
  | closed (hopen : x.queue.closed = false) :
      Does d x .close
        ⟨(x.queue.close d.watched x.watch).1, (x.queue.close d.watched x.watch).2, x.calls⟩
  | letGo : Does d x .letGo { x with queue := x.queue.die }
  | changed (f : σ → σ) :
      Does d x (.change f) { x with watch := { x.watch with state := f x.watch.state } }

/-- A caller that holds something is found among the callers. -/
theorem sound_of_held {calls : List (Submission κ)} {q : Queue κ} {n : Nat} {e : Endpoint}
    {r : Request} {c : QueuedCall κ} (hq : q.Sound (live calls))
    (hc : calls[n]? = some ⟨e, r, .held c⟩) : ∃ rest, q.Sound (c :: rest) := by
  obtain ⟨rest, hlive, -⟩ := live_set hc rfl
  exact ⟨rest, hq.perm hlive⟩

/-- In front of a sound queue, a move does one of these things. -/
theorem step_does {x : Session κ σ} (d : Delegate κ σ) (hq : x.queue.Sound (live x.calls))
    (hr : x.queue.running = false) (m : Move σ) : Does d x m (x.step d m) := by
  cases m with
  | submit e r =>
    show Does d x _ (x.submit d e r)
    unfold submit
    split
    · next halive =>
      exact .submitted halive (Queue.submit_submits d.watched_quiet hq hr halive e r _)
    · exact .nothing (by simp)
  | poll n =>
    show Does d x _ (x.poll d n)
    unfold poll
    split
    · next e r c hc =>
      obtain ⟨rest, hheld⟩ := sound_of_held hq hc
      exact .polled hc (Queue.poll_polls d.watched_quiet hheld hr x.watch)
    · exact .nothing (by simp)
  | drop n =>
    show Does d x _ (x.drop d n)
    unfold drop
    split
    · next e r c hc =>
      obtain ⟨rest, hheld⟩ := sound_of_held hq hc
      exact .dropped hc (Queue.drop_drops d.watched_quiet hheld hr x.watch)
    · exact .nothing (by simp)
  | fire => exact .fired (Queue.fire_fires d.watched_quiet hq hr x.watch)
  | close =>
    by_cases hopen : x.queue.closed = false
    · exact .closed hopen
    · have hsame : x.queue.close d.watched x.watch = (x.queue, x.watch) := by
        unfold Queue.close
        exact if_pos (by simpa using hopen)
      have hstep : x.step d .close = x := by
        show (⟨_, _, _⟩ : Session κ σ) = x
        rw [hsame]
      rw [hstep]
      exact .nothing (by simp)
  | letGo => exact .letGo
  | change f => exact .changed f

end Session

end RpcPipeline
