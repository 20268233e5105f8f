import RpcPipeline.Proofs.Queue.Sound

/-!
# `RpcPipeline.Proofs.Queue.Pass`: what a pass does

`Queue.offerAll` counts down a bound, looks out for callers that have gone and for
a queue that is closed meanwhile. In front of a backend that leaves the queue alone
while it is asked (`Backend.Quiet`) none of that shows: a pass offers the waiting
calls in turn until one is refused or none is left. `Queue.Serves` says so, and
`offerAll_serves` is the theorem. Everything about passes is then an induction over
`Serves`, with one case for each way in which an offer can go.

* `Serves.eq_update`, `Serves.sound`, `Serves.stalled_iff`: what a pass leaves
  alone, that it keeps `Sound`, and when it gets stuck.
* `trigger_round`: asking for a pass is one pass (`Queue.Round`).
* `submit_submits`: what a new call can come to (`Queue.Submits`).
-/

set_option autoImplicit false

namespace RpcPipeline

variable {κ σ : Type}

/-- The queue stays as it is while a call is offered. -/
def Backend.Quiet (b : Backend κ σ) : Prop := ∀ e r q s, (b.offer e r q s).2.1 = q

/-- A quiet backend gives an answer and a state of its own. -/
theorem Backend.Quiet.exists_offer {b : Backend κ σ} (hb : b.Quiet) (e : Endpoint) (r : Request)
    (q : Queue κ) (s : σ) : ∃ answer s', b.offer e r q s = (answer, q, s') := by
  have h := hb e r q s
  rcases hoffer : b.offer e r q s with ⟨answer, q', s'⟩
  rw [hoffer] at h
  exact ⟨answer, s', congrArg (fun x => (answer, x, s')) h⟩

namespace Queue

/-- Waiting calls are offered in turn, until one is refused or none is left; the
flag says whether one was refused. -/
inductive Serves (b : Backend κ σ) (fairness : Fairness) :
    Queue κ → σ → Bool → Queue κ → σ → Prop where
  | done {q : Queue κ} {s : σ} (hpop : q.lanes.pop = none) : Serves b fairness q s false q s
  | refused {q : Queue κ} {s s' : σ} {w : Waiter} {rest : Lanes}
      (hpop : q.lanes.pop = some (w, rest))
      (hoffer : b.offer w.endpoint w.request { q with lanes := rest } s =
        (none, { q with lanes := rest }, s')) :
      Serves b fairness q s true { q with lanes := rest.restore fairness w } s'
  | taken {q q' : Queue κ} {s s' s'' : σ} {w : Waiter} {rest : Lanes} {call : κ} {stalled : Bool}
      (hpop : q.lanes.pop = some (w, rest))
      (hoffer : b.offer w.endpoint w.request { q with lanes := rest } s =
        (some call, { q with lanes := rest }, s'))
      (hserves : Serves b fairness (q.dispatched rest w.id call) s' stalled q' s'') :
      Serves b fairness q s stalled q' s''

variable {b : Backend κ σ} {fairness : Fairness} {q q' : Queue κ} {s s' : σ} {stalled : Bool}
  {live : List (QueuedCall κ)}

/-- Offering with a bound beyond the number of waiting calls serves them. -/
theorem offerAll_serves (hb : b.Quiet) (fairness : Fairness) :
    ∀ (fuel : Nat) (q : Queue κ) (s : σ), q.Sound live → q.lanes.count < fuel →
      Serves b fairness q s (offerAll b fairness fuel q s).1 (offerAll b fairness fuel q s).2.1
        (offerAll b fairness fuel q s).2.2 := by
  intro fuel
  induction fuel with
  | zero => intro q s _ hfuel; omega
  | succ fuel ih =>
    intro q s hq hfuel
    cases hpop : q.lanes.pop with
    | none =>
      have heq : offerAll b fairness (fuel + 1) q s = (false, q, s) := by
        simp only [offerAll, WaitingRoom.pop, hpop, Option.map_none]
      rw [heq]
      exact .done hpop
    | some next =>
      obtain ⟨w, rest⟩ := next
      obtain ⟨hslot, hclosed, -⟩ := hq.of_pop hpop
      -- The caller is still there, since its slot is, and the queue takes calls.
      have hgone : ({ q with lanes := rest }.isDeserted w.id || q.closed) = false := by
        simp [isDeserted, hslot, hclosed]
      obtain ⟨answer, s', hoffer⟩ := hb.exists_offer w.endpoint w.request { q with lanes := rest } s
      cases answer with
      | none =>
        have heq : offerAll b fairness (fuel + 1) q s =
            (true, { q with lanes := rest.restore fairness w }, s') := by
          simp only [offerAll, WaitingRoom.pop, hpop, Option.map_some, hgone, Bool.false_eq_true,
            if_false]
          rw [hoffer]
          simp [hclosed, WaitingRoom.restore]
        rw [heq]
        exact .refused hpop hoffer
      | some call =>
        have heq : offerAll b fairness (fuel + 1) q s =
            offerAll b fairness fuel (q.dispatched rest w.id call) s' := by
          simp only [offerAll, WaitingRoom.pop, hpop, Option.map_some, hgone, Bool.false_eq_true,
            if_false]
          rw [hoffer]
          simp [hand, isDeserted, settle, WaitingRoom.settle, hslot, dispatched]
        rw [heq]
        refine .taken hpop hoffer (ih _ _ (hq.dispatched hpop call) ?_)
        have hcount := (Lanes.ids_of_pop hpop).length_eq
        rw [List.length_cons, Lanes.length_ids, Lanes.length_ids] at hcount
        show rest.count < fuel
        omega

namespace Serves

/-- A pass touches lanes, slots and the two counts. -/
theorem eq_update (h : Serves b fairness q s stalled q' s') :
    q' = { q with lanes := q'.lanes, len := q'.len, inFlight := q'.inFlight,
                  slots := q'.slots } := by
  induction h with
  | done => rfl
  | refused => rfl
  | taken _ _ _ ih => rw [ih]; rfl

theorem sound (h : Serves b fairness q s stalled q' s') (hq : q.Sound live) : q'.Sound live := by
  induction h with
  | done => exact hq
  | refused hpop => exact hq.putBack hpop _
  | taken hpop _ _ ih => exact ih (hq.dispatched hpop _)

/-- A pass gets stuck exactly if it leaves calls behind. -/
theorem stalled_iff (h : Serves b fairness q s stalled q' s') (hq : q.Sound live) :
    stalled = true ↔ q'.lanes ≠ [] := by
  induction h with
  | @done q s hpop =>
    refine ⟨fun h => (by cases h), fun hne => ?_⟩
    obtain ⟨w, rest, hsome⟩ := Lanes.exists_pop hq.occupied hne
    rw [hpop] at hsome
    cases hsome
  | refused => exact ⟨fun _ => List.cons_ne_nil _ _, fun _ => rfl⟩
  | taken hpop _ _ ih => exact ih (hq.dispatched hpop _)

/-- A slot is either left as it is, or it was empty and is filled. -/
theorem get?_slots (h : Serves b fairness q s stalled q' s') (hq : q.Sound live) (id : Nat) :
    q'.slots.get? id = q.slots.get? id ∨
      q.slots.get? id = some .empty ∧ ∃ call, q'.slots.get? id = some (.filled call) := by
  induction h with
  | done => exact .inl rfl
  | refused => exact .inl rfl
  | @taken q q' s s' s'' w rest call stalled hpop _ _ ih =>
    have hslot := (hq.of_pop hpop).1
    have hslots : (q.dispatched rest w.id call).slots.get? id =
        if id = w.id then some (.filled call) else q.slots.get? id :=
      Table.get?_insert ..
    rcases ih (hq.dispatched hpop call) with h | ⟨h, call', h'⟩
    · by_cases hid : id = w.id
      · subst hid
        rw [hslots, if_pos rfl] at h
        exact .inr ⟨hslot, call, h⟩
      · rw [hslots, if_neg hid] at h
        exact .inl h
    · by_cases hid : id = w.id
      · subst hid
        rw [hslots, if_pos rfl] at h
        cases h
      · rw [hslots, if_neg hid] at h
        exact .inr ⟨h, call', h'⟩

end Serves

/-! ### Asking for a pass -/

/-- The queue at the beginning of a pass. -/
def beginPass (q : Queue κ) : Queue κ :=
  { q with running := true, rerun := false, rounds := q.rounds + 1 }

/-- The queue after a pass. A timer is set if the pass got stuck and nothing is under
way. -/
def endPass (q : Queue κ) (stalled : Bool) (now : Instant) (delay : Nanos) : Queue κ :=
  { if stalled && q.inFlight = 0 then q.arm now delay else q with running := false }

/-- One pass, from the moment it is asked for. -/
def Round (b : Backend κ σ) (q : Queue κ) (s : σ) (q' : Queue κ) (s' : σ) : Prop :=
  ∃ (stalled : Bool) (mid : Queue κ) (s₁ : σ),
    Serves b (b.settings s).fairness q.beginPass s stalled mid s₁ ∧
      s' = b.report mid.len s₁ ∧
      q' = mid.endPass stalled (b.now s') (b.settings s').stallRetryDelay

theorem Sound.beginPass (h : q.Sound live) : q.beginPass.Sound live := h.reflag ..

/-- Setting a timer changes the timers only. -/
theorem arm_eq (q : Queue κ) (now : Instant) (delay : Nanos) :
    q.arm now delay =
      { q with armed := (q.arm now delay).armed, timers := (q.arm now delay).timers } := by
  unfold arm
  split <;> rfl

/-- The end of a pass changes a flag and the timers only. -/
theorem endPass_eq (q : Queue κ) (stalled : Bool) (now : Instant) (delay : Nanos) :
    q.endPass stalled now delay =
      { q with running := false, armed := (q.endPass stalled now delay).armed,
               timers := (q.endPass stalled now delay).timers } := by
  unfold endPass
  split
  · rw [arm_eq]
  · rfl

theorem Sound.endPass (h : q.Sound live) (stalled : Bool) (now : Instant) (delay : Nanos) :
    (q.endPass stalled now delay).Sound live := by
  rw [endPass_eq]
  exact h.reflag ..

/-- If nobody asks for another pass, that is the end. -/
theorem passes_of_rerun (b : Backend κ σ) (fuel : Nat) (s : σ) (h : q.rerun = false) :
    passes b fuel q s = ({ q with running := false }, s) := by
  cases fuel with
  | zero => rfl
  | succ fuel => simp [passes, h]

/-- The first of the passes that are asked for. -/
theorem passes_of_asked (b : Backend κ σ) (fuel : Nat) (s : σ) (h : q.rerun = true) :
    passes b (fuel + 1) q s =
      passes b fuel (pass b { q with rerun := false } s).1
        (pass b { q with rerun := false } s).2 := by
  simp only [passes, h, if_true]

/-- A pass offers what waits, reports how much is left and sets a timer if need be. -/
theorem pass_eq (b : Backend κ σ) {q mid : Queue κ} {s s₁ : σ} {stalled : Bool}
    (hoffers : offerAll b (b.settings s).fairness (q.lanes.count + b.callbacks s + 1)
      { q with rounds := q.rounds + 1 } s = (stalled, mid, s₁)) :
    pass b q s =
      (if stalled && mid.inFlight = 0 then
          mid.arm (b.now (b.report mid.len s₁))
            (b.settings (b.report mid.len s₁)).stallRetryDelay
        else mid,
        b.report mid.len s₁) := by
  simp only [pass, hoffers]
  split <;> rfl

/-- Asking for a pass while none runs makes one pass. No second one follows, since
nobody asks for it meanwhile. -/
theorem trigger_round (hb : b.Quiet) (hq : q.Sound live) (hr : q.running = false) (s : σ) :
    Round b q s (trigger b q s).1 (trigger b q s).2 := by
  have hserves := offerAll_serves hb (b.settings s).fairness
    (q.lanes.count + b.callbacks s + 1) q.beginPass s hq.beginPass
    (show q.lanes.count < _ by omega)
  rcases hoffers : offerAll b (b.settings s).fairness
    (q.lanes.count + b.callbacks s + 1) q.beginPass s with ⟨stalled, mid, s₁⟩
  rw [hoffers] at hserves
  have hrerun : mid.rerun = false := congrArg Queue.rerun hserves.eq_update
  have hpass := pass_eq b (q := { q with running := true, rerun := false }) hoffers
  have htrigger : trigger b q s =
      passes b (2 * b.callbacks s + 2) { q with running := true, rerun := true } s := by
    unfold trigger
    exact if_neg (by simp [hr])
  rw [htrigger, passes_of_asked b _ s rfl, hpass, passes_of_rerun]
  · exact ⟨stalled, mid, s₁, hserves, rfl, rfl⟩
  · show (if _ then _ else _ : Queue κ).rerun = false
    split
    · rw [arm_eq]
      exact hrerun
    · exact hrerun

namespace Round

variable {b : Backend κ σ} {q q' : Queue κ} {s s' : σ} {live : List (QueuedCall κ)}

theorem sound (h : Round b q s q' s') (hq : q.Sound live) : q'.Sound live := by
  obtain ⟨stalled, mid, s₁, hserves, -, rfl⟩ := h
  exact (hserves.sound hq.beginPass).endPass ..

/-- A pass is over when it is over, and it was one. -/
theorem flags (h : Round b q s q' s') :
    q'.running = false ∧ q'.rounds = q.rounds + 1 ∧ q'.nextId = q.nextId ∧
      q'.closed = q.closed ∧ q'.alive = q.alive ∧ q'.timed = q.timed := by
  obtain ⟨stalled, mid, s₁, hserves, -, rfl⟩ := h
  rw [endPass_eq, hserves.eq_update]
  exact ⟨rfl, rfl, rfl, rfl, rfl, rfl⟩

theorem rounds_le (h : Round b q s q' s') : q.rounds ≤ q'.rounds := by
  rw [h.flags.2.1]
  exact Nat.le_succ _

/-- A pass does not end the queue. -/
theorem ends (h : Round b q s q' s') : q'.closed = q.closed ∧ q'.alive = q.alive := by
  obtain ⟨-, -, -, hclosed, halive, -⟩ := h.flags
  exact ⟨hclosed, halive⟩

/-- A slot is either left as it is, or it was empty and is filled. -/
theorem get?_slots (h : Round b q s q' s') (hq : q.Sound live) (id : Nat) :
    q'.slots.get? id = q.slots.get? id ∨
      q.slots.get? id = some .empty ∧ ∃ call, q'.slots.get? id = some (.filled call) := by
  obtain ⟨stalled, mid, s₁, hserves, -, rfl⟩ := h
  rw [endPass_eq]
  exact hserves.get?_slots hq.beginPass id

end Round

/-! ### A new call -/

/-- A new call is not taken directly, either since others wait or since it is
refused. -/
def Declined (b : Backend κ σ) (e : Endpoint) (r : Request) (q : Queue κ) (s s' : σ) : Prop :=
  q.len ≠ 0 ∧ s' = s ∨ q.len = 0 ∧ b.offer e r q s = (none, q, s')

/-- What a new call can come to. -/
inductive Submits (b : Backend κ σ) (e : Endpoint) (r : Request) (q : Queue κ) (s : σ) :
    QueuedCall κ → Queue κ → σ → Prop where
  | closed (hclosed : q.closed = true) : Submits b e r q s (.refused .cancelled) q s
  | direct {call : κ} {s' : σ} (hopen : q.closed = false) (hlen : q.len = 0)
      (hoffer : b.offer e r q s = (some call, q, s')) :
      Submits b e r q s (.running call) { q with inFlight := q.inFlight + 1 } s'
  | full {s' : σ} (hopen : q.closed = false) (hdeclined : Declined b e r q s s')
      (hroom : (b.settings s').capacity.toNat ≤ q.len) :
      Submits b e r q s (.refused (.queueFull (b.settings s').capacity.toNat))
        { q with nextId := q.nextId + 1 } s'
  | queued {q' : Queue κ} {s' s'' : σ} (hopen : q.closed = false)
      (hdeclined : Declined b e r q s s')
      (hroom : q.len < (b.settings s').capacity.toNat)
      (hround : Round b
        (enqueue { q with nextId := q.nextId + 1 } (b.settings s').fairness q.nextId e r)
        (b.report (q.len + 1) s') q' s'') :
      Submits b e r q s (.waiting q.nextId) q' s''

/-- What follows once a new call is not taken directly. -/
theorem submits_of_declined (hb : b.Quiet) (hq : q.Sound live) (hr : q.running = false)
    (ha : q.alive = true) (hopen : q.closed = false) {e : Endpoint} {r : Request}
    (hdeclined : Declined b e r q s s')
    (heq : submit b e r q s =
      if (b.settings s').capacity.toNat ≤ q.len then
        (.refused (.queueFull (b.settings s').capacity.toNat),
          { q with nextId := q.nextId + 1 }, s')
      else
        (.waiting q.nextId,
          trigger b
            (enqueue { q with nextId := q.nextId + 1 } (b.settings s').fairness q.nextId e r)
            (b.report (q.len + 1) s'))) :
    Submits b e r q s (submit b e r q s).1 (submit b e r q s).2.1 (submit b e r q s).2.2 := by
  rw [heq]
  split
  · next hroom => exact .full hopen hdeclined hroom
  · next hroom =>
    exact .queued hopen hdeclined (Nat.lt_of_not_le hroom)
      (trigger_round hb (hq.enqueue hopen ha _ e r) hr _)

theorem submit_submits (hb : b.Quiet) (hq : q.Sound live) (hr : q.running = false)
    (ha : q.alive = true) (e : Endpoint) (r : Request) (s : σ) :
    Submits b e r q s (submit b e r q s).1 (submit b e r q s).2.1 (submit b e r q s).2.2 := by
  cases hclosed : q.closed with
  | true =>
    have heq : submit b e r q s = (.refused .cancelled, q, s) := by simp [submit, hclosed]
    rw [heq]
    exact .closed hclosed
  | false =>
    by_cases hlen : q.len = 0
    · obtain ⟨answer, s', hoffer⟩ := hb.exists_offer e r q s
      cases answer with
      | some call =>
        have heq : submit b e r q s =
            (.running call, { q with inFlight := q.inFlight + 1 }, s') := by
          unfold submit
          rw [if_neg (by simp [hclosed]), if_pos hlen, hoffer]
        rw [heq]
        exact .direct hclosed hlen hoffer
      | none =>
        refine submits_of_declined hb hq hr ha hclosed (.inr ⟨hlen, hoffer⟩) ?_
        unfold submit
        rw [if_neg (by simp [hclosed]), if_pos hlen, hoffer]
        rfl
    · refine submits_of_declined hb hq hr ha hclosed (.inl ⟨hlen, rfl⟩) ?_
      unfold submit
      rw [if_neg (by simp [hclosed]), if_neg hlen]
      rfl

end Queue

end RpcPipeline
