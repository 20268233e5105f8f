import RpcPipeline.Proofs.Queue.Lanes
import RpcPipeline.Queue.Queue

/-!
# `RpcPipeline.Proofs.Queue.Sound`: lanes, slots and counters agree

A call that waits is written down in several places: in a lane, in a slot, in two
counters, and in what its caller holds. `Queue.Sound q live` says that these agree,
where `live` lists what the callers hold whose calls have neither ended nor been
dropped. The order of `live` does not matter.

The lemmas of this module are the single moves of which the operations of a queue
consist. Each keeps `Sound`:

* `Sound.enqueue`: a call joins a lane, and a caller waits for it.
* `Sound.dispatched`, `Sound.putBack`: a pass takes the next call, which is then taken by
  a host or goes back to its lane.
* `Sound.collect`, `Sound.release`: a caller finds its call in the slot; the call ends.
* `Sound.withdraw`, `Sound.forget`: a caller gives up.
* `Sound.givenUp`: the queue gives up what waits.
-/

set_option autoImplicit false

namespace RpcPipeline

variable {κ : Type}

/-- The slot that a caller waits at. -/
def QueuedCall.ticket? : QueuedCall κ → Option Nat
  | .waiting id => some id
  | .refused _ | .running _ => none

/-- Whether a host has taken the call. -/
def Slot.isFilled : Slot κ → Bool
  | .filled _ => true
  | .empty | .abandoned => false

/-- The slot once the queue has given the call up. -/
def Slot.givenUp : Slot κ → Slot κ
  | .empty => .abandoned
  | slot => slot

/-- Whether a host has taken a call that has not ended, as the slots show. -/
def QueuedCall.isTaken (slots : Table Nat (Slot κ)) : QueuedCall κ → Bool
  | .refused _ => false
  | .running _ => true
  | .waiting id => (slots.get? id).any Slot.isFilled

namespace Queue

/-- The slots that callers wait at. -/
def tickets (live : List (QueuedCall κ)) : List Nat := live.filterMap QueuedCall.ticket?

/-- Lanes, slots and counters agree with each other, and with the calls `live` that
callers hold. -/
structure Sound (q : Queue κ) (live : List (QueuedCall κ)) : Prop where
  occupied : q.lanes.Occupied
  nodup : q.lanes.ids.Nodup
  /-- A call stands in a lane exactly as long as its slot is empty. -/
  awaits : ∀ id, id ∈ q.lanes.ids ↔ q.slots.get? id = some .empty
  len_eq : q.len = q.lanes.count
  below : ∀ id, (q.slots.get? id).isSome → id < q.nextId
  /-- Nothing waits once the queue takes no more calls. -/
  shut : q.closed = true ∨ q.alive = false → q.lanes = []
  distinct : (tickets live).Nodup
  /-- A slot is there exactly as long as a caller may look at it. -/
  owned : ∀ id, (q.slots.get? id).isSome ↔ id ∈ tickets live
  inFlight_eq : q.alive = true → q.inFlight = live.countP (QueuedCall.isTaken q.slots)

/-! ### What callers hold -/

@[simp] theorem tickets_nil : tickets ([] : List (QueuedCall κ)) = [] := rfl

@[simp] theorem tickets_refused (e : CallError) (live : List (QueuedCall κ)) :
    tickets (.refused e :: live) = tickets live := rfl

@[simp] theorem tickets_running (call : κ) (live : List (QueuedCall κ)) :
    tickets (.running call :: live) = tickets live := rfl

@[simp] theorem tickets_waiting (id : Nat) (live : List (QueuedCall κ)) :
    tickets (.waiting id :: live) = id :: tickets live := rfl

theorem mem_tickets {id : Nat} {live : List (QueuedCall κ)} :
    id ∈ tickets live ↔ .waiting id ∈ live := by
  simp only [tickets, List.mem_filterMap]
  constructor
  · rintro ⟨c, hc, ht⟩
    cases c with
    | waiting id' => cases ht; exact hc
    | refused _ => cases ht
    | running _ => cases ht
  · exact fun h => ⟨_, h, rfl⟩

@[simp] theorem isTaken_refused (slots : Table Nat (Slot κ)) (e : CallError) :
    QueuedCall.isTaken slots (.refused e) = false := rfl

@[simp] theorem isTaken_running (slots : Table Nat (Slot κ)) (call : κ) :
    QueuedCall.isTaken slots (.running call) = true := rfl

@[simp] theorem isTaken_waiting (slots : Table Nat (Slot κ)) (id : Nat) :
    QueuedCall.isTaken slots (.waiting id) = (slots.get? id).any Slot.isFilled := rfl

/-- How many calls are taken depends on the slots of the callers only. -/
theorem countP_isTaken_congr {slots slots' : Table Nat (Slot κ)} {live : List (QueuedCall κ)}
    (h : ∀ id ∈ tickets live,
      (slots'.get? id).any Slot.isFilled = (slots.get? id).any Slot.isFilled) :
    live.countP (QueuedCall.isTaken slots') = live.countP (QueuedCall.isTaken slots) := by
  refine List.countP_congr fun c hc => ?_
  cases c with
  | refused _ => rfl
  | running _ => rfl
  | waiting id => simp only [QueuedCall.isTaken, h id (mem_tickets.mpr hc)]

/-- Filling an empty slot that a caller waits at makes one more call taken. -/
theorem countP_isTaken_fill {slots : Table Nat (Slot κ)} {live : List (QueuedCall κ)} {id : Nat}
    (call : κ) (hd : (tickets live).Nodup) (hm : id ∈ tickets live)
    (he : slots.get? id = some .empty) :
    live.countP (QueuedCall.isTaken (slots.insert id (.filled call))) =
      live.countP (QueuedCall.isTaken slots) + 1 := by
  -- The slots are distinct, so exactly one caller sees the difference.
  induction live with
  | nil => simp at hm
  | cons c live ih =>
    cases c with
    | refused e =>
      rw [List.countP_cons_of_neg (by simp), List.countP_cons_of_neg (by simp)]
      exact ih hd hm
    | running call' =>
      rw [List.countP_cons_of_pos (by simp), List.countP_cons_of_pos (by simp), ih hd hm]
    | waiting id' =>
      rw [tickets_waiting, List.nodup_cons] at hd
      by_cases h : id' = id
      · subst h
        have hrest : live.countP (QueuedCall.isTaken (slots.insert id' (.filled call))) =
            live.countP (QueuedCall.isTaken slots) :=
          countP_isTaken_congr fun id hid => by
            rw [Table.get?_insert, if_neg (fun h : id = id' => hd.1 (h ▸ hid))]
        rw [List.countP_cons_of_pos (by simp [Slot.isFilled]),
          List.countP_cons_of_neg (by simp [he, Slot.isFilled]), hrest]
      · have hm' : id ∈ tickets live := by
          rw [tickets_waiting, List.mem_cons] at hm
          exact hm.resolve_left (Ne.symm h)
        simp only [List.countP_cons, ih hd.2 hm', isTaken_waiting, Table.get?_insert, if_neg h]
        exact Nat.add_right_comm ..

/-- Callers whose slots keep their contents count the same calls. -/
theorem countP_isTaken_erase {slots : Table Nat (Slot κ)} {live : List (QueuedCall κ)} {id : Nat}
    (hm : id ∉ tickets live) :
    live.countP (QueuedCall.isTaken (slots.erase id)) =
      live.countP (QueuedCall.isTaken slots) :=
  countP_isTaken_congr fun id' hid => by
    rw [Table.get?_erase, if_neg (fun h : id' = id => hm (h ▸ hid))]

/-- A queue that takes calls is not shut. -/
theorem not_shut {q : Queue κ} (hc : q.closed = false) (ha : q.alive = true) :
    ¬(q.closed = true ∨ q.alive = false) := by
  simp [hc, ha]

namespace Sound

variable {q : Queue κ} {live : List (QueuedCall κ)}

/-- A queue that nobody has called. -/
theorem new (timed : Bool) : (Queue.new timed : Queue κ).Sound [] where
  occupied := by simp [Queue.new, WaitingRoom.empty, Lanes.Occupied]
  nodup := List.nodup_nil
  awaits id := by
    show id ∈ [] ↔ (Table.empty.get? id : Option (Slot κ)) = some .empty
    simp
  len_eq := rfl
  below id h := by
    have h' : (Table.empty.get? id : Option (Slot κ)).isSome := h
    simp at h'
  shut _ := rfl
  distinct := List.nodup_nil
  owned id := by
    show (Table.empty.get? id : Option (Slot κ)).isSome ↔ id ∈ []
    simp
  inFlight_eq _ := rfl

/-- Flags and timers do not matter. -/
theorem reflag (h : q.Sound live) (running rerun : Bool) (rounds : Nat) (armed : Bool)
    (timers : List Alarm) :
    { q with running := running, rerun := rerun, rounds := rounds, armed := armed,
             timers := timers }.Sound live :=
  ⟨h.occupied, h.nodup, h.awaits, h.len_eq, h.below, h.shut, h.distinct, h.owned, h.inFlight_eq⟩

/-- The order in which the calls of the callers are listed does not matter. -/
theorem perm {live' : List (QueuedCall κ)} (h : q.Sound live) (hp : live.Perm live') :
    q.Sound live' where
  occupied := h.occupied
  nodup := h.nodup
  awaits := h.awaits
  len_eq := h.len_eq
  below := h.below
  shut := h.shut
  distinct := (hp.filterMap _).nodup_iff.mp h.distinct
  owned id := (h.owned id).trans (hp.filterMap _).mem_iff
  inFlight_eq ha := (h.inFlight_eq ha).trans (hp.countP_eq _)

/-- A caller that was turned away holds nothing of the queue. -/
theorem refused (h : q.Sound live) (e : CallError) : q.Sound (.refused e :: live) :=
  ⟨h.occupied, h.nodup, h.awaits, h.len_eq, h.below, h.shut, h.distinct, h.owned,
    fun ha => by rw [List.countP_cons_of_neg (by simp), h.inFlight_eq ha]⟩

/-- A caller that was turned away may go. -/
theorem of_refused {e : CallError} (h : q.Sound (.refused e :: live)) : q.Sound live :=
  ⟨h.occupied, h.nodup, h.awaits, h.len_eq, h.below, h.shut, h.distinct, h.owned,
    fun ha => by rw [h.inFlight_eq ha, List.countP_cons_of_neg (by simp)]⟩

/-- Numbers of slots may be skipped. -/
theorem skip (h : q.Sound live) : { q with nextId := q.nextId + 1 }.Sound live :=
  ⟨h.occupied, h.nodup, h.awaits, h.len_eq, fun id hid => Nat.lt_succ_of_lt (h.below id hid),
    h.shut, h.distinct, h.owned, h.inFlight_eq⟩

/-- Nothing waits exactly if the count says so. -/
theorem lanes_eq_nil (h : q.Sound live) : q.lanes = [] ↔ q.len = 0 := by
  rw [h.len_eq]
  exact ⟨fun hl => by rw [hl]; rfl, Lanes.eq_nil_of_count h.occupied⟩

/-- A call is taken directly. -/
theorem direct (h : q.Sound live) (call : κ) :
    { q with inFlight := q.inFlight + 1 }.Sound (.running call :: live) :=
  ⟨h.occupied, h.nodup, h.awaits, h.len_eq, h.below, h.shut, h.distinct, h.owned,
    fun ha => by rw [List.countP_cons_of_pos (by simp), ← h.inFlight_eq ha]⟩

/-- A call that was taken changes while it proceeds. -/
theorem proceed {call call' : κ} (h : q.Sound (.running call :: live)) :
    q.Sound (.running call' :: live) :=
  ⟨h.occupied, h.nodup, h.awaits, h.len_eq, h.below, h.shut, h.distinct, h.owned,
    fun ha => by
      rw [h.inFlight_eq ha, List.countP_cons_of_pos (by simp), List.countP_cons_of_pos (by simp)]⟩

/-- A call that was taken has ended. -/
theorem release {call : κ} (h : q.Sound (.running call :: live)) :
    { q with inFlight := q.inFlight - 1 }.Sound live :=
  ⟨h.occupied, h.nodup, h.awaits, h.len_eq, h.below, h.shut, h.distinct, h.owned,
    fun ha => by
      have hin := h.inFlight_eq ha
      rw [List.countP_cons_of_pos (by simp)] at hin
      show q.inFlight - 1 = _
      rw [hin]
      rfl⟩

/-- A call that was taken has ended after the queue, which does not count any more. -/
theorem release_of_dead {call : κ} (h : q.Sound (.running call :: live)) (hd : q.alive = false) :
    q.Sound live :=
  ⟨h.occupied, h.nodup, h.awaits, h.len_eq, h.below, h.shut, h.distinct, h.owned,
    fun ha => by rw [hd] at ha; cases ha⟩

/-- The number of the next slot is not in use. -/
theorem get?_nextId (h : q.Sound live) : q.slots.get? q.nextId = none := by
  rw [← Option.not_isSome_iff_eq_none]
  exact fun hs => Nat.lt_irrefl _ (h.below _ hs)

/-- A call joins the end of its lane, with the next slot. -/
theorem enqueue (h : q.Sound live) (hc : q.closed = false) (ha : q.alive = true)
    (fairness : Fairness) (e : Endpoint) (r : Request) :
    (enqueue { q with nextId := q.nextId + 1 } fairness q.nextId e r).Sound
      (.waiting q.nextId :: live) := by
  have hnone := h.get?_nextId
  have hids := Lanes.ids_push fairness ⟨q.nextId, e, r⟩ q.lanes
  have hfresh : q.nextId ∉ q.lanes.ids := by rw [h.awaits, hnone]; simp
  have hticket : q.nextId ∉ tickets live := by rw [← h.owned, hnone]; simp
  refine ⟨Lanes.occupied_push h.occupied, ?_, ?_, ?_, ?_, ?_, ?_, ?_, ?_⟩
  · exact hids.nodup_iff.mpr (List.nodup_cons.mpr ⟨hfresh, h.nodup⟩)
  · intro id
    show id ∈ (q.lanes.push fairness _).ids ↔ (q.slots.insert _ _).get? id = _
    rw [hids.mem_iff, Table.get?_insert, List.mem_cons]
    by_cases hid : id = q.nextId
    · simp [hid]
    · simp [hid, h.awaits]
  · show q.len + 1 = (q.lanes.push fairness _).count
    rw [h.len_eq, Lanes.count, Lanes.count, (Lanes.waiters_push _ _ _).length_eq]
    rfl
  · intro id hs
    show id < q.nextId + 1
    have hs' : ((q.slots.insert q.nextId .empty).get? id).isSome := hs
    rw [Table.get?_insert] at hs'
    by_cases hid : id = q.nextId
    · omega
    · rw [if_neg hid] at hs'
      have := h.below id hs'
      omega
  · exact fun hs => absurd hs (not_shut hc ha)
  · exact List.nodup_cons.mpr ⟨hticket, h.distinct⟩
  · intro id
    show ((q.slots.insert q.nextId .empty).get? id).isSome ↔ id ∈ q.nextId :: tickets live
    rw [Table.get?_insert, List.mem_cons, ← h.owned]
    by_cases hid : id = q.nextId <;> simp [hid]
  · intro ha'
    show q.inFlight = _
    rw [h.inFlight_eq ha, List.countP_cons]
    have hrest : live.countP (QueuedCall.isTaken (q.slots.insert q.nextId .empty)) =
        live.countP (QueuedCall.isTaken q.slots) :=
      countP_isTaken_congr fun id hid => by
        rw [Table.get?_insert, if_neg (fun h : id = q.nextId => hticket (h ▸ hid))]
    show _ = live.countP (QueuedCall.isTaken (q.slots.insert q.nextId .empty)) + _
    rw [hrest]
    simp [Queue.enqueue, Slot.isFilled]

/-! ### A pass -/

/-- Who is next has an empty slot, and the queue takes calls. -/
theorem of_pop {w : Waiter} {rest : Lanes} (h : q.Sound live)
    (hp : q.lanes.pop = some (w, rest)) :
    q.slots.get? w.id = some .empty ∧ q.closed = false ∧ q.alive = true := by
  have hmem : w.id ∈ q.lanes.ids := (Lanes.ids_of_pop hp).mem_iff.mpr (by simp)
  have hne : q.lanes ≠ [] := by rintro hnil; rw [hnil] at hmem; simp at hmem
  refine ⟨(h.awaits _).mp hmem, ?_, ?_⟩
  · cases hc : q.closed with
    | false => rfl
    | true => exact absurd (h.shut (.inl hc)) hne
  · cases ha : q.alive with
    | true => rfl
    | false => exact absurd (h.shut (.inr ha)) hne

end Sound

/-- The queue after a host has taken the next call. -/
def dispatched (q : Queue κ) (rest : Lanes) (id : Nat) (call : κ) : Queue κ :=
  { q with
    lanes := rest
    len := q.len - 1
    inFlight := q.inFlight + 1
    slots := q.slots.insert id (.filled call) }

namespace Sound

variable {q : Queue κ} {live : List (QueuedCall κ)}

/-- The next call is taken by a host. -/
theorem dispatched {w : Waiter} {rest : Lanes} (h : q.Sound live)
    (hp : q.lanes.pop = some (w, rest)) (call : κ) : (q.dispatched rest w.id call).Sound live := by
  obtain ⟨hslot, hclosed, halive⟩ := h.of_pop hp
  have hids := Lanes.ids_of_pop hp
  have hnodup := List.nodup_cons.mp (hids.nodup_iff.mp h.nodup)
  have hticket : w.id ∈ tickets live := by rw [← h.owned, hslot]; rfl
  refine ⟨Lanes.occupied_of_pop h.occupied hp, hnodup.2, ?_, ?_, ?_, ?_, h.distinct, ?_, ?_⟩
  · intro id
    show id ∈ rest.ids ↔ (q.slots.insert _ _).get? id = _
    rw [Table.get?_insert]
    by_cases hid : id = w.id
    · simp [hid, hnodup.1]
    · rw [if_neg hid, ← h.awaits, hids.mem_iff, List.mem_cons]
      simp [hid]
  · show q.len - 1 = rest.count
    rw [h.len_eq, ← Lanes.length_ids, hids.length_eq, List.length_cons, Lanes.length_ids]
    omega
  · intro id hs
    have hs' : ((q.slots.insert w.id (.filled call)).get? id).isSome := hs
    rw [Table.get?_insert] at hs'
    by_cases hid : id = w.id
    · subst hid
      exact h.below _ (by rw [hslot]; rfl)
    · rw [if_neg hid] at hs'
      exact h.below id hs'
  · exact fun hs => absurd hs (not_shut hclosed halive)
  · intro id
    show ((q.slots.insert w.id (.filled call)).get? id).isSome ↔ _
    rw [Table.get?_insert]
    by_cases hid : id = w.id
    · simp [hid, hticket]
    · rw [if_neg hid, h.owned]
  · intro _
    show q.inFlight + 1 = _
    rw [h.inFlight_eq halive]
    exact (countP_isTaken_fill call h.distinct hticket hslot).symm

/-- The next call is refused and goes back to its place. -/
theorem putBack {w : Waiter} {rest : Lanes} (h : q.Sound live)
    (hp : q.lanes.pop = some (w, rest)) (fairness : Fairness) :
    { q with lanes := rest.restore fairness w }.Sound live := by
  have hids : (rest.restore fairness w).ids.Perm q.lanes.ids :=
    (Lanes.ids_restore fairness w rest).trans (Lanes.ids_of_pop hp).symm
  obtain ⟨-, hclosed, halive⟩ := h.of_pop hp
  refine ⟨Lanes.occupied_restore (Lanes.occupied_of_pop h.occupied hp),
    hids.nodup_iff.mpr h.nodup, fun id => hids.mem_iff.trans (h.awaits id), ?_, h.below, ?_,
    h.distinct, h.owned, h.inFlight_eq⟩
  · show q.len = (rest.restore fairness w).count
    rw [h.len_eq, ← Lanes.length_ids, ← Lanes.length_ids, hids.length_eq]
  · exact fun hs => absurd hs (not_shut hclosed halive)

/-! ### Callers -/

/-- The slot of a caller that waits is not that of another caller. -/
theorem notMem_tickets {id : Nat} (h : q.Sound (.waiting id :: live)) : id ∉ tickets live :=
  (List.nodup_cons.mp h.distinct).1

/-- There is a slot for every caller that waits. -/
theorem exists_slot {id : Nat} (h : q.Sound (.waiting id :: live)) :
    ∃ slot, q.slots.get? id = some slot :=
  Option.isSome_iff_exists.mp ((h.owned id).mpr (by simp))

/-- When the slot of a caller goes with it, the others still have theirs. -/
theorem owned_erase {id : Nat} (h : q.Sound (.waiting id :: live)) (id' : Nat) :
    ((q.slots.erase id).get? id').isSome ↔ id' ∈ tickets live := by
  rw [Table.get?_erase]
  by_cases hid : id' = id
  · simp [hid, h.notMem_tickets]
  · rw [if_neg hid, h.owned, tickets_waiting, List.mem_cons]
    simp [hid]

theorem below_erase {id : Nat} (h : q.Sound (.waiting id :: live)) {id' : Nat}
    (hs : ((q.slots.erase id).get? id').isSome) : id' < q.nextId := by
  have hticket : id' ∈ tickets (.waiting id :: live) :=
    List.mem_cons_of_mem id ((h.owned_erase id').mp hs)
  exact h.below id' ((h.owned id').mpr hticket)

/-- Once nothing but a slot remembers a call, the slot may go with its caller. -/
theorem erase {id : Nat} {slot : Slot κ} (h : q.Sound (.waiting id :: live))
    (hs : q.slots.get? id = some slot) (hne : slot ≠ .empty) (inFlight : Nat)
    (hin : q.alive = true → inFlight = live.countP (QueuedCall.isTaken q.slots)) :
    { q with slots := q.slots.erase id, inFlight := inFlight }.Sound live := by
  have hfresh := h.notMem_tickets
  refine ⟨h.occupied, h.nodup, ?_, h.len_eq, fun _ => h.below_erase, h.shut,
    (List.nodup_cons.mp h.distinct).2, h.owned_erase, ?_⟩
  · intro id'
    show id' ∈ q.lanes.ids ↔ (q.slots.erase id).get? id' = _
    rw [Table.get?_erase, h.awaits]
    by_cases hid : id' = id
    · subst hid
      simp [hs, hne]
    · rw [if_neg hid]
  · intro ha
    show inFlight = _
    rw [hin ha]
    exact (countP_isTaken_erase hfresh).symm

/-- A caller finds its call in the slot, and holds it from then on. -/
theorem collect {id : Nat} {call : κ} (h : q.Sound (.waiting id :: live))
    (hs : q.slots.get? id = some (.filled call)) :
    { q with slots := q.slots.erase id }.Sound (.running call :: live) := by
  have herase : { q with slots := q.slots.erase id, inFlight := q.inFlight - 1 }.Sound live :=
    h.erase hs (by simp) (q.inFlight - 1) fun ha => by
      have hin := h.inFlight_eq ha
      rw [List.countP_cons_of_pos (by simp [hs, Slot.isFilled])] at hin
      rw [hin]
      rfl
  refine ⟨herase.occupied, herase.nodup, herase.awaits, herase.len_eq, herase.below, herase.shut,
    herase.distinct, herase.owned, fun ha => ?_⟩
  have hin := h.inFlight_eq ha
  have hout : q.inFlight - 1 = live.countP (QueuedCall.isTaken (q.slots.erase id)) :=
    herase.inFlight_eq ha
  rw [List.countP_cons_of_pos (by simp [hs, Slot.isFilled])] at hin
  show q.inFlight = _
  rw [List.countP_cons_of_pos (by simp), ← hout]
  omega

/-- A caller whose call the queue has given up goes. -/
theorem forget {id : Nat} (h : q.Sound (.waiting id :: live))
    (hs : q.slots.get? id = some .abandoned) :
    { q with slots := q.slots.erase id }.Sound live :=
  h.erase hs (by simp) q.inFlight fun ha => by
    rw [h.inFlight_eq ha, List.countP_cons_of_neg (by simp [hs, Slot.isFilled])]

/-- A caller goes while its call waits. The call leaves its lane. -/
theorem withdraw {id : Nat} (h : q.Sound (.waiting id :: live))
    (hs : q.slots.get? id = some .empty) :
    { q with lanes := q.lanes.remove id, len := q.len - 1,
             slots := q.slots.erase id }.Sound live := by
  have hfresh := h.notMem_tickets
  have hmem : id ∈ q.lanes.ids := (h.awaits id).mpr hs
  have hids := Lanes.ids_remove id q.lanes
  refine ⟨Lanes.occupied_remove id q.lanes, ?_, ?_, ?_, fun _ => h.below_erase, ?_,
    (List.nodup_cons.mp h.distinct).2, h.owned_erase, ?_⟩
  · show (q.lanes.remove id).ids.Nodup
    rw [hids]
    exact h.nodup.filter _
  · intro id'
    show id' ∈ (q.lanes.remove id).ids ↔ (q.slots.erase id).get? id' = _
    rw [hids, List.mem_filter, Table.get?_erase, h.awaits]
    by_cases hid : id' = id <;> simp [hid]
  · show q.len - 1 = (q.lanes.remove id).count
    have hcount : (q.lanes.ids.filter (· ≠ id)).length = q.lanes.ids.length - 1 := by
      rw [← List.length_erase_of_mem hmem, h.nodup.erase_eq_filter]
      exact congrArg List.length (List.filter_congr fun x _ => Bool.eq_iff_iff.mpr (by simp))
    rw [h.len_eq, ← Lanes.length_ids, ← Lanes.length_ids, hids, hcount]
  · intro hshut
    have hnil := h.shut hshut
    rw [hnil] at hmem
    simp at hmem
  · intro ha
    show q.inFlight = live.countP (QueuedCall.isTaken (q.slots.erase id))
    rw [h.inFlight_eq ha, countP_isTaken_erase hfresh,
      List.countP_cons_of_neg (by simp [hs, Slot.isFilled])]

end Sound

/-! ### The end of the queue -/

theorem get?_abandon (q : Queue κ) (id id' : Nat) :
    (q.abandon id).slots.get? id' =
      if id' = id then (q.slots.get? id).map Slot.givenUp else q.slots.get? id' :=
  Table.get?_modify ..

theorem givenUp_givenUp (slot : Slot κ) : slot.givenUp.givenUp = slot.givenUp := by
  cases slot <;> rfl

/-- Giving up calls in turn changes their slots and nothing else. -/
theorem foldl_abandon (ws : List Waiter) (q : Queue κ) :
    (ws.foldl (fun q w => q.abandon w.id) q =
        { q with slots := (ws.foldl (fun q w => q.abandon w.id) q).slots }) ∧
      ∀ id, (ws.foldl (fun q w => q.abandon w.id) q).slots.get? id =
        if id ∈ ws.map (·.id) then (q.slots.get? id).map Slot.givenUp else q.slots.get? id := by
  induction ws generalizing q with
  | nil => simp
  | cons w ws ih =>
    obtain ⟨hq, hslots⟩ := ih (q.abandon w.id)
    refine ⟨by rw [List.foldl_cons, hq]; rfl, fun id => ?_⟩
    rw [List.foldl_cons, hslots, get?_abandon]
    by_cases hw : id = w.id
    · subst hw
      cases q.slots.get? w.id <;> simp [givenUp_givenUp]
    · simp [hw]

/-- The slots once everything that waits was given up. -/
theorem get?_abandonAll {q : Queue κ}
    (h : ∀ id, id ∈ q.lanes.ids ↔ q.slots.get? id = some .empty) (id : Nat) :
    q.abandonAll.slots.get? id = (q.slots.get? id).map Slot.givenUp := by
  show (q.lanes.waiters.foldl (fun q w => q.abandon w.id) q).slots.get? id = _
  rw [(foldl_abandon _ _).2]
  show (if id ∈ q.lanes.ids then _ else _) = _
  by_cases hid : id ∈ q.lanes.ids
  · exact if_pos hid
  · rw [if_neg hid]
    -- A slot whose call stands in no lane is not empty, so it stays as it is.
    rw [h] at hid
    cases hs : q.slots.get? id with
    | none => rfl
    | some slot =>
      cases slot with
      | empty => exact absurd hs hid
      | filled call => rfl
      | abandoned => rfl

/-- Giving everything up touches lanes, count and slots. -/
theorem abandonAll_eq (q : Queue κ) :
    q.abandonAll = { q with lanes := [], len := 0, slots := q.abandonAll.slots } := by
  simp only [abandonAll]
  rw [(foldl_abandon _ _).1]
  rfl

/-- The queue has given up what waited. -/
theorem Sound.givenUp {q q' : Queue κ} {live : List (QueuedCall κ)} (h : q.Sound live)
    (hslots : ∀ id, q'.slots.get? id = (q.slots.get? id).map Slot.givenUp)
    (hrest : q'.lanes = [] ∧ q'.len = 0 ∧ q'.nextId = q.nextId ∧ q'.inFlight = q.inFlight)
    (hl : q'.alive = true → q.alive = true) : q'.Sound live := by
  obtain ⟨hlanes, hlen, hnext, hin⟩ := hrest
  refine ⟨by simp [hlanes, Lanes.Occupied], by simp [hlanes], ?_, by rw [hlen, hlanes]; rfl, ?_,
    fun _ => hlanes, h.distinct, ?_, ?_⟩
  · intro id
    rw [hlanes, hslots]
    simp only [Lanes.ids_nil, List.not_mem_nil, Option.map_eq_some_iff, false_iff]
    rintro ⟨slot, -, hslot⟩
    cases slot <;> cases hslot
  · intro id hs
    rw [hslots, Option.isSome_map] at hs
    rw [hnext]
    exact h.below id hs
  · intro id
    rw [hslots, Option.isSome_map, h.owned]
  · intro ha
    rw [hin, h.inFlight_eq (hl ha)]
    refine (countP_isTaken_congr fun id _ => ?_).symm
    rw [hslots]
    cases q.slots.get? id with
    | none => rfl
    | some slot => cases slot <;> rfl

end Queue

end RpcPipeline
