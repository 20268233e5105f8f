import RpcPipeline.Proofs.Queue.Calls

/-!
# `RpcPipeline.Proofs.Queue.Custody`: the calls that were taken and have not ended

A call that was taken is held either by its caller or by the slot at which its caller
waits. `Queue.taken` lists these calls. What lies behind a queue may keep accounts of them:
`Backend.Tracks b A` says for each thing that a queue can do to its backend that it keeps
`A l s`, a property of the calls `l` that were taken and have not ended, and of the state.
From this follows for each operation of a queue that it keeps `A`. So no operation forgets
a call that was taken, or lets it end twice.

* `Sound.length_taken`, `Sound.len_eq_countP`: the two counters of a queue are the
  numbers of calls that were taken and that wait.
* `Submits.tracks`, `Polls.tracks`, `Drops.tracks`, `Fires.tracks`, `close_tracks`,
  `die_tracks`: the operations keep accounts.
-/

set_option autoImplicit false

open scoped List

namespace RpcPipeline

variable {κ σ : Type}

/-- The call in a slot. -/
def Slot.call? : Slot κ → Option κ
  | .filled call => some call
  | .empty | .abandoned => none

/-- The call that was taken and has not ended, as the slots show. -/
def QueuedCall.taken? (slots : Table Nat (Slot κ)) : QueuedCall κ → Option κ
  | .refused _ => none
  | .running call => some call
  | .waiting id => (slots.get? id).bind Slot.call?

/-- Whether nothing has become of a call yet, as the slots show. -/
def QueuedCall.isWaiting (slots : Table Nat (Slot κ)) : QueuedCall κ → Bool
  | .refused _ | .running _ => false
  | .waiting id =>
    match slots.get? id with
    | some .empty => true
    | _ => false

namespace Queue

/-- The calls that were taken and have not ended. -/
def taken (slots : Table Nat (Slot κ)) (live : List (QueuedCall κ)) : List κ :=
  live.filterMap (QueuedCall.taken? slots)

theorem taken_running (slots : Table Nat (Slot κ)) (call : κ)
    (live : List (QueuedCall κ)) : taken slots (.running call :: live) = call :: taken slots live :=
  rfl

theorem taken_filled {slots : Table Nat (Slot κ)} {id : Nat} {call : κ}
    (hs : slots.get? id = some (.filled call)) (live : List (QueuedCall κ)) :
    taken slots (.waiting id :: live) = call :: taken slots live := by
  rw [taken, List.filterMap_cons, QueuedCall.taken?, hs]
  rfl

theorem taken_unfilled {slots : Table Nat (Slot κ)} {id : Nat}
    (hs : (slots.get? id).bind Slot.call? = none) (live : List (QueuedCall κ)) :
    taken slots (.waiting id :: live) = taken slots live := by
  rw [taken, List.filterMap_cons, QueuedCall.taken?, hs]
  rfl

/-- Which calls were taken depends on the slots of the callers only. -/
theorem taken_congr {slots slots' : Table Nat (Slot κ)} {live : List (QueuedCall κ)}
    (h : ∀ id ∈ tickets live,
      (slots'.get? id).bind Slot.call? = (slots.get? id).bind Slot.call?) :
    taken slots' live = taken slots live := by
  refine List.filterMap_congr fun c hc => ?_
  cases c with
  | refused _ => rfl
  | running _ => rfl
  | waiting id => exact h id (mem_tickets.mpr hc)

theorem taken_insert {slots : Table Nat (Slot κ)} {live : List (QueuedCall κ)} {id : Nat}
    (slot : Slot κ) (hm : id ∉ tickets live) :
    taken (slots.insert id slot) live = taken slots live :=
  taken_congr fun id' hid => by
    rw [Table.get?_insert, if_neg (fun h : id' = id => hm (h ▸ hid))]

theorem taken_erase {slots : Table Nat (Slot κ)} {live : List (QueuedCall κ)} {id : Nat}
    (hm : id ∉ tickets live) : taken (slots.erase id) live = taken slots live :=
  taken_congr fun id' hid => by
    rw [Table.get?_erase, if_neg (fun h : id' = id => hm (h ▸ hid))]

/-- Giving up what waits loses no call that was taken. -/
theorem taken_givenUp {slots slots' : Table Nat (Slot κ)} (live : List (QueuedCall κ))
    (h : ∀ id, slots'.get? id = (slots.get? id).map Slot.givenUp) :
    taken slots' live = taken slots live :=
  taken_congr fun id _ => by
    rw [h]
    cases slots.get? id with
    | none => rfl
    | some slot => cases slot <;> rfl

/-- Filling an empty slot that a caller waits at adds the call. -/
theorem taken_fill {slots : Table Nat (Slot κ)} {live : List (QueuedCall κ)} {id : Nat}
    (call : κ) (hd : (tickets live).Nodup) (hm : id ∈ tickets live)
    (he : slots.get? id = some .empty) :
    taken (slots.insert id (.filled call)) live ~ call :: taken slots live := by
  -- The slots are distinct, so exactly one caller sees the difference.
  induction live with
  | nil => simp at hm
  | cons c live ih =>
    cases c with
    | refused e => exact ih hd hm
    | running call' => exact ((ih hd hm).cons call').trans (.swap ..)
    | waiting id' =>
      rw [tickets_waiting, List.nodup_cons] at hd
      by_cases h : id' = id
      · subst h
        rw [taken_filled (by rw [Table.get?_insert, if_pos rfl]),
          taken_unfilled (by rw [he]; rfl), taken_insert _ hd.1]
      · have hm' : id ∈ tickets live := by
          rw [tickets_waiting, List.mem_cons] at hm
          exact hm.resolve_left (Ne.symm h)
        have hsame : (slots.insert id (.filled call)).get? id' = slots.get? id' := by
          rw [Table.get?_insert, if_neg h]
        simp only [taken, List.filterMap_cons, QueuedCall.taken?, hsame]
        cases (slots.get? id').bind Slot.call? with
        | none => exact ih hd.2 hm'
        | some call' => exact ((ih hd.2 hm').cons call').trans (.swap ..)

/-! ### The counters -/

theorem isSome_taken? (slots : Table Nat (Slot κ)) (c : QueuedCall κ) :
    (c.taken? slots).isSome = c.isTaken slots := by
  cases c with
  | refused _ => rfl
  | running _ => rfl
  | waiting id =>
    rw [QueuedCall.taken?, isTaken_waiting]
    cases slots.get? id with
    | none => rfl
    | some slot => cases slot <;> rfl

/-- As long as the queue is there, it counts the calls that were taken. -/
theorem Sound.length_taken {q : Queue κ} {live : List (QueuedCall κ)} (h : q.Sound live)
    (ha : q.alive = true) : q.inFlight = (taken q.slots live).length := by
  rw [h.inFlight_eq ha, taken, List.length_filterMap_eq_countP]
  exact List.countP_congr fun c _ => by rw [isSome_taken?]

theorem isWaiting_waiting {slots : Table Nat (Slot κ)} {id : Nat} :
    QueuedCall.isWaiting slots (.waiting id) = true ↔ slots.get? id = some .empty := by
  simp only [QueuedCall.isWaiting]
  cases slots.get? id with
  | none => simp
  | some slot => cases slot <;> simp

/-- The length of the queue is the number of calls that wait. -/
theorem Sound.len_eq_countP {q : Queue κ} {live : List (QueuedCall κ)} (h : q.Sound live) :
    q.len = live.countP (QueuedCall.isWaiting q.slots) := by
  -- The slots of the callers that wait are those of the lanes, each of them once.
  have hcount : live.countP (QueuedCall.isWaiting q.slots) =
      ((tickets live).filter fun id => QueuedCall.isWaiting q.slots (.waiting id)).length := by
    rw [← List.countP_eq_length_filter, tickets, List.countP_filterMap]
    refine List.countP_congr fun c _ => ?_
    cases c <;> simp [QueuedCall.ticket?, QueuedCall.isWaiting]
  have hperm : ((tickets live).filter
      fun id => QueuedCall.isWaiting q.slots (.waiting id)) ~ q.lanes.ids := by
    refine (List.perm_ext_iff_of_nodup (h.distinct.filter _) h.nodup).mpr fun id => ?_
    rw [List.mem_filter, isWaiting_waiting, ← h.awaits, and_iff_right_iff_imp]
    intro hid
    rw [← h.owned, (h.awaits id).mp hid]
    rfl
  rw [hcount, hperm.length_eq, h.len_eq, Lanes.length_ids]

end Queue

/-! ### Accounts -/

/-- A quiet backend keeps accounts `A` of the calls that it has taken and that have not
ended. -/
structure Backend.Tracks (b : Backend κ σ) (A : List κ → σ → Prop) : Prop where
  quiet : b.Quiet
  perm : ∀ {l l' s}, A l s → l.Perm l' → A l' s
  refused : ∀ {e r q s q' s' l}, b.offer e r q s = (none, q', s') → A l s → A l s'
  taken : ∀ {e r q s call q' s' l}, b.offer e r q s = (some call, q', s') → A l s →
    A (call :: l) s'
  pending : ∀ {c c' s s' l}, b.poll c s = (none, c', s') → A (c :: l) s → A (c' :: l) s'
  ended : ∀ {c c' s s' l result}, b.poll c s = (some result, c', s') → A (c :: l) s → A l s'
  drop : ∀ {c s l}, A (c :: l) s → A l (b.drop c s)
  report : ∀ {n s l}, A l s → A l (b.report n s)

namespace Queue

variable {b : Backend κ σ} {A : List κ → σ → Prop} {q q' : Queue κ} {s s' : σ}
  {live : List (QueuedCall κ)}

theorem Serves.tracks {fairness : Fairness} {stalled : Bool}
    (hs : Serves b fairness q s stalled q' s') (hb : b.Tracks A) (hq : q.Sound live)
    (h : A (Queue.taken q.slots live) s) : A (Queue.taken q'.slots live) s' := by
  induction hs with
  | done => exact h
  | refused _ hoffer => exact hb.refused hoffer h
  | @taken q _ _ _ _ w _ call _ hpop hoffer _ ih =>
    have hslot := (hq.of_pop hpop).1
    have hticket : w.id ∈ tickets live := (hq.owned _).mp (by rw [hslot]; rfl)
    have hfill := taken_fill call hq.distinct hticket hslot
    exact ih (hq.dispatched hpop call) (hb.perm (hb.taken hoffer h) hfill.symm)

theorem Round.tracks (hr : Round b q s q' s') (hb : b.Tracks A) (hq : q.Sound live)
    (h : A (taken q.slots live) s) : A (taken q'.slots live) s' := by
  obtain ⟨stalled, mid, s₁, hserves, rfl, rfl⟩ := hr
  rw [endPass_eq]
  exact hb.report (hserves.tracks hb hq.beginPass h)

theorem Leaves.tracks {call : κ} (hl : Leaves b q s q' s') (hb : b.Tracks A)
    (hq : q.Sound (.running call :: live)) (h : A (taken q.slots live) s) :
    A (taken q'.slots live) s' := by
  cases hl with
  | counted _ hround => exact hround.tracks hb hq.release h
  | uncounted => exact h

/-- The call that is taken directly, or by the first pass, is accounted for. -/
theorem Submits.tracks {e : Endpoint} {r : Request} {c : QueuedCall κ}
    (hs : Submits b e r q s c q' s') (hb : b.Tracks A) (hq : q.Sound live) (ha : q.alive = true)
    (h : A (taken q.slots live) s) : A (taken q'.slots (c :: live)) s' := by
  have hdeclined : ∀ {s₁ : σ}, Declined b e r q s s₁ → A (taken q.slots live) s₁ := by
    rintro s₁ (⟨-, rfl⟩ | ⟨-, hoffer⟩)
    · exact h
    · exact hb.refused hoffer h
  cases hs with
  | closed => exact h
  | direct _ _ hoffer => exact hb.taken hoffer h
  | full _ hdecl _ => exact hdeclined hdecl
  | queued hopen hdecl _ hround =>
    refine hround.tracks hb (hq.enqueue hopen ha _ e r) (hb.report ?_)
    -- The slot of the new call is empty, and no other caller waits at it.
    have hfresh : q.nextId ∉ tickets live := by
      rw [← hq.owned, hq.get?_nextId]
      simp
    have hempty : (q.slots.insert q.nextId .empty).get? q.nextId = some .empty := by
      rw [Table.get?_insert, if_pos rfl]
    show A (taken (q.slots.insert q.nextId .empty) (.waiting q.nextId :: live)) _
    rw [taken_unfilled (by rw [hempty]; rfl), taken_insert _ hfresh]
    exact hdeclined hdecl

/-- A call that is collected from its slot is now held by its caller. -/
theorem taken_collect {id : Nat} {call : κ} (hq : q.Sound (.waiting id :: live))
    (hs : q.slots.get? id = some (.filled call)) :
    taken (q.slots.erase id) (.running call :: live) = taken q.slots (.waiting id :: live) := by
  rw [taken_running, taken_erase hq.notMem_tickets, taken_filled hs]

/-- A slot without a call goes with its caller. -/
theorem taken_forget {id : Nat} (hq : q.Sound (.waiting id :: live))
    (hs : (q.slots.get? id).bind Slot.call? = none) :
    taken (q.slots.erase id) live = taken q.slots (.waiting id :: live) := by
  rw [taken_erase hq.notMem_tickets, taken_unfilled hs]

theorem Polls.tracks {c c' : QueuedCall κ} {result : Option HostResult}
    (hp : Polls b c q s result c' q' s') (hb : b.Tracks A) (hq : q.Sound (c :: live))
    (h : A (taken q.slots (c :: live)) s) :
    A (taken q'.slots (if result.isSome then live else c' :: live)) s' := by
  induction hp generalizing live with
  | refused => exact h
  | pending hpoll => exact hb.pending hpoll h
  | ended hpoll hleaves => exact hleaves.tracks hb hq (hb.ended hpoll h)
  | unready => exact h
  | collected hslot _ ih =>
    refine ih (hq.collect hslot) ?_
    rw [taken_collect hq hslot]
    exact h
  | abandoned hslot =>
    have hforget := taken_forget hq (by rw [hslot]; rfl)
    rw [← hforget] at h
    exact h

theorem Drops.tracks {c : QueuedCall κ} (hd : Drops b c q s q' s') (hb : b.Tracks A)
    (hq : q.Sound (c :: live)) (h : A (taken q.slots (c :: live)) s) :
    A (taken q'.slots live) s' := by
  induction hd generalizing live with
  | refused => exact h
  | running hleaves => exact hleaves.tracks hb hq (hb.drop h)
  | withdrawn hslot =>
    rw [← taken_forget hq (by rw [hslot]; rfl)] at h
    exact hb.report h
  | collected hslot _ ih =>
    refine ih (hq.collect hslot) ?_
    rw [taken_collect hq hslot]
    exact h
  | abandoned hslot =>
    rw [← taken_forget hq (by rw [hslot]; rfl)] at h
    exact h

theorem Fires.tracks (hf : Fires b q s q' s') (hb : b.Tracks A) (hq : q.Sound live)
    (h : A (taken q.slots live) s) : A (taken q'.slots live) s' := by
  cases hf with
  | early => exact h
  | spent => exact h
  | rung _ _ _ hround => exact hround.tracks hb (hq.ring _) h

theorem close_tracks (hb : b.Tracks A) (hq : q.Sound live) (h : A (taken q.slots live) s) :
    A (taken (close b q s).1.slots live) (close b q s).2 := by
  by_cases hopen : q.closed = false
  · rw [taken_givenUp live (get?_close hq hopen s), close_eq hopen]
    exact hb.report h
  · unfold close
    rw [if_pos (by simpa using hopen)]
    exact h

theorem die_tracks (hq : q.Sound live) (h : A (taken q.slots live) s) :
    A (taken q.die.slots live) s := by
  rw [taken_givenUp live (get?_die hq)]
  exact h

end Queue

end RpcPipeline
