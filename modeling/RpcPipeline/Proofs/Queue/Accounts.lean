import RpcPipeline.Proofs.Queue.Session

/-!
# `RpcPipeline.Proofs.Queue.Accounts`: the notes fit how calls stand

`Accounts` is the invariant of a session: the queue is sound, and the notes of what was
offered fit how every call stands (`Ledger`). A pass offers calls one at a time, so the
invariant is carried through a pass by the two ways in which an offer can go
(`Accounts.refused`, `Accounts.taken`), and through the operations by `Books.push` for a
new call and `Books.move` for one that its caller does something with.

* `Accounts.submits`, `Accounts.polls`, `Accounts.drops`, `Accounts.fires`,
  `Accounts.gives_up`: the operations keep the accounts.

All of these say as well what they add to the notes (`Adds`): only calls that wait are
offered, and new ones.
-/

set_option autoImplicit false

namespace RpcPipeline

variable {κ σ : Type}

namespace Queue

variable {q : Queue κ} {live : List (QueuedCall κ)}

theorem isInHand_iff {id : Nat} :
    q.isInHand id = true ↔ id ∉ q.lanes.ids ∧ q.slots.get? id = some .empty := by
  rw [isInHand, Bool.and_eq_true, Bool.not_eq_true', ← Bool.not_eq_true, Lanes.has_iff]
  refine and_congr_right fun _ => ?_
  cases hs : q.slots.get? id with
  | none => simp
  | some slot => cases slot <;> simp

/-- While a pass offers a call, that is the one in its hand. -/
theorem inHand_of_pop {w : Waiter} {rest : Lanes} (hq : q.Sound live)
    (hp : q.lanes.pop = some (w, rest)) : { q with lanes := rest }.inHand = some w.id := by
  have hids := Lanes.ids_of_pop hp
  have hnodup := List.nodup_cons.mp (hids.nodup_iff.mp hq.nodup)
  have hslot := (hq.of_pop hp).1
  have htest : ∀ id, { q with lanes := rest }.isInHand id = true ↔
      id ∉ rest.ids ∧ q.slots.get? id = some .empty :=
    fun id => isInHand_iff (q := { q with lanes := rest })
  cases hfind : { q with lanes := rest }.inHand with
  | none =>
    have hmem : w.id ∈ q.slots.keys := Table.mem_keys.mpr (by rw [hslot]; rfl)
    exact absurd ((htest w.id).mpr ⟨hnodup.1, hslot⟩) (List.find?_eq_none.mp hfind w.id hmem)
  | some id =>
    obtain ⟨hout, hempty⟩ := (htest id).mp (List.find?_some hfind)
    have hin : id ∈ q.lanes.ids := (hq.awaits id).mpr hempty
    rw [hids.mem_iff, List.mem_cons] at hin
    rw [hin.resolve_right hout]

/-- Unless a pass runs, none has a call in its hand. -/
theorem inHand_of_sound (hq : q.Sound live) : q.inHand = none := by
  refine List.find?_eq_none.mpr fun id _ htest => ?_
  obtain ⟨hout, hempty⟩ := isInHand_iff.mp htest
  exact hout ((hq.awaits id).mpr hempty)

end Queue

/-! ### Offers and how calls stand -/

/-- The offers that were made of a call fit how it stands. If it was taken, then by the
last of them only, and the stamp says which one that is. Otherwise all were refused. -/
def Ledger (offers : List Offer) (n : Nat) : Standing (Stamped κ) → Prop
  | .taken f => ∃ o, offers[f.stamp]? = some o ∧ o.call = n ∧ o.taken = true ∧
      ∀ j o', offers[j]? = some o' → o'.call = n →
        j = f.stamp ∨ j < f.stamp ∧ o'.taken = false
  | .waiting | .failed _ => ∀ o ∈ offers, o.call = n → o.taken = false

namespace Ledger

variable {offers : List Offer} {n : Nat} {o : Offer}

/-- Other calls are offered. -/
theorem others {st : Standing (Stamped κ)} {new : List Offer} (h : Ledger offers n st)
    (hnew : ∀ o ∈ new, o.call ≠ n) : Ledger (offers ++ new) n st := by
  have hrest : (∀ o ∈ offers, o.call = n → o.taken = false) →
      ∀ o ∈ offers ++ new, o.call = n → o.taken = false := by
    intro hall o ho hn
    rcases List.mem_append.mp ho with ho | ho
    · exact hall o ho hn
    · exact absurd hn (hnew o ho)
  cases st with
  | failed _ => exact hrest h
  | waiting => exact hrest h
  | taken f =>
    obtain ⟨o, hget, hcall, htaken, hothers⟩ := h
    have hlt : f.stamp < offers.length := (List.getElem?_eq_some_iff.mp hget).1
    refine ⟨o, by rw [List.getElem?_append_left hlt, hget], hcall, htaken, fun j o' hj hn => ?_⟩
    by_cases hlt' : j < offers.length
    · rw [List.getElem?_append_left hlt'] at hj
      exact hothers j o' hj hn
    · -- What was noted since is about other calls.
      rw [List.getElem?_append_right (by omega)] at hj
      exact absurd hn (hnew o' (List.mem_of_getElem? hj))

/-- A call that waits is offered and refused. -/
theorem refused (h : Ledger offers n (.waiting : Standing (Stamped κ))) (ho : o.taken = false) :
    Ledger (offers ++ [o]) n (.waiting : Standing (Stamped κ)) := by
  intro o' ho' hn
  rcases List.mem_append.mp ho' with ho' | ho'
  · exact h o' ho' hn
  · rw [List.mem_singleton] at ho'
    rw [ho', ho]

/-- A call that waits is offered and taken. -/
theorem taken (h : Ledger offers n (.waiting : Standing (Stamped κ))) (hn : o.call = n)
    (ho : o.taken = true) (c : κ) :
    Ledger (offers ++ [o]) n (.taken ⟨offers.length, c⟩) := by
  refine ⟨o, List.getElem?_concat_length, hn, ho, fun j o' hj hcall => ?_⟩
  by_cases hlt : j < offers.length
  · rw [List.getElem?_append_left hlt] at hj
    exact .inr ⟨hlt, h o' (List.mem_of_getElem? hj) hcall⟩
  · have hj' : j < (offers ++ [o]).length := (List.getElem?_eq_some_iff.mp hj).1
    rw [List.length_append, List.length_singleton] at hj'
    exact .inl (by show j = offers.length; omega)

/-- The queue gives up what waits. That no offer was taken stays as it is. -/
theorem givenUp {slots slots' : Table Nat (Slot (Stamped κ))} {stage : Stage (Stamped κ)}
    (h : Ledger offers n (stage.standing slots))
    (hslots : ∀ id, slots'.get? id = (slots.get? id).map Slot.givenUp) :
    Ledger offers n (stage.standing slots') := by
  cases stage with
  | ended _ _ => exact h
  | dropped _ => exact h
  | held c =>
    cases c with
    | refused _ => exact h
    | running _ => exact h
    | waiting id =>
      simp only [Stage.standing, QueuedCall.standing, hslots] at h ⊢
      cases hs : slots.get? id with
      | none => simpa [hs] using h
      | some slot =>
        rw [hs] at h
        cases slot with
        | empty => exact h
        | filled _ => exact h
        | abandoned => exact h

/-- The stamp of a call that was taken is all that matters. -/
theorem of_stamp {f f' : Stamped κ} (h : Ledger offers n (.taken f)) (hf : f'.stamp = f.stamp) :
    Ledger offers n (.taken f') := by
  simp only [Ledger, hf]
  exact h

end Ledger

/-- A call stands as before if its slot is as before. -/
theorem QueuedCall.standing_congr {slots slots' : Table Nat (Slot κ)} {c : QueuedCall κ}
    (h : ∀ id, c = .waiting id → slots'.get? id = slots.get? id) :
    c.standing slots' = c.standing slots := by
  cases c with
  | refused _ => rfl
  | running _ => rfl
  | waiting id => simp only [QueuedCall.standing, h id rfl]

theorem Stage.standing_congr {slots slots' : Table Nat (Slot κ)} {stage : Stage κ}
    (h : ∀ id, stage = .held (.waiting id) → slots'.get? id = slots.get? id) :
    stage.standing slots' = stage.standing slots := by
  cases stage with
  | held c => exact QueuedCall.standing_congr fun id hid => h id (by rw [hid])
  | ended _ _ => rfl
  | dropped _ => rfl

theorem QueuedCall.standing_empty {slots : Table Nat (Slot κ)} {id : Nat}
    (h : slots.get? id = some .empty) : QueuedCall.standing slots (.waiting id) = .waiting := by
  simp [QueuedCall.standing, h, Slot.standing]

theorem QueuedCall.standing_filled {slots : Table Nat (Slot κ)} {id : Nat} {call : κ}
    (h : slots.get? id = some (.filled call)) :
    QueuedCall.standing slots (.waiting id) = .taken call := by
  simp [QueuedCall.standing, h, Slot.standing]

theorem QueuedCall.standing_abandoned {slots : Table Nat (Slot κ)} {id : Nat}
    (h : slots.get? id = some .abandoned) :
    QueuedCall.standing slots (.waiting id) = .failed .cancelled := by
  simp [QueuedCall.standing, h, Slot.standing]

/-- Erasing the slot of a caller leaves the slots of others. -/
theorem get?_erase_of_ne {slots : Table Nat (Slot κ)} {id id' : Nat}
    (h : (.waiting id : QueuedCall κ) ≠ .waiting id') :
    (slots.erase id).get? id' = slots.get? id' := by
  rw [Table.get?_erase, if_neg]
  rintro rfl
  exact h rfl

/-- The caller waits, and nobody has seen to its call yet. -/
def Stage.Waits (slots : Table Nat (Slot κ)) (stage : Stage κ) : Prop :=
  ∃ id, stage = .held (.waiting id) ∧ slots.get? id = some .empty

/-- The errors with which a queue turns calls away. -/
def CallError.IsTurnaway (e : CallError) : Prop :=
  e = .cancelled ∨ ∃ capacity, e = .queueFull capacity

/-- A call that fails does so with one of the errors of the queue, and a caller gets
that error. No caller gets a result while its call waits. -/
def Stage.Proper : Stage κ → Prop
  | .held (.refused e) => e.IsTurnaway
  | .held _ => True
  | .ended (.failed e) result => e.IsTurnaway ∧ result = .error e
  | .ended .waiting _ => False
  | .ended (.taken _) _ => True
  | .dropped (.failed e) => e.IsTurnaway
  | .dropped _ => True

namespace Session

/-- The notes fit how every call stands. -/
structure Books (calls : List (Submission (Stamped κ))) (slots : Table Nat (Slot (Stamped κ)))
    (lanes : Lanes) (w : Watched σ) : Prop where
  owned : ∀ (n : Nat) (c : Submission (Stamped κ)) (id : Nat), calls[n]? = some c →
    c.stage = .held (.waiting id) → w.owners.get? id = some n
  ledger : ∀ (n : Nat) (c : Submission (Stamped κ)), calls[n]? = some c →
    Ledger w.offers n (c.stage.standing slots)
  /-- A call is offered as it was submitted. -/
  offered : ∀ o ∈ w.offers, ∃ c : Submission (Stamped κ), calls[o.call]? = some c ∧
    o.endpoint = c.endpoint ∧ o.request = c.request
  /-- A call waits as it was submitted. -/
  lined : ∀ v ∈ lanes.waiters, ∃ (n : Nat) (c : Submission (Stamped κ)),
    w.owners.get? v.id = some n ∧ calls[n]? = some c ∧
      v.endpoint = c.endpoint ∧ v.request = c.request
  proper : ∀ (n : Nat) (c : Submission (Stamped κ)), calls[n]? = some c → c.stage.Proper

/-- The queue is sound, and the notes fit how every call stands. -/
structure Accounts (calls : List (Submission (Stamped κ))) (q : Queue (Stamped κ))
    (w : Watched σ) : Prop where
  sound : q.Sound (live calls)
  books : Books calls q.slots q.lanes w

/-- Offers were added. Calls that were submitted before and did not wait were not
offered. -/
def Adds (calls : List (Submission (Stamped κ))) (slots : Table Nat (Slot (Stamped κ)))
    (w w' : Watched σ) : Prop :=
  ∃ new : List Offer, w'.offers = w.offers ++ new ∧
    ∀ o ∈ new, ∀ c : Submission (Stamped κ), calls[o.call]? = some c → c.stage.Waits slots

variable {calls : List (Submission (Stamped κ))} {q q' : Queue (Stamped κ)} {w w' : Watched σ}
  {d : Delegate κ σ}

theorem Adds.refl (calls : List (Submission (Stamped κ)))
    (slots : Table Nat (Slot (Stamped κ))) (h : w'.offers = w.offers) : Adds calls slots w w' :=
  ⟨[], by rw [h, List.append_nil], by simp⟩

/-- What else happens behind the queue does not matter. -/
theorem Books.of_notes {slots : Table Nat (Slot (Stamped κ))} {lanes : Lanes}
    (h : Books calls slots lanes w) (howners : w'.owners = w.owners)
    (hoffers : w'.offers = w.offers) : Books calls slots lanes w' := by
  refine ⟨?_, ?_, ?_, ?_, h.proper⟩
  · rw [howners]
    exact h.owned
  · rw [hoffers]
    exact h.ledger
  · rw [hoffers]
    exact h.offered
  · rw [howners]
    exact h.lined

/-- Two callers do not wait at the same slot. -/
theorem Books.caller_unique {slots : Table Nat (Slot (Stamped κ))} {lanes : Lanes}
    (h : Books calls slots lanes w) {m n id : Nat} {c c' : Submission (Stamped κ)}
    (hm : calls[m]? = some c) (hn : calls[n]? = some c') (hc : c.stage = .held (.waiting id))
    (hc' : c'.stage = .held (.waiting id)) : m = n := by
  have howner := h.owned m c id hm hc
  rw [h.owned n c' id hn hc', Option.some.injEq] at howner
  exact howner.symm

/-- Nothing was offered of a call that was not submitted yet. -/
theorem Books.unoffered {slots : Table Nat (Slot (Stamped κ))} {lanes : Lanes}
    (h : Books calls slots lanes w) : ∀ o ∈ w.offers, o.call ≠ calls.length := by
  intro o ho heq
  obtain ⟨c, hc, -⟩ := h.offered o ho
  have hlt := (List.getElem?_eq_some_iff.mp hc).1
  omega

namespace Accounts

/-- A slot belongs to a caller that waits at it. -/
theorem exists_caller (h : Accounts calls q w) {id : Nat} (hs : (q.slots.get? id).isSome) :
    ∃ (n : Nat) (c : Submission (Stamped κ)), calls[n]? = some c ∧
      c.stage = .held (.waiting id) ∧ w.owners.get? id = some n := by
  have hlive := Queue.mem_tickets.mp ((h.sound.owned id).mp hs)
  obtain ⟨n, c, hn, hstage⟩ := mem_live.mp hlive
  exact ⟨n, c, hn, hstage, h.books.owned n c id hn hstage⟩

/-! ### A pass -/

/-- What a pass notes when it offers the next call: the call of the caller who waits at
its slot. -/
theorem of_pop (h : Accounts calls q w) {v : Waiter} {rest : Lanes}
    (hp : q.lanes.pop = some (v, rest)) :
    ∃ (n : Nat) (c : Submission (Stamped κ)), w.offered { q with lanes := rest } = n ∧
      calls[n]? = some c ∧ c.stage = .held (.waiting v.id) ∧
      c.stage.standing q.slots = .waiting ∧ c.stage.Waits q.slots ∧
      v.endpoint = c.endpoint ∧ v.request = c.request := by
  have hslot := (h.sound.of_pop hp).1
  have hsome : (q.slots.get? v.id).isSome := by rw [hslot]; rfl
  -- The caller at the slot is the one whose call the lane remembers.
  obtain ⟨n, c, hn, hstage, howner⟩ := h.exists_caller hsome
  have hmem : v ∈ q.lanes.waiters := (Lanes.waiters_of_pop hp).mem_iff.mpr (by simp)
  obtain ⟨n', c', howner', hn', hend, hreq⟩ := h.books.lined v hmem
  rw [howner, Option.some.injEq] at howner'
  subst howner'
  rw [hn, Option.some.injEq] at hn'
  subst hn'
  refine ⟨n, c, ?_, hn, hstage, ?_, ⟨v.id, hstage, hslot⟩, hend, hreq⟩
  · rw [Watched.offered, Queue.inHand_of_pop h.sound hp]
    show (w.owners.get? v.id).getD w.latest = n
    rw [howner, Option.getD_some]
  · rw [hstage]
    exact QueuedCall.standing_empty hslot

/-- What a pass notes about the next call is as that was submitted. -/
theorem offered_note (h : Accounts calls q w) {v : Waiter} {rest : Lanes}
    (hp : q.lanes.pop = some (v, rest)) (s : σ) (taken : Bool) :
    ∀ o ∈ (w.note s ⟨w.offered { q with lanes := rest }, v.endpoint, v.request, taken⟩).offers,
      ∃ c : Submission (Stamped κ), calls[o.call]? = some c ∧
        o.endpoint = c.endpoint ∧ o.request = c.request := by
  obtain ⟨n, c, hcall, hn, -, -, -, hend, hreq⟩ := h.of_pop hp
  intro o ho
  rcases List.mem_append.mp ho with ho | ho
  · exact h.books.offered o ho
  · rw [List.mem_singleton] at ho
    subst ho
    exact ⟨c, by rw [hcall, hn], hend, hreq⟩

/-- The next call is refused. -/
theorem refused (h : Accounts calls q w) {v : Waiter} {rest : Lanes}
    (hp : q.lanes.pop = some (v, rest)) (fairness : Fairness) (s : σ) :
    Accounts calls { q with lanes := rest.restore fairness v }
      (w.note s ⟨w.offered { q with lanes := rest }, v.endpoint, v.request, false⟩) := by
  obtain ⟨n, c, hcall, hn, -, hstands, -⟩ := h.of_pop hp
  refine ⟨h.sound.putBack hp fairness, h.books.owned, ?_, h.offered_note hp s false, ?_,
    h.books.proper⟩
  · intro m c' hm
    by_cases hmn : m = n
    · subst hmn
      rw [hn, Option.some.injEq] at hm
      subst hm
      show Ledger (w.offers ++ [_]) m (c.stage.standing q.slots)
      have hledger := h.books.ledger m c hn
      rw [hstands] at hledger ⊢
      exact hledger.refused rfl
    · exact (h.books.ledger m c' hm).others (by simpa [hcall] using Ne.symm hmn)
  · intro v' hv'
    refine h.books.lined v' ?_
    rw [(Lanes.waiters_of_pop hp).mem_iff]
    exact (Lanes.waiters_restore fairness v rest).mem_iff.mp hv'

/-- The next call is taken. -/
theorem taken (h : Accounts calls q w) {v : Waiter} {rest : Lanes}
    (hp : q.lanes.pop = some (v, rest)) (f : κ) (s : σ) :
    Accounts calls (q.dispatched rest v.id ⟨w.offers.length, f⟩)
      (w.note s ⟨w.offered { q with lanes := rest }, v.endpoint, v.request, true⟩) := by
  obtain ⟨n, c, hcall, hn, hstage, hstands, -⟩ := h.of_pop hp
  have hslots : ∀ id, (q.dispatched rest v.id ⟨w.offers.length, f⟩).slots.get? id =
      if id = v.id then some (.filled ⟨w.offers.length, f⟩) else q.slots.get? id :=
    fun id => Table.get?_insert ..
  refine ⟨h.sound.dispatched hp _, h.books.owned, ?_, h.offered_note hp s true, ?_,
    h.books.proper⟩
  · intro m c' hm
    by_cases hmn : m = n
    · subst hmn
      rw [hn, Option.some.injEq] at hm
      subst hm
      -- The stamp is the place of this very offer.
      have his : c.stage.standing (q.dispatched rest v.id ⟨w.offers.length, f⟩).slots =
          .taken ⟨w.offers.length, f⟩ := by
        simp [hstage, Stage.standing, QueuedCall.standing, hslots, Slot.standing]
      have hledger := h.books.ledger m c hn
      rw [hstands] at hledger
      rw [his]
      exact hledger.taken hcall rfl f
    · have hsame : c'.stage.standing (q.dispatched rest v.id ⟨w.offers.length, f⟩).slots =
          c'.stage.standing q.slots := by
        refine Stage.standing_congr fun id hid => ?_
        rw [hslots, if_neg]
        rintro rfl
        exact hmn (h.books.caller_unique hm hn hid hstage)
      rw [hsame]
      exact (h.books.ledger m c' hm).others (by simpa [hcall] using Ne.symm hmn)
  · intro v' hv'
    refine h.books.lined v' ?_
    rw [(Lanes.waiters_of_pop hp).mem_iff]
    exact List.mem_cons_of_mem _ hv'

/-- A pass keeps the accounts, and offers calls that wait. -/
theorem serves {fairness : Fairness} {stalled : Bool} (h : Accounts calls q w)
    (hs : Queue.Serves d.watched fairness q w stalled q' w') :
    Accounts calls q' w' ∧ Adds calls q.slots w w' := by
  induction hs with
  | done => exact ⟨h, .refl _ _ rfl⟩
  | refused hpop hoffer =>
    obtain ⟨s, rfl⟩ := Delegate.watched_refuses hoffer
    obtain ⟨n, c, hcall, hn, -, -, hwaits, -⟩ := h.of_pop hpop
    refine ⟨h.refused hpop _ s, [_], rfl, fun o ho c' hc' => ?_⟩
    rw [List.mem_singleton] at ho
    subst ho
    rw [hcall, hn, Option.some.injEq] at hc'
    exact hc' ▸ hwaits
  | @taken q q' w w₁ w' v rest f stalled hpop hoffer _ ih =>
    obtain ⟨g, s, rfl, rfl⟩ := Delegate.watched_takes hoffer
    obtain ⟨n, c, hcall, hn, -, -, hwaits, -⟩ := h.of_pop hpop
    obtain ⟨hacc, new, hnew, hcalls⟩ := ih (h.taken hpop g s)
    refine ⟨hacc, _ :: new, hnew.trans (List.append_assoc ..), fun o ho c' hc' => ?_⟩
    rcases List.mem_cons.mp ho with rfl | ho
    · rw [hcall, hn, Option.some.injEq] at hc'
      exact hc' ▸ hwaits
    · obtain ⟨id, hstage, hempty⟩ := hcalls o ho c' hc'
      refine ⟨id, hstage, ?_⟩
      -- The slot that was filled is not one that is still empty.
      have hslots : (q.dispatched rest v.id ⟨w.offers.length, g⟩).slots.get? id =
          if id = v.id then some (.filled ⟨w.offers.length, g⟩) else q.slots.get? id :=
        Table.get?_insert ..
      rw [hslots] at hempty
      split at hempty
      · cases hempty
      · exact hempty

theorem round (h : Accounts calls q w) (hr : Queue.Round d.watched q w q' w') :
    Accounts calls q' w' ∧ Adds calls q.slots w w' := by
  obtain ⟨stalled, mid, w₁, hserves, rfl, rfl⟩ := hr
  have hbegin : Accounts calls q.beginPass w := ⟨h.sound.beginPass, h.books⟩
  obtain ⟨hacc, hadds⟩ := hbegin.serves hserves
  refine ⟨⟨hacc.sound.endPass .., ?_⟩, hadds⟩
  rw [Queue.endPass_eq]
  exact hacc.books.of_notes rfl rfl

end Accounts

/-! ### What callers do -/

/-- A caller does something with its call. The others stand as before. -/
theorem Books.move {slots slots' : Table Nat (Slot (Stamped κ))} {lanes lanes' : Lanes}
    {n : Nat} {e : Endpoint} {r : Request} {c : QueuedCall (Stamped κ)}
    {stage' : Stage (Stamped κ)} (h : Books calls slots lanes w)
    (hc : calls[n]? = some ⟨e, r, .held c⟩)
    (hlanes : ∀ v ∈ lanes'.waiters, v ∈ lanes.waiters)
    (hslots : ∀ id, c ≠ .waiting id → slots'.get? id = slots.get? id)
    (hid : ∀ id, stage' = .held (.waiting id) → c = .waiting id)
    (hledger : Ledger w.offers n (c.standing slots) →
      Ledger w.offers n (stage'.standing slots'))
    (hproper : stage'.Proper) (howners : w'.owners = w.owners)
    (hoffers : w'.offers = w.offers) : Books (calls.set n ⟨e, r, stage'⟩) slots' lanes' w' := by
  have hn : n < calls.length := (List.getElem?_eq_some_iff.mp hc).1
  -- The submission itself is the same as before, up to its stage.
  have hsame : ∀ (m : Nat) (c' : Submission (Stamped κ)), calls[m]? = some c' →
      ∃ c'' : Submission (Stamped κ), (calls.set n ⟨e, r, stage'⟩)[m]? = some c'' ∧
        c''.endpoint = c'.endpoint ∧ c''.request = c'.request := by
    intro m c' hm
    by_cases hmn : m = n
    · subst hmn
      rw [hc, Option.some.injEq] at hm
      subst hm
      exact ⟨⟨e, r, stage'⟩, List.getElem?_set_self hn, rfl, rfl⟩
    · exact ⟨c', by rw [List.getElem?_set_ne (Ne.symm hmn), hm], rfl, rfl⟩
  refine ⟨?_, ?_, ?_, ?_, ?_⟩
  · intro m c' id hm hstage
    rw [howners]
    rcases getElem?_of_set hm with ⟨rfl, rfl⟩ | ⟨-, hm⟩
    · exact h.owned m _ id hc (by rw [hid id hstage])
    · exact h.owned m c' id hm hstage
  · intro m c' hm
    rw [hoffers]
    rcases getElem?_of_set hm with ⟨rfl, rfl⟩ | ⟨hmn, hm⟩
    · exact hledger (h.ledger m _ hc)
    · have hst : c'.stage.standing slots' = c'.stage.standing slots := by
        refine Stage.standing_congr fun id hstage => hslots id ?_
        rintro rfl
        exact hmn (h.caller_unique hm hc hstage rfl)
      rw [hst]
      exact h.ledger m c' hm
  · intro o ho
    rw [hoffers] at ho
    obtain ⟨c', hc', hend, hreq⟩ := h.offered o ho
    obtain ⟨c'', hc'', hend', hreq'⟩ := hsame _ c' hc'
    exact ⟨c'', hc'', hend.trans hend'.symm, hreq.trans hreq'.symm⟩
  · intro v hv
    obtain ⟨m, c', howner, hc', hend, hreq⟩ := h.lined v (hlanes v hv)
    obtain ⟨c'', hc'', hend', hreq'⟩ := hsame _ c' hc'
    exact ⟨m, c'', by rw [howners, howner], hc'', hend.trans hend'.symm, hreq.trans hreq'.symm⟩
  · intro m c' hm
    rcases getElem?_of_set hm with ⟨rfl, rfl⟩ | ⟨-, hm⟩
    · exact hproper
    · exact h.proper m c' hm

/-- Calls that wait after a caller has done something with its own, which does not,
waited before. -/
theorem Adds.of_move {slots slots' : Table Nat (Slot (Stamped κ))} {w₁ : Watched σ} {n : Nat}
    {c' : Submission (Stamped κ)} {lanes : Lanes} {c : QueuedCall (Stamped κ)} {e : Endpoint}
    {r : Request} (h : Books calls slots lanes w) (hc : calls[n]? = some ⟨e, r, .held c⟩)
    (hslots : ∀ id, c ≠ .waiting id → slots'.get? id = slots.get? id)
    (hdone : ¬ c'.stage.Waits slots') (hoffers : w₁.offers = w.offers)
    (hadds : Adds (calls.set n c') slots' w₁ w') : Adds calls slots w w' := by
  obtain ⟨new, hnew, hcalls⟩ := hadds
  refine ⟨new, by rw [hnew, hoffers], fun o ho c'' hc'' => ?_⟩
  have hn : n < calls.length := (List.getElem?_eq_some_iff.mp hc).1
  by_cases hon : o.call = n
  · have hwaits := hcalls o ho c' (by rw [hon, List.getElem?_set_self hn])
    exact absurd hwaits hdone
  · obtain ⟨id, hstage, hempty⟩ :=
      hcalls o ho c'' (by rw [List.getElem?_set_ne (Ne.symm hon), hc''])
    refine ⟨id, hstage, ?_⟩
    rw [← hslots id, hempty]
    rintro rfl
    exact hon (h.caller_unique hc'' hc hstage rfl)

namespace Accounts

/-- A call that was taken has ended or was dropped. -/
theorem leaves {f : Stamped κ} {rest : List (QueuedCall (Stamped κ))}
    (hl : Queue.Leaves d.watched q w q' w') (hq : q.Sound (.running f :: rest))
    (hrest : rest.Perm (live calls)) (hb : Books calls q.slots q.lanes w) :
    Accounts calls q' w' ∧ Adds calls q.slots w w' := by
  cases hl with
  | counted _ hround =>
    have hacc : Accounts calls { q with inFlight := q.inFlight - 1 } w :=
      ⟨hq.release.perm hrest, hb⟩
    exact hacc.round hround
  | uncounted hdead =>
    exact ⟨⟨(hq.release_of_dead hdead).perm hrest, hb⟩, .refl _ _ rfl⟩

/-- A caller collects its call from the slot. -/
theorem collect {f : Stamped κ} {id : Nat} (h : Accounts calls q w) {n : Nat} {e : Endpoint}
    {r : Request} (hc : calls[n]? = some ⟨e, r, .held (.waiting id)⟩)
    (hslot : q.slots.get? id = some (.filled f)) :
    Accounts (calls.set n ⟨e, r, .held (.running f)⟩) { q with slots := q.slots.erase id } w := by
  obtain ⟨rest, hlive, hheld, -⟩ := live_set hc rfl
  refine ⟨((h.sound.perm hlive).collect hslot).perm (hheld _ _ rfl), ?_⟩
  refine h.books.move hc (fun _ hv => hv) (fun _ => get?_erase_of_ne) (fun _ hid => by cases hid)
    (fun hl => ?_) trivial rfl rfl
  rw [QueuedCall.standing_filled hslot] at hl
  exact hl

/-- A caller is done with its call, which failed. -/
theorem fail {id : Nat} (h : Accounts calls q w) {n : Nat} {e : Endpoint}
    {r : Request} (hc : calls[n]? = some ⟨e, r, .held (.waiting id)⟩)
    (hslot : q.slots.get? id = some .abandoned) {stage' : Stage (Stamped κ)}
    (hdone : stage'.held? = none) (hst : ∀ slots, stage'.standing slots = .failed .cancelled)
    (hproper : stage'.Proper) :
    Accounts (calls.set n ⟨e, r, stage'⟩) { q with slots := q.slots.erase id } w := by
  obtain ⟨rest, hlive, -, hgone⟩ := live_set hc rfl
  refine ⟨((h.sound.perm hlive).forget hslot).perm (hgone _ hdone), ?_⟩
  refine h.books.move hc (fun _ hv => hv) (fun _ => get?_erase_of_ne) (fun _ hid => ?_)
    (fun hl => ?_) hproper rfl rfl
  · rw [hid] at hdone
    cases hdone
  · rw [QueuedCall.standing_abandoned hslot] at hl
    rw [hst]
    exact hl

/-- A caller polls its call. -/
theorem polls {c c' : QueuedCall (Stamped κ)} {result : Option HostResult}
    (hp : Queue.Polls d.watched c q w result c' q' w') (h : Accounts calls q w) {n : Nat}
    {e : Endpoint} {r : Request} (hc : calls[n]? = some ⟨e, r, .held c⟩) :
    Accounts (calls.set n ⟨e, r, afterPoll (c.standing q.slots) c' result⟩) q' w' ∧
      Adds calls q.slots w w' := by
  induction hp generalizing calls with
  | @refused err q w =>
    obtain ⟨rest, hlive, -, hgone⟩ := live_set hc rfl
    have hproper : err.IsTurnaway := h.books.proper n _ hc
    refine ⟨⟨(h.sound.perm hlive).of_refused.perm (hgone _ rfl), ?_⟩, .refl _ _ rfl⟩
    exact h.books.move hc (fun _ hv => hv) (fun _ _ => rfl) (fun _ hid => by cases hid) id
      ⟨hproper, rfl⟩ rfl rfl
  | @pending f f' q w w' hpoll =>
    obtain ⟨hstamp, howners, hoffers⟩ := Delegate.watched_poll hpoll
    obtain ⟨rest, hlive, hheld, -⟩ := live_set hc rfl
    refine ⟨⟨(h.sound.perm hlive).proceed.perm (hheld _ _ rfl), ?_⟩, .refl _ _ hoffers⟩
    exact h.books.move hc (fun _ hv => hv) (fun _ _ => rfl) (fun _ hid => by cases hid)
      (fun hf => Ledger.of_stamp hf hstamp) trivial howners hoffers
  | @ended f f' result q q' w w₁ w' hpoll hleaves =>
    obtain ⟨-, howners, hoffers⟩ := Delegate.watched_poll hpoll
    obtain ⟨rest, hlive, -, hgone⟩ := live_set hc rfl
    have hbooks : Books (calls.set n ⟨e, r, .ended (.taken f) result⟩) q.slots q.lanes w₁ :=
      h.books.move hc (fun _ hv => hv) (fun _ _ => rfl) (fun _ hid => by cases hid) id trivial
        howners hoffers
    obtain ⟨hacc, hadds⟩ := leaves hleaves (h.sound.perm hlive) (hgone _ rfl) hbooks
    exact ⟨hacc, hadds.of_move h.books hc (fun _ _ => rfl) (by simp [Stage.Waits]) hoffers⟩
  | @unready id q w hslot =>
    have hsame : calls.set n ⟨e, r, .held (.waiting id)⟩ = calls := by
      obtain ⟨hn, hget⟩ := List.getElem?_eq_some_iff.mp hc
      rw [← hget, List.set_getElem_self]
    refine ⟨?_, .refl _ _ rfl⟩
    show Accounts (calls.set n ⟨e, r, .held (.waiting id)⟩) q w
    rw [hsame]
    exact h
  | @collected id f result c' q q' w w' hslot _ ih =>
    -- Once the call is collected, this is a poll of a call that runs.
    have hn : n < calls.length := (List.getElem?_eq_some_iff.mp hc).1
    obtain ⟨hacc, hadds⟩ := ih (h.collect hc hslot) (List.getElem?_set_self hn)
    rw [List.set_set] at hacc
    rw [QueuedCall.standing_filled hslot]
    exact ⟨hacc, hadds.of_move h.books hc (fun _ => get?_erase_of_ne) (by simp [Stage.Waits]) rfl⟩
  | @abandoned id q w hslot =>
    rw [QueuedCall.standing_abandoned hslot]
    exact ⟨h.fail hc hslot rfl (fun _ => rfl) ⟨.inl rfl, rfl⟩, .refl _ _ rfl⟩

/-- A caller drops its call. -/
theorem drops {c : QueuedCall (Stamped κ)} (hd : Queue.Drops d.watched c q w q' w')
    (h : Accounts calls q w) {n : Nat} {e : Endpoint} {r : Request}
    (hc : calls[n]? = some ⟨e, r, .held c⟩) :
    Accounts (calls.set n ⟨e, r, .dropped (c.standing q.slots)⟩) q' w' ∧
      Adds calls q.slots w w' := by
  induction hd generalizing calls with
  | @refused err q w =>
    obtain ⟨rest, hlive, -, hgone⟩ := live_set hc rfl
    have hproper : err.IsTurnaway := h.books.proper n _ hc
    refine ⟨⟨(h.sound.perm hlive).of_refused.perm (hgone _ rfl), ?_⟩, .refl _ _ rfl⟩
    exact h.books.move hc (fun _ hv => hv) (fun _ _ => rfl) (fun _ hid => by cases hid) id
      hproper rfl rfl
  | @running f q q' w w' hleaves =>
    obtain ⟨rest, hlive, -, hgone⟩ := live_set hc rfl
    have hbooks : Books (calls.set n ⟨e, r, .dropped (.taken f)⟩) q.slots q.lanes
        (d.watched.drop f w) :=
      h.books.move hc (fun _ hv => hv) (fun _ _ => rfl) (fun _ hid => by cases hid) id trivial
        rfl rfl
    obtain ⟨hacc, hadds⟩ := leaves hleaves (h.sound.perm hlive) (hgone _ rfl) hbooks
    exact ⟨hacc, hadds.of_move h.books hc (fun _ _ => rfl) (by simp [Stage.Waits]) rfl⟩
  | @withdrawn id q w hslot =>
    obtain ⟨rest, hlive, -, hgone⟩ := live_set hc rfl
    refine ⟨⟨((h.sound.perm hlive).withdraw hslot).perm (hgone _ rfl), ?_⟩, .refl _ _ rfl⟩
    have hlanes : ∀ v ∈ (q.lanes.remove id).waiters, v ∈ q.lanes.waiters := by
      intro v hv
      rw [Lanes.waiters_remove] at hv
      exact (List.mem_filter.mp hv).1
    refine h.books.move hc hlanes (fun _ => get?_erase_of_ne) (fun _ hid => by cases hid)
      (fun hl => hl) ?_ rfl rfl
    rw [QueuedCall.standing_empty hslot]
    trivial
  | @collected id f q q' w w' hslot _ ih =>
    have hn : n < calls.length := (List.getElem?_eq_some_iff.mp hc).1
    obtain ⟨hacc, hadds⟩ := ih (h.collect hc hslot) (List.getElem?_set_self hn)
    rw [List.set_set] at hacc
    rw [QueuedCall.standing_filled hslot]
    exact ⟨hacc, hadds.of_move h.books hc (fun _ => get?_erase_of_ne) (by simp [Stage.Waits]) rfl⟩
  | @abandoned id q w hslot =>
    rw [QueuedCall.standing_abandoned hslot]
    exact ⟨h.fail hc hslot rfl (fun _ => rfl) (.inl rfl), .refl _ _ rfl⟩

end Accounts

/-- A caller submits a call, which may have been offered at once. -/
theorem Books.push {slots slots' : Table Nat (Slot (Stamped κ))} {lanes lanes' : Lanes}
    {e : Endpoint} {r : Request} {c : QueuedCall (Stamped κ)} {new : List Offer}
    (h : Books calls slots lanes w)
    (hslots : ∀ (m id : Nat) (c' : Submission (Stamped κ)), calls[m]? = some c' →
      c'.stage = .held (.waiting id) →
        slots'.get? id = slots.get? id ∧ w'.owners.get? id = w.owners.get? id)
    (howner : ∀ id, c = .waiting id → w'.owners.get? id = some calls.length)
    (hoffers : w'.offers = w.offers ++ new)
    (hnew : ∀ o ∈ new, o.call = calls.length ∧ o.endpoint = e ∧ o.request = r)
    (hledger : Ledger w'.offers calls.length (c.standing slots'))
    (hlanes : ∀ v ∈ lanes'.waiters,
      v ∈ lanes.waiters ∧ w'.owners.get? v.id = w.owners.get? v.id ∨
        w'.owners.get? v.id = some calls.length ∧ v.endpoint = e ∧ v.request = r)
    (hproper : (Stage.held c).Proper) :
    Books (calls ++ [⟨e, r, .held c⟩]) slots' lanes' w' := by
  have hold : ∀ (m : Nat) (c' : Submission (Stamped κ)), calls[m]? = some c' →
      (calls ++ [⟨e, r, .held c⟩])[m]? = some c' := by
    intro m c' hm
    rw [List.getElem?_append_left (List.getElem?_eq_some_iff.mp hm).1, hm]
  have hlast : (calls ++ [⟨e, r, .held c⟩])[calls.length]? = some ⟨e, r, .held c⟩ :=
    List.getElem?_concat_length
  refine ⟨?_, ?_, ?_, ?_, ?_⟩
  · intro m c' id hm hstage
    rcases getElem?_of_push hm with ⟨-, hm⟩ | ⟨rfl, rfl⟩
    · rw [(hslots m id c' hm hstage).2]
      exact h.owned m c' id hm hstage
    · cases hstage
      exact howner id rfl
  · intro m c' hm
    rcases getElem?_of_push hm with ⟨hlt, hm⟩ | ⟨rfl, rfl⟩
    · have hst : c'.stage.standing slots' = c'.stage.standing slots :=
        Stage.standing_congr fun id hstage => (hslots m id c' hm hstage).1
      rw [hst, hoffers]
      refine (h.ledger m c' hm).others fun o ho => ?_
      rw [(hnew o ho).1]
      omega
    · exact hledger
  · intro o ho
    rw [hoffers] at ho
    rcases List.mem_append.mp ho with ho | ho
    · obtain ⟨c', hc', hend⟩ := h.offered o ho
      exact ⟨c', hold _ c' hc', hend⟩
    · obtain ⟨hcall, hend⟩ := hnew o ho
      exact ⟨_, by rw [hcall, hlast], hend⟩
  · intro v hv
    rcases hlanes v hv with ⟨hv, howners⟩ | ⟨hown, hend⟩
    · obtain ⟨m, c', hown, hc', hend⟩ := h.lined v hv
      exact ⟨m, c', by rw [howners, hown], hold _ c' hc', hend⟩
    · exact ⟨_, _, hown, hlast, hend⟩
  · intro m c' hm
    rcases getElem?_of_push hm with ⟨-, hm⟩ | ⟨rfl, rfl⟩
    · exact h.proper m c' hm
    · exact hproper

theorem live_push (calls : List (Submission κ)) (e : Endpoint) (r : Request) (c : QueuedCall κ) :
    (c :: live calls).Perm (live (calls ++ [⟨e, r, .held c⟩])) := by
  have hlive : live (calls ++ [⟨e, r, .held c⟩]) = live calls ++ [c] := by
    simp [live, Stage.held?]
  rw [hlive]
  exact (List.perm_append_singleton c _).symm

/-- A new call that is not taken directly was at most offered and refused. -/
theorem declined_notes {e : Endpoint} {r : Request}
    (h : Queue.Declined d.watched e r q w w') :
    w'.owners = w.owners ∧ ∃ new, w'.offers = w.offers ++ new ∧
      ∀ o ∈ new, o = ⟨w.offered q, e, r, false⟩ := by
  rcases h with ⟨-, rfl⟩ | ⟨-, hoffer⟩
  · exact ⟨rfl, [], by rw [List.append_nil], by simp⟩
  · obtain ⟨s, rfl⟩ := Delegate.watched_refuses hoffer
    exact ⟨rfl, [_], rfl, fun o ho => List.mem_singleton.mp ho⟩

namespace Accounts

/-- An offer outside of a pass is one of the new call. -/
theorem offered_enter (h : Accounts calls q w) :
    (w.enter calls.length q.nextId).offered q = calls.length := by
  rw [Watched.offered, Queue.inHand_of_sound h.sound]
  rfl

/-- Slots that are in use stay with their callers. -/
theorem owners_enter (h : Accounts calls q w) {id : Nat} (hs : (q.slots.get? id).isSome) :
    (w.enter calls.length q.nextId).owners.get? id = w.owners.get? id := by
  show (w.owners.insert q.nextId calls.length).get? id = _
  rw [Table.get?_insert, if_neg]
  have := h.sound.below id hs
  omega

/-- Setting up a slot for the new call leaves the slots that are in use. -/
theorem get?_insert_nextId (h : Accounts calls q w) {id : Nat} (hs : (q.slots.get? id).isSome) :
    (q.slots.insert q.nextId .empty).get? id = q.slots.get? id := by
  rw [Table.get?_insert, if_neg]
  have := h.sound.below id hs
  omega

theorem isSome_of_held (h : Accounts calls q w) {m id : Nat} {c : Submission (Stamped κ)}
    (hm : calls[m]? = some c) (hstage : c.stage = .held (.waiting id)) :
    (q.slots.get? id).isSome :=
  (h.sound.owned id).mpr (Queue.mem_tickets.mpr (mem_live.mpr ⟨m, c, hm, hstage⟩))

theorem isSome_of_waiter (h : Accounts calls q w) {v : Waiter} (hv : v ∈ q.lanes.waiters) :
    (q.slots.get? v.id).isSome := by
  have hid : v.id ∈ q.lanes.ids := List.mem_map_of_mem hv
  rw [(h.sound.awaits _).mp hid]
  rfl

/-- A new call that does not come to wait leaves slots and lanes as they are. -/
theorem push_settled {e : Endpoint} {r : Request} {c : QueuedCall (Stamped κ)} {new : List Offer}
    (h : Accounts calls q w) (howners : w'.owners = (w.enter calls.length q.nextId).owners)
    (hoffers : w'.offers = w.offers ++ new)
    (hnew : ∀ o ∈ new, o.call = calls.length ∧ o.endpoint = e ∧ o.request = r)
    (hc : ∀ id, c ≠ .waiting id) (hledger : Ledger w'.offers calls.length (c.standing q.slots))
    (hproper : (Stage.held c).Proper) :
    Books (calls ++ [⟨e, r, .held c⟩]) q.slots q.lanes w' := by
  refine h.books.push (fun m id c' hm hstage => ⟨rfl, ?_⟩) (fun id hid => absurd hid (hc id))
    hoffers hnew hledger (fun v hv => .inl ⟨hv, ?_⟩) hproper
  · rw [howners, h.owners_enter (h.isSome_of_held hm hstage)]
  · rw [howners, h.owners_enter (h.isSome_of_waiter hv)]

/-- A new call comes to wait. -/
theorem push_queued {e : Endpoint} {r : Request} {new : List Offer} (h : Accounts calls q w)
    (hopen : q.closed = false) (ha : q.alive = true) (fairness : Fairness)
    (howners : w'.owners = (w.enter calls.length q.nextId).owners)
    (hoffers : w'.offers = w.offers ++ new)
    (hnew : ∀ o ∈ new, o.call = calls.length ∧ o.endpoint = e ∧ o.request = r)
    (hledger : ∀ o ∈ w'.offers, o.call = calls.length → o.taken = false) :
    Accounts (calls ++ [⟨e, r, .held (.waiting q.nextId)⟩])
      (Queue.enqueue { q with nextId := q.nextId + 1 } fairness q.nextId e r) w' := by
  refine ⟨(h.sound.enqueue hopen ha fairness e r).perm (live_push ..), ?_⟩
  have howner : w'.owners.get? q.nextId = some calls.length := by
    rw [howners]
    show (w.owners.insert q.nextId calls.length).get? q.nextId = _
    rw [Table.get?_insert, if_pos rfl]
  refine h.books.push (fun m id c' hm hstage => ?_) (fun id hid => ?_) hoffers hnew ?_
    (fun v hv => ?_) trivial
  · have hsome := h.isSome_of_held hm hstage
    exact ⟨h.get?_insert_nextId hsome, by rw [howners, h.owners_enter hsome]⟩
  · cases hid
    exact howner
  · have hempty : (q.slots.insert q.nextId .empty).get? q.nextId = some .empty := by
      rw [Table.get?_insert, if_pos rfl]
    show Ledger _ _ (QueuedCall.standing (q.slots.insert q.nextId .empty) _)
    rw [QueuedCall.standing_empty hempty]
    exact hledger
  · have hv' := (Lanes.waiters_push fairness ⟨q.nextId, e, r⟩ q.lanes).mem_iff.mp hv
    rcases List.mem_cons.mp hv' with rfl | hv'
    · exact .inr ⟨howner, rfl, rfl⟩
    · exact .inl ⟨hv', by rw [howners, h.owners_enter (h.isSome_of_waiter hv')]⟩

/-- Offers of a new call are not offers of one that was submitted before. -/
theorem adds_of_new {new : List Offer} (hoffers : w'.offers = w.offers ++ new)
    (hnew : ∀ o ∈ new, o.call = calls.length) : Adds calls q.slots w w' := by
  refine ⟨new, hoffers, fun o ho c hc => ?_⟩
  rw [hnew o ho, List.getElem?_eq_none (Nat.le_refl _)] at hc
  cases hc

/-- A call is submitted. -/
theorem submits {e : Endpoint} {r : Request} {c : QueuedCall (Stamped κ)}
    (h : Accounts calls q w) (ha : q.alive = true)
    (hs : Queue.Submits d.watched e r q (w.enter calls.length q.nextId) c q' w') :
    Accounts (calls ++ [⟨e, r, .held c⟩]) q' w' ∧ Adds calls q.slots w w' := by
  have hunoffered : ∀ o ∈ w.offers, o.call = calls.length → o.taken = false :=
    fun o ho hcall => absurd hcall (h.books.unoffered o ho)
  -- A new call that is not taken directly has been refused at most.
  have hrefused : ∀ {w₁ : Watched σ} {new : List Offer}, w₁.offers = w.offers ++ new →
      (∀ o ∈ new, o = ⟨calls.length, e, r, false⟩) →
      ∀ o ∈ w₁.offers, o.call = calls.length → o.taken = false := by
    intro w₁ new hoffers hnew o ho hcall
    rw [hoffers] at ho
    rcases List.mem_append.mp ho with ho | ho
    · exact hunoffered o ho hcall
    · rw [hnew o ho]
  cases hs with
  | closed =>
    have hoffers : (w.enter calls.length q.nextId).offers = w.offers ++ [] :=
      (List.append_nil _).symm
    refine ⟨⟨(h.sound.refused _).perm (live_push ..), ?_⟩, .refl _ _ rfl⟩
    exact h.push_settled rfl hoffers (by simp) (by simp) hunoffered (.inl rfl)
  | direct _ _ hoffer =>
    obtain ⟨f, s, rfl, rfl⟩ := Delegate.watched_takes hoffer
    rw [h.offered_enter]
    refine ⟨⟨(h.sound.direct _).perm (live_push ..), ?_⟩, adds_of_new rfl (by simp)⟩
    refine h.push_settled rfl rfl (by simp) (by simp) ?_ trivial
    exact Ledger.taken hunoffered rfl rfl f
  | full _ hdeclined _ =>
    obtain ⟨howners, new, hoffers, hnew⟩ := declined_notes hdeclined
    rw [h.offered_enter] at hnew
    refine ⟨⟨(h.sound.skip.refused _).perm (live_push ..), ?_⟩,
      adds_of_new hoffers fun o ho => by rw [hnew o ho]⟩
    refine h.push_settled howners hoffers (fun o ho => ?_) (by simp) (hrefused hoffers hnew)
      (.inr ⟨_, rfl⟩)
    rw [hnew o ho]
    exact ⟨rfl, rfl, rfl⟩
  | @queued q' w₁ w' hopen hdeclined hroom hround =>
    obtain ⟨howners, new, hoffers, hnew⟩ := declined_notes hdeclined
    rw [h.offered_enter] at hnew
    have hpush : Accounts (calls ++ [⟨e, r, .held (.waiting q.nextId)⟩])
        (Queue.enqueue { q with nextId := q.nextId + 1 } (d.watched.settings w₁).fairness
          q.nextId e r) (d.watched.report (q.len + 1) w₁) :=
      h.push_queued hopen ha _ howners hoffers
        (fun o ho => by rw [hnew o ho]; exact ⟨rfl, rfl, rfl⟩) (hrefused hoffers hnew)
    obtain ⟨hacc, new', hoffers', hwaits⟩ := hpush.round hround
    refine ⟨hacc, new ++ new', ?_, fun o ho c' hc' => ?_⟩
    · rw [hoffers', ← List.append_assoc]
      exact congrArg (· ++ new') hoffers
    · -- Either the new call was offered, or the pass offered one that waited.
      rcases List.mem_append.mp ho with ho | ho
      · rw [hnew o ho, List.getElem?_eq_none (Nat.le_refl _)] at hc'
        cases hc'
      · have hlt := (List.getElem?_eq_some_iff.mp hc').1
        obtain ⟨id, hstage, hempty⟩ :=
          hwaits o ho c' (by rw [List.getElem?_append_left hlt, hc'])
        refine ⟨id, hstage, ?_⟩
        rw [← h.get?_insert_nextId (h.isSome_of_held hc' hstage)]
        exact hempty

/-- It may be time for a timer. -/
theorem fires (h : Accounts calls q w) (hf : Queue.Fires d.watched q w q' w') :
    Accounts calls q' w' ∧ Adds calls q.slots w w' := by
  cases hf with
  | early => exact ⟨h, .refl _ _ rfl⟩
  | spent => exact ⟨⟨h.sound.ring _, h.books⟩, .refl _ _ rfl⟩
  | rung _ _ _ hround =>
    have hring : Accounts calls (q.ring (d.watched.now w)) w := ⟨h.sound.ring _, h.books⟩
    exact hring.round hround

/-- The queue gives up what waits. -/
theorem gives_up (h : Accounts calls q w) (hsound : q'.Sound (live calls))
    (hslots : ∀ id, q'.slots.get? id = (q.slots.get? id).map Slot.givenUp)
    (hlanes : q'.lanes = []) (howners : w'.owners = w.owners)
    (hoffers : w'.offers = w.offers) : Accounts calls q' w' := by
  refine ⟨hsound, ?_, ?_, ?_, ?_, h.books.proper⟩
  · rw [howners]
    exact h.books.owned
  · intro n c hn
    rw [hoffers]
    exact (h.books.ledger n c hn).givenUp hslots
  · rw [hoffers]
    exact h.books.offered
  · rw [hlanes]
    simp

end Accounts

end Session

end RpcPipeline
