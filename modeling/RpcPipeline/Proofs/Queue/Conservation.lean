import Mathlib.Data.List.Nodup
import RpcPipeline.Proofs.Queue.Accounts

/-!
# `RpcPipeline.Proofs.Queue.Conservation`: no call is lost, and none is taken twice

* `step_inOrder`, `run_inOrder`: the accounts are kept by every move, and in every run.
* `Follows`, `run_offersOf`: a call that has left the waiting state does not wait again, and
  is not offered again.
* `run_conserves`: in every run every call is in exactly one of five states, which is
  admitted, waiting, overflowed, cancelled or withdrawn (`Fate`); what was admitted has
  got to its own caller; the count of the queue is the number of calls that wait.
-/

set_option autoImplicit false

namespace RpcPipeline

variable {κ σ : Type}

/-- What can become of a call. -/
inductive Fate where
  | admitted
  | waiting
  | overflowed
  | cancelled
  | withdrawn
  deriving DecidableEq

/-- What has become of a call, as it stands. -/
def Stage.fate (slots : Table Nat (Slot κ)) (stage : Stage κ) : Fate :=
  match stage.standing slots with
  | .failed (.queueFull _) => .overflowed
  | .failed _ => .cancelled
  | .taken _ => .admitted
  | .waiting =>
    match stage with
    | .dropped _ => .withdrawn
    | .held _ | .ended _ _ => .waiting

namespace Session

/-- What it means that this has become of a call. -/
def Meets (x : Session κ σ) (n : Nat) : Fate → Prop
  -- Exactly one of all offers is one at which the call was taken.
  | .admitted => ∃! i : Nat, ∃ o : Offer, x.watch.offers[i]? = some o ∧ o.call = n ∧ o.taken = true
  | .waiting => ∃ c : Submission (Stamped κ), x.calls[n]? = some c ∧
      c.waits x.queue.lanes = true
  | .overflowed => ∃ (c : Submission (Stamped κ)) (capacity : Nat), x.calls[n]? = some c ∧
      c.stage.Fails x.queue.slots (.queueFull capacity)
  | .cancelled => ∃ c : Submission (Stamped κ), x.calls[n]? = some c ∧
      c.stage.Fails x.queue.slots .cancelled
  | .withdrawn => ∃ c : Submission (Stamped κ), x.calls[n]? = some c ∧
      c.stage = .dropped .waiting

/-- No call is lost, and none is taken twice. -/
structure Conserved (d : Delegate κ σ) (x : Session κ σ) : Prop where
  /-- Every call is in exactly one of the five states. -/
  fate : ∀ n < x.calls.length, ∃! fate, x.Meets n fate
  /-- A call that was admitted is delivered to the caller that submitted it, and it was
  offered as it was submitted. -/
  delivered : ∀ (i : Nat) (o : Offer), x.watch.offers[i]? = some o → o.taken = true →
    ∃ (c : Submission (Stamped κ)) (f : Stamped κ), x.calls[o.call]? = some c ∧
      c.stage.standing x.queue.slots = .taken f ∧ f.stamp = i ∧
      o.endpoint = c.endpoint ∧ o.request = c.request
  /-- What a caller has got is its own call. -/
  own : ∀ (n : Nat) (c : Submission (Stamped κ)) (f : Stamped κ), x.calls[n]? = some c →
    c.stage.standing x.queue.slots = .taken f →
      ∃ o : Offer, x.watch.offers[f.stamp]? = some o ∧ o.call = n ∧ o.taken = true
  /-- The offer at which a call was taken is the last one that was made of it. -/
  last : ∀ (i j : Nat) (o o' : Offer), x.watch.offers[i]? = some o →
    x.watch.offers[j]? = some o' → o'.call = o.call → o.taken = true → j ≤ i
  len_eq : x.queue.len = x.calls.countP (·.waits x.queue.lanes)
  /-- Once a call has left the waiting state, it is not offered again, whatever
  happens. -/
  settled : ∀ n < x.calls.length, ¬ x.Meets n .waiting →
    ∀ moves, (x.run d moves).offersOf n = x.offersOf n

/-- The accounts are kept, and no pass runs. -/
structure InOrder (x : Session κ σ) : Prop where
  accounts : Accounts x.calls x.queue x.watch
  idle : x.queue.running = false

/-- Whether a call waits. -/
def WaitsAt (x : Session κ σ) (n : Nat) : Prop :=
  ∃ c : Submission (Stamped κ), x.calls[n]? = some c ∧ c.stage.Waits x.queue.slots

/-- Calls that were submitted and do not wait stay so, and are not offered. -/
structure Follows (x x' : Session κ σ) : Prop where
  adds : Adds x.calls x.queue.slots x.watch x'.watch
  length_le : x.calls.length ≤ x'.calls.length
  waited : ∀ n < x.calls.length, x'.WaitsAt n → x.WaitsAt n

variable {d : Delegate κ σ} {x x' : Session κ σ}

/-! ### Moves -/

theorem start_inOrder (timed : Bool) (s : σ) : (start timed s : Session κ σ).InOrder where
  accounts := by
    refine ⟨.new timed, ?_, ?_, ?_, ?_, ?_⟩ <;> simp [start, Queue.new, WaitingRoom.empty]
  idle := rfl

theorem Follows.refl (x : Session κ σ) : x.Follows x :=
  ⟨.refl _ _ rfl, Nat.le_refl _, fun _ _ h => h⟩

theorem Follows.offersOf_eq (h : x.Follows x') {n : Nat} (hn : n < x.calls.length)
    (hw : ¬ x.WaitsAt n) : x'.offersOf n = x.offersOf n := by
  -- Only calls that waited were offered, and this one did not.
  obtain ⟨new, hnew, hwaits⟩ := h.adds
  have hnone : new.filter (fun o => decide (o.call = n)) = [] := by
    refine List.filter_eq_nil_iff.mpr fun o ho hcall => ?_
    have hcall' : o.call = n := of_decide_eq_true hcall
    have hget : x.calls[o.call]? = some x.calls[n] := by
      rw [hcall', List.getElem?_eq_getElem hn]
    exact hw ⟨x.calls[n], List.getElem?_eq_getElem hn, hwaits o ho _ hget⟩
  rw [offersOf, hnew, List.filter_append, hnone, List.append_nil, offersOf]

/-- What one call waits for does not change when the caller of another does something
with its own. -/
theorem waitsAt_of_set {n : Nat} {e : Endpoint} {r : Request}
    {c : QueuedCall (Stamped κ)} {stage' : Stage (Stamped κ)}
    (hc : x.calls[n]? = some ⟨e, r, .held c⟩) (hcalls : x'.calls = x.calls.set n ⟨e, r, stage'⟩)
    (hstage : ∀ id, stage' = .held (.waiting id) → c = .waiting id)
    (hslots : ∀ id, x'.queue.slots.get? id = some .empty → x.queue.slots.get? id = some .empty)
    {m : Nat} (hm : x'.WaitsAt m) : x.WaitsAt m := by
  obtain ⟨c', hc', id, hid, hempty⟩ := hm
  rw [hcalls] at hc'
  rcases getElem?_of_set hc' with ⟨rfl, rfl⟩ | ⟨-, hc'⟩
  · exact ⟨_, hc, id, by rw [hstage id hid], hslots id hempty⟩
  · exact ⟨c', hc', id, hid, hslots id hempty⟩

/-- The queue gives up what waits. -/
theorem givenUp_inOrder (h : x.InOrder) (hsound : x'.queue.Sound (live x.calls))
    (hslots : ∀ id, x'.queue.slots.get? id = (x.queue.slots.get? id).map Slot.givenUp)
    (hlanes : x'.queue.lanes = []) (hidle : x'.queue.running = false)
    (hcalls : x'.calls = x.calls) (howners : x'.watch.owners = x.watch.owners)
    (hoffers : x'.watch.offers = x.watch.offers) : x'.InOrder ∧ x.Follows x' := by
  refine ⟨⟨?_, hidle⟩, .refl _ _ hoffers, Nat.le_of_eq (by rw [hcalls]), fun n _ hw => ?_⟩
  · rw [hcalls]
    exact h.accounts.gives_up hsound hslots hlanes howners hoffers
  · obtain ⟨c, -, id, -, hempty⟩ := hw
    rw [hslots] at hempty
    cases hs : x.queue.slots.get? id with
    | none =>
      rw [hs] at hempty
      cases hempty
    | some slot =>
      rw [hs] at hempty
      cases slot <;> cases hempty

/-- A move keeps the accounts, and does not offer a call that was submitted before
unless that waits. -/
theorem step_inOrder (h : x.InOrder) (m : Move σ) :
    (x.step d m).InOrder ∧ x.Follows (x.step d m) := by
  have hsound := h.accounts.sound
  have hdoes := step_does d hsound h.idle m
  generalize x.step d m = x' at hdoes ⊢
  cases hdoes with
  | nothing => exact ⟨h, .refl x⟩
  | submitted halive hsubmits =>
    obtain ⟨hacc, hadds⟩ := h.accounts.submits halive hsubmits
    refine ⟨⟨hacc, (hsubmits.sound hsound h.idle halive).2⟩, hadds, by simp, ?_⟩
    rintro n hn ⟨c, hc, id, hstage, hempty⟩
    rw [List.getElem?_append_left hn] at hc
    have hid : id ≠ x.queue.nextId := by
      have := hsound.below id (h.accounts.isSome_of_held hc hstage)
      omega
    exact ⟨c, hc, id, hstage, hsubmits.wasEmpty hsound halive hid hempty⟩
  | @polled n e r c c' result q' w' hc hpolls =>
    obtain ⟨rest, hheld⟩ := sound_of_held hsound hc
    obtain ⟨hacc, hadds⟩ := h.accounts.polls hpolls hc
    refine ⟨⟨hacc, (hpolls.sound hheld h.idle).2⟩, hadds, by simp, fun m _ hm => ?_⟩
    refine waitsAt_of_set hc rfl (fun id hid => ?_) (fun id => hpolls.wasEmpty hheld) hm
    -- A caller that has a result does not hold anything.
    cases result with
    | some _ => cases hid
    | none =>
      cases hid
      exact hpolls.waited
  | dropped hc hdrops =>
    obtain ⟨rest, hheld⟩ := sound_of_held hsound hc
    obtain ⟨hacc, hadds⟩ := h.accounts.drops hdrops hc
    refine ⟨⟨hacc, (hdrops.sound hheld h.idle).2⟩, hadds, by simp, fun m _ hm => ?_⟩
    exact waitsAt_of_set hc rfl (fun id hid => by cases hid) (fun id => hdrops.wasEmpty hheld) hm
  | fired hfires =>
    obtain ⟨hacc, hadds⟩ := h.accounts.fires hfires
    refine ⟨⟨hacc, (hfires.sound hsound h.idle).2⟩, hadds, Nat.le_refl _, ?_⟩
    rintro n - ⟨c, hc, id, hstage, hempty⟩
    exact ⟨c, hc, id, hstage, hfires.wasEmpty hsound hempty⟩
  | closed hopen =>
    have heq := Queue.close_eq (b := d.watched) hopen x.watch
    refine givenUp_inOrder h (Queue.close_sound hsound _ _) (Queue.get?_close hsound hopen x.watch)
      ?_ ?_ rfl ?_ ?_
    · exact congrArg (fun z => z.1.lanes) heq
    · exact (congrArg (fun z => z.1.running) heq).trans h.idle
    · exact congrArg (fun z => z.2.owners) heq
    · exact congrArg (fun z => z.2.offers) heq
  | letGo =>
    have heq := x.queue.die_eq
    refine givenUp_inOrder h (Queue.die_sound hsound) (Queue.get?_die hsound) ?_ ?_ rfl rfl rfl
    · exact congrArg (·.lanes) heq
    · exact (congrArg Queue.running heq).trans h.idle
  | changed f =>
    exact ⟨⟨⟨hsound, h.accounts.books.of_notes rfl rfl⟩, h.idle⟩, .refl _ _ rfl,
      Nat.le_refl _, fun _ _ hw => hw⟩

/-! ### Runs -/

theorem run_inOrder (h : x.InOrder) (moves : List (Move σ)) : (x.run d moves).InOrder := by
  induction moves generalizing x with
  | nil => exact h
  | cons m moves ih => exact ih (step_inOrder h m).1

/-- Once a call does not wait, it is not offered again. -/
theorem run_offersOf (h : x.InOrder) {n : Nat} (hn : n < x.calls.length)
    (hw : ¬ x.WaitsAt n) (moves : List (Move σ)) :
    (x.run d moves).offersOf n = x.offersOf n := by
  induction moves generalizing x with
  | nil => rfl
  | cons m moves ih =>
    obtain ⟨hin, hfollows⟩ := step_inOrder (d := d) h m
    have hw' : ¬ (x.step d m).WaitsAt n := fun hwaits => hw (hfollows.waited n hn hwaits)
    rw [run_cons, ih hin (Nat.lt_of_lt_of_le hn hfollows.length_le) hw']
    exact hfollows.offersOf_eq hn hw

/-! ### Five states -/

section

variable {n : Nat} {c : Submission (Stamped κ)}

theorem fails_iff (h : x.InOrder) (hc : x.calls[n]? = some c) (e : CallError) :
    c.stage.Fails x.queue.slots e ↔ c.stage.standing x.queue.slots = .failed e := by
  have hproper := h.accounts.books.proper n c hc
  cases hstage : c.stage with
  | held _ => exact Iff.rfl
  | dropped _ => exact Iff.rfl
  | ended st result =>
    refine ⟨fun hf => hf.1, fun hst => ⟨hst, ?_⟩⟩
    have hst' : st = .failed e := hst
    rw [hstage, hst'] at hproper
    exact hproper.2

/-- A call that failed did so with one of two errors. -/
theorem turnaway_of_failed (h : x.InOrder) (hc : x.calls[n]? = some c) {e : CallError}
    (hst : c.stage.standing x.queue.slots = .failed e) : e.IsTurnaway := by
  have hproper := h.accounts.books.proper n c hc
  cases hstage : c.stage with
  | ended st result =>
    rw [hstage] at hst hproper
    cases hst
    exact hproper.1
  | dropped st =>
    rw [hstage] at hst hproper
    cases hst
    exact hproper
  | held held =>
    rw [hstage] at hst hproper
    cases held with
    | refused _ =>
      cases hst
      exact hproper
    | running _ => cases hst
    | waiting id =>
      simp only [Stage.standing, QueuedCall.standing] at hst
      cases hs : x.queue.slots.get? id with
      | none =>
        rw [hs] at hst
        cases hst
        exact .inl rfl
      | some slot =>
        rw [hs] at hst
        cases slot <;> cases hst
        exact .inl rfl

theorem waits_iff (h : x.InOrder) (hc : x.calls[n]? = some c) :
    c.stage.Waits x.queue.slots ↔
      c.stage.standing x.queue.slots = .waiting ∧ c.stage ≠ .dropped .waiting := by
  have hproper := h.accounts.books.proper n c hc
  constructor
  · rintro ⟨id, hstage, hempty⟩
    rw [hstage]
    exact ⟨QueuedCall.standing_empty hempty, by simp⟩
  · rintro ⟨hst, hdropped⟩
    cases hstage : c.stage with
    | ended st result =>
      rw [hstage] at hst hproper
      cases hst
      exact hproper.elim
    | dropped st =>
      rw [hstage] at hst hdropped
      cases hst
      exact absurd rfl hdropped
    | held held =>
      rw [hstage] at hst
      cases held with
      | refused _ => cases hst
      | running _ => cases hst
      | waiting id =>
        refine ⟨id, rfl, ?_⟩
        simp only [Stage.standing, QueuedCall.standing] at hst
        cases hs : x.queue.slots.get? id with
        | none =>
          rw [hs] at hst
          cases hst
        | some slot =>
          rw [hs] at hst
          cases slot <;> cases hst
          rfl

/-- A call stands in exactly one place of the lanes exactly as long as its slot is
empty. -/
theorem waits_lanes_iff (h : x.InOrder) (c : Submission (Stamped κ)) :
    c.waits x.queue.lanes = true ↔ c.stage.Waits x.queue.slots := by
  have hcount : ∀ id, x.queue.lanes.ids.count id = 1 ↔ x.queue.slots.get? id = some .empty := by
    intro id
    rw [← h.accounts.sound.awaits]
    refine ⟨fun hone => List.count_pos_iff.mp (by omega), fun hmem => ?_⟩
    exact List.count_eq_one_of_mem h.accounts.sound.nodup hmem
  cases hstage : c.stage with
  | ended _ _ => simp [Submission.waits, Stage.Waits, hstage]
  | dropped _ => simp [Submission.waits, Stage.Waits, hstage]
  | held held =>
    cases held with
    | refused _ => simp [Submission.waits, Stage.Waits, hstage]
    | running _ => simp [Submission.waits, Stage.Waits, hstage]
    | waiting id => simp [Submission.waits, Stage.Waits, hstage, hcount]

theorem meets_waiting_iff (h : x.InOrder) : x.Meets n .waiting ↔ x.WaitsAt n :=
  ⟨fun ⟨c, hc, hw⟩ => ⟨c, hc, (waits_lanes_iff h c).mp hw⟩,
    fun ⟨c, hc, hw⟩ => ⟨c, hc, (waits_lanes_iff h c).mpr hw⟩⟩

/-- An offer at which a call was taken is the last one that was made of the call, which
stands as taken with the stamp of that offer. -/
theorem taken_of_offer (h : x.InOrder) {i : Nat} {o : Offer} (hget : x.watch.offers[i]? = some o)
    (htaken : o.taken = true) (hc : x.calls[o.call]? = some c) :
    (∃ f, c.stage.standing x.queue.slots = .taken f ∧ f.stamp = i) ∧
      ∀ j o', x.watch.offers[j]? = some o' → o'.call = o.call → j ≤ i := by
  have hledger := h.accounts.books.ledger _ c hc
  -- The offers of a call that does not stand as taken were all refused.
  have hnone : ¬ ∀ o' ∈ x.watch.offers, o'.call = o.call → o'.taken = false := by
    intro hall
    rw [hall o (List.mem_of_getElem? hget) rfl] at htaken
    cases htaken
  cases hst : c.stage.standing x.queue.slots with
  | waiting =>
    rw [hst] at hledger
    exact absurd hledger hnone
  | failed _ =>
    rw [hst] at hledger
    exact absurd hledger hnone
  | taken f =>
    rw [hst] at hledger
    obtain ⟨-, -, -, -, hothers⟩ := hledger
    have hstamp : f.stamp = i := by
      rcases hothers i o hget rfl with heq | ⟨-, hrefused⟩
      · exact heq.symm
      · rw [hrefused] at htaken
        cases htaken
    refine ⟨⟨f, rfl, hstamp⟩, fun j o' hj hcall => ?_⟩
    rcases hothers j o' hj hcall with heq | ⟨hlt, -⟩
    · exact Nat.le_of_eq (heq.trans hstamp)
    · omega

/-- Exactly one offer of a call was taken exactly if the call stands as taken. -/
theorem meets_admitted_iff (h : x.InOrder) (hc : x.calls[n]? = some c) :
    x.Meets n .admitted ↔ ∃ f, c.stage.standing x.queue.slots = .taken f := by
  constructor
  · rintro ⟨i, ⟨o, hget, rfl, htaken⟩, -⟩
    obtain ⟨⟨f, hst, -⟩, -⟩ := taken_of_offer h hget htaken hc
    exact ⟨f, hst⟩
  · rintro ⟨f, hst⟩
    have hledger := h.accounts.books.ledger n c hc
    rw [hst] at hledger
    obtain ⟨o, hget, hcall, htaken, hothers⟩ := hledger
    refine ⟨f.stamp, ⟨o, hget, hcall, htaken⟩, ?_⟩
    rintro j ⟨o', hj, hcall', htaken'⟩
    rcases hothers j o' hj hcall' with heq | ⟨-, hrefused⟩
    · exact heq
    · rw [hrefused] at htaken'
      cases htaken'

theorem meets_overflowed_iff (h : x.InOrder) (hc : x.calls[n]? = some c) :
    x.Meets n .overflowed ↔
      ∃ capacity, c.stage.standing x.queue.slots = .failed (.queueFull capacity) := by
  simp only [Meets, hc, Option.some.injEq]
  constructor
  · rintro ⟨_, capacity, rfl, hfails⟩
    exact ⟨capacity, (fails_iff h hc _).mp hfails⟩
  · rintro ⟨capacity, hst⟩
    exact ⟨c, capacity, rfl, (fails_iff h hc _).mpr hst⟩

theorem meets_cancelled_iff (h : x.InOrder) (hc : x.calls[n]? = some c) :
    x.Meets n .cancelled ↔ c.stage.standing x.queue.slots = .failed .cancelled := by
  simp only [Meets, hc, Option.some.injEq, exists_eq_left']
  exact fails_iff h hc _

theorem meets_withdrawn_iff (hc : x.calls[n]? = some c) :
    x.Meets n .withdrawn ↔ c.stage = .dropped .waiting := by
  simp only [Meets, hc, Option.some.injEq, exists_eq_left']

theorem meets_waiting_iff_standing (h : x.InOrder) (hc : x.calls[n]? = some c) :
    x.Meets n .waiting ↔
      c.stage.standing x.queue.slots = .waiting ∧ c.stage ≠ .dropped .waiting := by
  simp only [Meets, hc, Option.some.injEq, exists_eq_left']
  exact (waits_lanes_iff h c).trans (waits_iff h hc)

/-- The states exclude each other, and one of them is always met. -/
theorem meets_iff (h : x.InOrder) (hc : x.calls[n]? = some c) (fate : Fate) :
    x.Meets n fate ↔ fate = c.stage.fate x.queue.slots := by
  -- Each of the five is said by how the call stands, and these exclude each other.
  have hadmitted := meets_admitted_iff h hc
  have hwaiting := meets_waiting_iff_standing h hc
  have hoverflowed := meets_overflowed_iff h hc
  have hcancelled := meets_cancelled_iff h hc
  have hwithdrawn : x.Meets n .withdrawn ↔ c.stage = .dropped .waiting := meets_withdrawn_iff hc
  have hdropped : c.stage = .dropped .waiting → c.stage.standing x.queue.slots = .waiting := by
    intro heq
    rw [heq]
    rfl
  cases hst : c.stage.standing x.queue.slots with
  | taken f =>
    have hfate : c.stage.fate x.queue.slots = .admitted := by simp [Stage.fate, hst]
    have hnot : c.stage ≠ .dropped .waiting := fun heq => by
      rw [hdropped heq] at hst
      cases hst
    cases fate <;>
      simp [hfate, hadmitted, hwaiting, hoverflowed, hcancelled, hwithdrawn, hst, hnot]
  | failed e =>
    have hnot : c.stage ≠ .dropped .waiting := fun heq => by
      rw [hdropped heq] at hst
      cases hst
    rcases turnaway_of_failed h hc hst with rfl | ⟨capacity, rfl⟩
    · have hfate : c.stage.fate x.queue.slots = .cancelled := by simp [Stage.fate, hst]
      cases fate <;>
        simp [hfate, hadmitted, hwaiting, hoverflowed, hcancelled, hwithdrawn, hst, hnot]
    · have hfate : c.stage.fate x.queue.slots = .overflowed := by simp [Stage.fate, hst]
      cases fate <;>
        simp [hfate, hadmitted, hwaiting, hoverflowed, hcancelled, hwithdrawn, hst, hnot]
  | waiting =>
    by_cases hgone : c.stage = .dropped .waiting
    · have hfate : c.stage.fate x.queue.slots = .withdrawn := by
        rw [hgone]
        rfl
      rw [hfate]
      rw [hst] at hadmitted hwaiting hoverflowed hcancelled
      cases fate <;> simp [hadmitted, hwaiting, hoverflowed, hcancelled, hwithdrawn, hgone]
    · have hfate : c.stage.fate x.queue.slots = .waiting := by
        have hwaits := (waits_iff h hc).mpr ⟨hst, hgone⟩
        obtain ⟨id, hstage, -⟩ := hwaits
        rw [hstage] at hst ⊢
        simp [Stage.fate, hst]
      cases fate <;>
        simp [hfate, hadmitted, hwaiting, hoverflowed, hcancelled, hwithdrawn, hst, hgone]

end

/-- The callers that wait are as many as the slots at which calls wait. -/
theorem countP_waits {lanes : Lanes} (hnodup : lanes.ids.Nodup)
    (calls : List (Submission (Stamped κ))) :
    calls.countP (·.waits lanes) =
      ((Queue.tickets (live calls)).filter fun id => decide (id ∈ lanes.ids)).length := by
  have hone : ∀ id, lanes.ids.count id = 1 ↔ id ∈ lanes.ids := fun id =>
    ⟨fun hc => List.count_pos_iff.mp (by omega), List.count_eq_one_of_mem hnodup⟩
  induction calls with
  | nil => rfl
  | cons c calls ih =>
    obtain ⟨e, r, stage⟩ := c
    rw [List.countP_cons, ih]
    cases stage with
    | ended _ _ => rfl
    | dropped _ => rfl
    | held held =>
      cases held with
      | refused _ => rfl
      | running _ => rfl
      | waiting id =>
        have hlive : Queue.tickets (live (⟨e, r, .held (.waiting id)⟩ :: calls)) =
            id :: Queue.tickets (live calls) := rfl
        rw [hlive, List.filter_cons]
        by_cases hid : id ∈ lanes.ids <;> simp [Submission.waits, hone, hid]

/-- The count of the queue is the number of calls that wait. -/
theorem len_eq_countP (h : x.InOrder) :
    x.queue.len = x.calls.countP (·.waits x.queue.lanes) := by
  have hsound := h.accounts.sound
  -- The slots of callers that stand in a lane are the lanes, each of them once.
  have hperm : ((Queue.tickets (live x.calls)).filter
      fun id => decide (id ∈ x.queue.lanes.ids)).Perm x.queue.lanes.ids := by
    refine (List.perm_ext_iff_of_nodup (hsound.distinct.filter _) hsound.nodup).mpr fun id => ?_
    rw [List.mem_filter, decide_eq_true_iff, and_iff_right_iff_imp]
    intro hid
    rw [← hsound.owned, (hsound.awaits id).mp hid]
    rfl
  rw [countP_waits hsound.nodup, hperm.length_eq, hsound.len_eq, Lanes.length_ids]

/-- In every run, no call is lost, and none is taken twice. -/
theorem run_conserves (d : Delegate κ σ) (timed : Bool) (s : σ) (moves : List (Move σ)) :
    ((start timed s : Session κ σ).run d moves).Conserved d := by
  have h := run_inOrder (d := d) (start_inOrder timed s) moves
  generalize (start timed s : Session κ σ).run d moves = x at h
  refine ⟨?_, ?_, ?_, ?_, len_eq_countP h, ?_⟩
  · intro n hn
    have hc := List.getElem?_eq_getElem hn
    exact ⟨_, (meets_iff h hc _).mpr rfl, fun fate hf => (meets_iff h hc fate).mp hf⟩
  · intro i o hget htaken
    obtain ⟨c, hc, hend, hreq⟩ := h.accounts.books.offered o (List.mem_of_getElem? hget)
    obtain ⟨⟨f, hst, hstamp⟩, -⟩ := taken_of_offer h hget htaken hc
    exact ⟨c, f, hc, hst, hstamp, hend, hreq⟩
  · intro n c f hc hst
    have hledger := h.accounts.books.ledger n c hc
    rw [hst] at hledger
    obtain ⟨o, hget, hcall, htaken, -⟩ := hledger
    exact ⟨o, hget, hcall, htaken⟩
  · intro i j o o' hget hget' hcall htaken
    obtain ⟨c, hc, -⟩ := h.accounts.books.offered o (List.mem_of_getElem? hget)
    exact (taken_of_offer h hget htaken hc).2 j o' hget' hcall
  · intro n hn hw moves
    exact run_offersOf h hn (fun hwaits => hw ((meets_waiting_iff h).mpr hwaits)) moves

end Session

end RpcPipeline
