import RpcPipeline.Proofs.Hosts.Outcomes

/-!
# `RpcPipeline.Proofs.Hosts.Exclusion`: when a host is excluded

A host is excluded when it fails, and when it was overloaded as many times as the settings say
since it last served a call, failed, or was excluded for overloads. A `Register` is a blacklist
together with a note of every outcome that it has learnt from; the notes alone say when an
exclusion is due (`OutcomeNote.due`).

* `Tells`: the state of a blacklist, as far as it concerns one host, against the notes about
  this host.
* `Tells.learn`, `Tells.agrees`: this is kept by an outcome of the host, and by everything that
  concerns other hosts only.
* `Register.Sound`, `Sound.step`, `Sound.run`: this holds of every host all along.
* `Register.run_upholds_exclusions`: when a host is excluded, and for how long, in every run.
-/

set_option autoImplicit false

namespace RpcPipeline

variable {α : Type}

/-! ### Notes of outcomes -/

/-- An outcome of a host that a blacklist has learnt from. -/
structure OutcomeNote (α : Type) where
  id : HostId
  outcome : Outcome
  now : Instant
  /-- What was reported then. -/
  events : List (Event α)

namespace OutcomeNote

/-- An exclusion was reported. -/
def trips (n : OutcomeNote α) : Bool := !n.events.isEmpty

/-- Overloads are counted afresh afterwards. -/
def resets (n : OutcomeNote α) : Bool :=
  match n.outcome with
  | .success | .serverError | .hostFailure => true
  | .overloaded => n.trips
  | .ignored => false

/-- The overloads since they were last counted afresh, by the notes about one host, which are
listed with the latest one first. -/
def overloads (notes : List (OutcomeNote α)) : Nat :=
  (notes.takeWhile fun n => !n.resets).countP fun n => n.outcome = .overloaded

/-- Why an outcome has to lead to the exclusion of a host, after some others: it is a failure,
or the overload that makes the number full. -/
def due (threshold : Nat) (earlier : List (OutcomeNote α)) : Outcome → Option BlacklistReason
  | .hostFailure => some .hostFailure
  | .overloaded => if overloads earlier + 1 = threshold then some .overloaded else none
  | .success | .serverError | .ignored => none

/-- An exclusion was reported at each outcome where it was due and at no other. -/
def Ruled (threshold : Nat) : List (OutcomeNote α) → Prop
  | [] => True
  | n :: earlier =>
    n.events = Blacklist.report n.id (due threshold earlier n.outcome) ∧ Ruled threshold earlier

theorem overloads_cons (n : OutcomeNote α) (notes : List (OutcomeNote α)) :
    overloads (n :: notes) =
      if n.resets then 0
      else if n.outcome = .overloaded then overloads notes + 1 else overloads notes := by
  unfold overloads
  rw [List.takeWhile_cons]
  cases n.resets with
  | true => rfl
  | false =>
    rw [Bool.not_false, if_pos rfl, if_neg Bool.false_ne_true, List.countP_cons]
    by_cases h : n.outcome = .overloaded <;> simp [h]

/-- Of several exclusions the one that is listed first is the latest. -/
theorem le_of_find? {notes : List (OutcomeNote α)} {n last : OutcomeNote α}
    (hordered : notes.Pairwise fun later earlier => earlier.now ≤ later.now)
    (hmem : n ∈ notes) (htrips : n.trips = true)
    (hlast : notes.find? (·.trips) = some last) : n.now ≤ last.now := by
  obtain ⟨-, later, earlier, rfl, hnone⟩ := List.find?_eq_some_iff_append.mp hlast
  rcases List.mem_append.mp hmem with hlater | hmem
  · have hquiet := hnone n hlater
    rw [htrips] at hquiet
    cases hquiet
  · rcases List.mem_cons.mp hmem with rfl | hearlier
    · exact Nat.le_refl _
    · exact (List.pairwise_cons.mp (List.pairwise_append.mp hordered).2.1).1 n hearlier

end OutcomeNote

/-! ### One host -/

open OutcomeNote in
/-- What a blacklist keeps about a host at some moment agrees with the notes about this host. -/
structure Tells [Scalar α] (config : BlacklistConfig α) (b : Blacklist α) (now : Instant)
    (id : HostId) (notes : List (OutcomeNote α)) : Prop where
  tally : b.tally id = overloads notes
  room : overloads notes < config.overloadThreshold.toNat
  ruled : Ruled config.overloadThreshold.toNat notes
  past : ∀ n ∈ notes, n.now ≤ now
  ordered : notes.Pairwise fun later earlier => earlier.now ≤ later.now
  /-- A host for which no exclusion was reported is not excluded. -/
  unharmed : notes.find? (·.trips) = none → ∀ t, now ≤ t → b.excludes t id = false
  /-- Otherwise the exclusion that was reported last counts. -/
  spell : ∀ last, notes.find? (·.trips) = some last →
    ∃ ends, last.now + config.cooldown ≤ ends ∧ ends ≤ last.now + config.longest ∧
      ∀ t, now ≤ t → b.excludes t id = decide (t < ends)

namespace Tells

open OutcomeNote (overloads overloads_cons due Ruled resets)
open Blacklist (excludes entry? report verdict? tallyAfter)

variable [Scalar α] {config : BlacklistConfig α} {b b' : Blacklist α} {now : Instant}
  {id : HostId} {notes : List (OutcomeNote α)}

/-- Nothing is kept about a host of which there are no notes. -/
theorem of_blank (htally : b.tally id = 0) (hentry : ∀ t, b.entry? t id = none)
    (hthreshold : 0 < config.overloadThreshold.toNat) : Tells config b now id [] where
  tally := htally
  room := hthreshold
  ruled := trivial
  past n hn := by cases hn
  ordered := .nil
  unharmed _ t _ := by rw [excludes, hentry]; rfl
  spell last hlast := by cases hlast

/-- Whatever concerns other hosts only leaves this one alone. -/
theorem agrees (h : Tells config b now id notes) (hagrees : b.Agrees now id b') :
    Tells config b' now id notes where
  tally := by
    rw [Blacklist.tally, hagrees.overloads]
    exact h.tally
  room := h.room
  ruled := h.ruled
  past := h.past
  ordered := h.ordered
  unharmed hnone t ht := by
    rw [excludes, hagrees.entry t ht]
    exact h.unharmed hnone t ht
  spell last hlast := by
    obtain ⟨ends, hleast, hmost, hspell⟩ := h.spell last hlast
    refine ⟨ends, hleast, hmost, fun t ht => ?_⟩
    rw [excludes, hagrees.entry t ht]
    exact hspell t ht

theorem advance (h : Tells config b now id notes) {later : Instant} (hle : now ≤ later) :
    Tells config b later id notes where
  tally := h.tally
  room := h.room
  ruled := h.ruled
  past n hn := Nat.le_trans (h.past n hn) hle
  ordered := h.ordered
  unharmed hnone t ht := h.unharmed hnone t (Nat.le_trans hle ht)
  spell last hlast := by
    obtain ⟨ends, hleast, hmost, hspell⟩ := h.spell last hlast
    exact ⟨ends, hleast, hmost, fun t ht => hspell t (Nat.le_trans hle ht)⟩

/-- The count that the blacklist keeps and the count of the notes lead to the same verdict. -/
theorem verdict?_eq_due (h : Tells config b now id notes) (hconfig : b.config = config)
    (outcome : Outcome) :
    b.verdict? id outcome = due config.overloadThreshold.toNat notes outcome := by
  cases outcome with
  | overloaded =>
    have hroom := h.room
    rw [verdict?, due, hconfig, h.tally]
    by_cases hfull : overloads notes + 1 = config.overloadThreshold.toNat
    · rw [if_pos hfull, if_pos (by omega)]
    · rw [if_neg hfull, if_neg (by omega)]
  | _ => rfl

omit [Scalar α] in
theorem trips_report (reason : Option BlacklistReason) (outcome : Outcome) :
    (OutcomeNote.mk id outcome now (report id reason : List (Event α))).trips = reason.isSome := by
  cases reason <;> rfl

/-- The count after an outcome is what the notes say with this outcome among them. -/
theorem tallyAfter_eq (h : Tells config b now id notes) (outcome : Outcome) :
    b.tallyAfter id outcome =
      overloads (⟨id, outcome, now, report id (b.verdict? id outcome)⟩ :: notes) := by
  rw [overloads_cons]
  cases outcome with
  | overloaded =>
    unfold tallyAfter resets
    dsimp only
    rw [trips_report, h.tally, if_pos rfl]
  | ignored => exact h.tally
  | _ => rfl

/-- The count stays below the number that leads to an exclusion. -/
theorem tallyAfter_lt (h : Tells config b now id notes) (hconfig : b.config = config)
    (outcome : Outcome) : b.tallyAfter id outcome < config.overloadThreshold.toNat := by
  have hroom := h.room
  cases outcome with
  | overloaded =>
    have hverdict : b.verdict? id .overloaded =
        if config.overloadThreshold.toNat ≤ overloads notes + 1 then some .overloaded
        else none := by
      rw [verdict?, hconfig, h.tally]
    have hafter : b.tallyAfter id .overloaded =
        if (b.verdict? id .overloaded).isSome then 0 else overloads notes + 1 := by
      rw [← h.tally]
      rfl
    rw [hafter, hverdict]
    by_cases hfull : config.overloadThreshold.toNat ≤ overloads notes + 1
    · simp only [if_pos hfull, Option.isSome_some, if_true]
      omega
    · simp only [if_neg hfull, Option.isSome_none, Bool.false_eq_true, if_false]
      omega
  | ignored => exact h.tally.trans_lt hroom
  | _ => exact Nat.zero_lt_of_lt hroom

/-- What is learnt from an outcome agrees with the notes when this one is added to them. -/
theorem learn (h : Tells config b now id notes) (hconfig : b.config = config)
    (hdraws : config.DrawsWithin) {outcome : Outcome} {events : List (Event α)}
    (hlearns : b.Learns now id outcome b' events) :
    Tells config b' now id (⟨id, outcome, now, events⟩ :: notes) := by
  have hevents := hlearns.events
  subst hevents
  have htally := h.tallyAfter_eq outcome
  have htrips : (OutcomeNote.mk id outcome now
      (report id (b.verdict? id outcome) : List (Event α))).trips =
        (b.verdict? id outcome).isSome := trips_report _ outcome
  refine ⟨hlearns.tally.trans htally, ?_, ⟨?_, h.ruled⟩, ?_, ?_, fun hnone t ht => ?_,
    fun last hlast => ?_⟩
  · rw [← htally]
    exact h.tallyAfter_lt hconfig outcome
  · rw [h.verdict?_eq_due hconfig]
  · intro n hn
    rcases List.mem_cons.mp hn with rfl | hn
    · exact Nat.le_refl now
    · exact h.past n hn
  · exact List.pairwise_cons.mpr ⟨h.past, h.ordered⟩
  -- Without a reason for an exclusion the one before goes on; otherwise a new one begins now.
  · cases hverdict : b.verdict? id outcome with
    | none =>
      rw [hverdict] at htrips hnone
      rw [List.find?_cons_of_neg (by rw [htrips]; exact Bool.false_ne_true)] at hnone
      rw [excludes, entry?, hlearns.spared hverdict]
      exact h.unharmed hnone t ht
    | some reason =>
      rw [hverdict] at htrips hnone
      rw [List.find?_cons_of_pos htrips] at hnone
      cases hnone
  · cases hverdict : b.verdict? id outcome with
    | none =>
      rw [hverdict] at htrips hlast
      rw [List.find?_cons_of_neg (by rw [htrips]; exact Bool.false_ne_true)] at hlast
      obtain ⟨ends, hleast, hmost, hspell⟩ := h.spell last hlast
      refine ⟨ends, hleast, hmost, fun t ht => ?_⟩
      rw [excludes, entry?, hlearns.spared hverdict]
      exact hspell t ht
    | some reason =>
      rw [hverdict] at htrips hlast
      rw [List.find?_cons_of_pos htrips] at hlast
      cases hlast
      obtain ⟨drawer, hdrawer, hexclusion⟩ := hlearns.excluded reason hverdict
      obtain ⟨hleast, hmost⟩ := hdraws drawer (hdrawer.trans hconfig)
      refine ⟨now + drawer.drawCooldown.1, Nat.add_le_add_left hleast now,
        Nat.add_le_add_left hmost now, fun t _ => ?_⟩
      rw [excludes, entry?, hexclusion, Option.filter_some]
      by_cases hends : t < now + drawer.drawCooldown.1 <;> simp [hends]

end Tells

/-! ### All hosts -/

/-- A blacklist, the time, and a note of every outcome that it has learnt from about the hosts
in use, the latest first. -/
structure Register (α : Type) where
  blacklist : Blacklist α
  now : Instant
  notes : List (OutcomeNote α)

namespace Register

open OutcomeNote (Ruled le_of_find?)

/-- Something that happens to a blacklist whose settings stay as they are. -/
inductive Move where
  | record (id : HostId) (outcome : Outcome)
  /-- These are the hosts in use from now on. -/
  | retain (ids : List HostId)
  | advance (span : Nanos)

/-- The outcome of a host that a move records. -/
def Move.outcome? (id : HostId) : Move → Option Outcome
  | .record other outcome => if other = id then some outcome else none
  | .retain _ | .advance _ => none

/-- A host stays in use. -/
def Move.Keeps (id : HostId) : Move → Prop
  | .retain ids => id ∈ ids
  | .record _ _ | .advance _ => True

/-- The notes about a host. -/
def about (r : Register α) (id : HostId) : List (OutcomeNote α) := r.notes.filter (·.id = id)

variable [Scalar α]

/-- One move. Nothing is learnt from the outcome of a host that is not in use, and the notes
about a host are thrown away when it leaves. -/
def step (r : Register α) : Move → Register α
  | .record id outcome =>
    let (blacklist, events) := r.blacklist.record r.now id outcome
    { r with
      blacklist := blacklist
      notes :=
        if r.blacklist.isMember id then ⟨id, outcome, r.now, events⟩ :: r.notes else r.notes }
  | .retain ids =>
    { r with
      blacklist := r.blacklist.retain r.now ids
      notes := r.notes.filter fun n => ids.contains n.id }
  | .advance span => { r with now := r.now + span }

/-- Moves one after the other. -/
def run (r : Register α) (moves : List Move) : Register α := moves.foldl step r

omit [Scalar α] in
/-- A new blacklist, which has learnt nothing yet. -/
def start (config : BlacklistConfig α) (random : RandomStream) (now : Instant) : Register α :=
  ⟨.new config random, now, []⟩

/-- The blacklist has the settings `config`, and agrees with the notes about every host. -/
structure Sound (config : BlacklistConfig α) (r : Register α) : Prop where
  sorted : r.blacklist.Sorted
  tells : ∀ id, Tells config r.blacklist r.now id (r.about id)
  config : r.blacklist.config = config

variable {config : BlacklistConfig α} {r : Register α}

theorem start_sound (hthreshold : 0 < config.overloadThreshold.toNat) (random : RandomStream)
    (now : Instant) : (start config random now).Sound config where
  sorted := Blacklist.new_sorted config random
  tells _ := .of_blank rfl (fun _ => rfl) hthreshold
  config := rfl

omit [Scalar α] in
theorem about_cons_self {b : Blacklist α} {now : Instant} {n : OutcomeNote α}
    (notes : List (OutcomeNote α)) {id : HostId} (h : n.id = id) :
    (Register.mk b now (n :: notes)).about id = n :: notes.filter (·.id = id) :=
  List.filter_cons_of_pos (decide_eq_true h)

omit [Scalar α] in
theorem about_cons_of_ne {b : Blacklist α} {now : Instant} {n : OutcomeNote α}
    {notes : List (OutcomeNote α)} {id : HostId} (h : n.id ≠ id) :
    (Register.mk b now (n :: notes)).about id = notes.filter (·.id = id) :=
  List.filter_cons_of_neg (by simp [h])

theorem step_record_of_notMember {id : HostId} (h : r.blacklist.isMember id = false)
    (outcome : Outcome) : r.step (.record id outcome) = r := by
  simp [step, Blacklist.record, h]

theorem step_record_of_member {id : HostId} (h : r.blacklist.isMember id = true)
    (outcome : Outcome) :
    r.step (.record id outcome) =
      { r with
        blacklist := (r.blacklist.record r.now id outcome).1
        notes := ⟨id, outcome, r.now, (r.blacklist.record r.now id outcome).2⟩ :: r.notes } := by
  simp [step, h]

theorem Sound.record (h : r.Sound config) (hdraws : config.DrawsWithin) (id : HostId)
    (outcome : Outcome) : (r.step (.record id outcome)).Sound config := by
  cases hmember : r.blacklist.isMember id with
  | false =>
    rw [step_record_of_notMember hmember]
    exact h
  | true =>
    have hlearns := Blacklist.record_learns hmember r.now outcome
    rw [step_record_of_member hmember]
    refine ⟨h.sorted.record r.now id outcome, fun other => ?_, hlearns.config.trans h.config⟩
    by_cases hother : other = id
    · subst hother
      rw [about_cons_self r.notes rfl]
      exact (h.tells other).learn h.config hdraws hlearns
    · rw [about_cons_of_ne (Ne.symm hother)]
      exact (h.tells other).agrees (hlearns.others other hother)

/-- A host that stays keeps its notes, and one that leaves loses them. -/
theorem about_retain (r : Register α) (ids : List HostId) (id : HostId) :
    (r.step (.retain ids)).about id = if id ∈ ids then r.about id else [] := by
  show (r.notes.filter fun n => ids.contains n.id).filter (·.id = id) = _
  rw [List.filter_filter]
  by_cases hid : id ∈ ids
  · rw [if_pos hid]
    refine List.filter_congr fun n _ => ?_
    by_cases hn : n.id = id <;> simp [hn, hid]
  · rw [if_neg hid, List.filter_eq_nil_iff]
    intro n _
    by_cases hn : n.id = id <;> simp [hn, hid]

theorem Sound.retain (h : r.Sound config) (ids : List HostId) :
    (r.step (.retain ids)).Sound config := by
  refine ⟨h.sorted.retain r.now ids, fun id => ?_, h.config⟩
  rw [about_retain]
  by_cases hid : id ∈ ids
  · rw [if_pos hid]
    exact (h.tells id).agrees (h.sorted.retain_agrees r.now hid)
  · obtain ⟨htally, hentry⟩ := h.sorted.retain_forgets r.now hid
    rw [if_neg hid]
    exact .of_blank htally hentry (Nat.zero_lt_of_lt (h.tells id).room)

theorem Sound.step (h : r.Sound config) (hdraws : config.DrawsWithin) (m : Move) :
    (r.step m).Sound config := by
  cases m with
  | record id outcome => exact h.record hdraws id outcome
  | retain ids => exact h.retain ids
  | advance span =>
    exact ⟨h.sorted, fun id => (h.tells id).advance (Nat.le_add_right r.now span), h.config⟩

theorem Sound.run (h : r.Sound config) (hdraws : config.DrawsWithin) (moves : List Move) :
    (r.run moves).Sound config := by
  induction moves generalizing r with
  | nil => exact h
  | cons m moves ih => exact ih (h.step hdraws m)

/-! ### Every outcome counts -/

/-- Whoever is in use and is kept stays in use. -/
theorem isMember_step {id : HostId} (hmember : r.blacklist.isMember id = true) {m : Move}
    (hkeeps : m.Keeps id) : (r.step m).blacklist.isMember id = true := by
  cases m with
  | record other outcome =>
    cases hother : r.blacklist.isMember other with
    | false =>
      rw [step_record_of_notMember hother]
      exact hmember
    | true =>
      have hmembers := (Blacklist.record_learns hother r.now outcome).members
      show (r.blacklist.record r.now other outcome).1.isMember id = true
      rw [Blacklist.isMember, hmembers]
      exact hmember
  | retain ids => exact List.contains_iff_mem.mpr hkeeps
  | advance span => exact hmember

theorem outcomes_step {id : HostId} (hmember : r.blacklist.isMember id = true) {m : Move}
    (hkeeps : m.Keeps id) :
    ((r.step m).about id).map (·.outcome) =
      (m.outcome? id).toList ++ (r.about id).map (·.outcome) := by
  cases m with
  | record other outcome =>
    by_cases hother : other = id
    · subst hother
      rw [step_record_of_member hmember, about_cons_self r.notes rfl, Move.outcome?, if_pos rfl]
      rfl
    · rw [Move.outcome?, if_neg hother]
      cases hused : r.blacklist.isMember other with
      | false =>
        rw [step_record_of_notMember hused]
        rfl
      | true =>
        rw [step_record_of_member hused, about_cons_of_ne hother]
        rfl
  | retain ids =>
    have hid : id ∈ ids := hkeeps
    rw [about_retain, if_pos hid]
    rfl
  | advance span => rfl

/-- As long as a host is kept in use, there is a note of each of its outcomes. -/
theorem outcomes_run {id : HostId} {moves : List Move}
    (hmember : r.blacklist.isMember id = true) (hkeeps : ∀ m ∈ moves, m.Keeps id) :
    ((r.run moves).about id).map (·.outcome) =
      (moves.filterMap (·.outcome? id)).reverse ++ (r.about id).map (·.outcome) := by
  induction moves generalizing r with
  | nil => rfl
  | cons m moves ih =>
    obtain ⟨hfirst, hrest⟩ := List.forall_mem_cons.mp hkeeps
    show (((r.step m).run moves).about id).map (·.outcome) = _
    rw [ih (isMember_step hmember hfirst) hrest, outcomes_step hmember hfirst,
      List.filterMap_cons]
    cases m.outcome? id <;> simp

/-! ### When a host is excluded -/

/-- What is promised about the exclusion of a host. -/
structure Upholds (config : BlacklistConfig α) (r : Register α) (id : HostId) : Prop where
  /-- An exclusion was reported at each outcome where it was due and at no other. -/
  ruled : Ruled config.overloadThreshold.toNat (r.about id)
  /-- From then on the host is excluded for the cooldown at least. -/
  excluded : ∀ n ∈ r.about id, n.trips = true →
    ∀ t, r.now ≤ t → t < n.now + config.cooldown → r.blacklist.excludes t id = true
  /-- A host is not excluded for longer than the longest cooldown after the last time. -/
  free : ∀ t, r.now ≤ t →
    (∀ last ∈ (r.about id).find? (·.trips), last.now + config.longest ≤ t) →
    r.blacklist.excludes t id = false

theorem Sound.upholds (h : r.Sound config) (id : HostId) : r.Upholds config id := by
  have htells := h.tells id
  refine ⟨htells.ruled, fun n hn htrips t ht hbefore => ?_, fun t ht hafter => ?_⟩
  · cases hlast : (r.about id).find? (·.trips) with
    | none =>
      have hquiet := List.find?_eq_none.mp hlast n hn
      exact absurd htrips hquiet
    | some last =>
      obtain ⟨ends, hleast, -, hspell⟩ := htells.spell last hlast
      have hle : n.now ≤ last.now := le_of_find? htells.ordered hn htrips hlast
      have hends : t < ends := calc
        t < n.now + config.cooldown := hbefore
        _ ≤ last.now + config.cooldown := Nat.add_le_add_right hle _
        _ ≤ ends := hleast
      rw [hspell t ht]
      exact decide_eq_true hends
  · cases hlast : (r.about id).find? (·.trips) with
    | none => exact htells.unharmed hlast t ht
    | some last =>
      obtain ⟨ends, -, hmost, hspell⟩ := htells.spell last hlast
      have hover := hafter last hlast
      rw [hspell t ht]
      exact decide_eq_false (Nat.not_lt.mpr (Nat.le_trans hmost hover))

/-- Whatever happens to other hosts and whenever the hosts in use are set: a host is excluded at
each failure and at each overload that makes the number full, for a cooldown within its bounds.
As long as it stays in use, none of its outcomes is forgotten. -/
theorem run_upholds_exclusions {config : BlacklistConfig α} (hconfig : config.validate = .ok ())
    (hdraws : config.DrawsWithin) (random : RandomStream) (now : Instant) (moves : List Move)
    (id : HostId) :
    ((start config random now).run moves).Upholds config id ∧
      ((∀ m ∈ moves, m.Keeps id) →
        (((start config random now).run moves).about id).map (·.outcome) =
          (moves.filterMap (·.outcome? id)).reverse) := by
  have hthreshold := BlacklistConfig.threshold_pos (BlacklistConfig.validate_eq_ok.mp hconfig).2.2
  refine ⟨((start_sound hthreshold random now).run hdraws moves).upholds id, fun hkeeps => ?_⟩
  rw [outcomes_run rfl hkeeps]
  exact List.append_nil _

/-- Settings under which two overloads in a row exclude a host for two seconds at least. -/
def strict : BlacklistConfig Rat := { BlacklistConfig.standard with overloadThreshold := 2 }

/-- Draws that are close to three quarters. -/
def steady : RandomStream := ⟨fun _ => 0xC0000000, 0⟩

/-- Two hosts are overloaded in turn. In between the first one serves a call, the second one
fails, and an outcome says nothing. -/
def overloadedTwice : List Move :=
  [.record ⟨"a"⟩ .overloaded, .record ⟨"b"⟩ .overloaded, .record ⟨"a"⟩ .success,
    .record ⟨"b"⟩ .hostFailure, .record ⟨"a"⟩ .overloaded, .retain [⟨"a"⟩, ⟨"b"⟩],
    .advance (.seconds 1), .record ⟨"a"⟩ .ignored, .record ⟨"a"⟩ .overloaded]

theorem run_upholds_exclusions_overloadedTwice :
    ∃ r : Register Rat, r = (start strict steady 0).run overloadedTwice ∧
      r.Upholds strict ⟨"a"⟩ ∧
      (r.about ⟨"a"⟩).map (fun n => (n.outcome, n.now, n.trips)) =
        [(.overloaded, Nanos.seconds 1, true), (.ignored, Nanos.seconds 1, false),
          (.overloaded, 0, false), (.success, 0, false), (.overloaded, 0, false)] ∧
      r.blacklist.excludes (Nanos.millis 3749) ⟨"a"⟩ = true ∧
      r.blacklist.excludes (Nanos.millis 3750) ⟨"a"⟩ = false := by
  have hconfig : strict.validate = .ok () := eq_ok_of_isOk (by decide +kernel)
  have hupholds := run_upholds_exclusions hconfig
    (BlacklistConfig.drawsWithin_of_validate hconfig) steady 0 overloadedTwice ⟨"a"⟩
  exact ⟨_, rfl, hupholds.1, by decide +kernel, by decide +kernel, by decide +kernel⟩

end Register

end RpcPipeline
