import RpcPipeline.Proofs.Hosts.Outcomes

/-!
# `RpcPipeline.Proofs.Hosts.Membership`: only hosts in use are kept track of

Once the hosts in use are known, a blacklist keeps nothing about any other host, whatever is
recorded or asked of it: calls that outlive their host still report how they went. A host
that stays in use does not notice when the hosts in use are set, although exclusions that are
over are thrown away then. A host that comes back starts afresh.

A `Roster` is a blacklist together with the time, and `Roster.run` does to it whatever may be
done, in any order.

* `Blacklist.Confined`: nothing is kept about hosts that are not in use.
* `Blacklist.Alike`: two blacklists that cannot be told apart by asking about some hosts.
* `Roster.confined_run`, `Roster.Alike.run`: both are kept by whatever is done.
* `Roster.run_membership`: what the hosts in use are good for, in every run
  (`Roster.Membership`).
-/

set_option autoImplicit false

namespace RpcPipeline

variable {α : Type}

namespace Blacklist

variable {b b' : Blacklist α} {now : Instant} {id other : HostId}

/-! ### Hosts that are not in use -/

/-- Nothing is kept about hosts that are not in use. -/
structure Confined (b : Blacklist α) : Prop where
  sorted : b.Sorted
  blank : ∀ id, b.isMember id = false → b.Blank id

namespace Confined

theorem new (config : BlacklistConfig α) (random : RandomStream) : (new config random).Confined :=
  ⟨new_sorted config random, fun _ _ => ⟨rfl, rfl⟩⟩

theorem configure (h : b.Confined) (config : BlacklistConfig α) : (b.configure config).Confined :=
  ⟨h.sorted.configure config, h.blank⟩

theorem clear (b : Blacklist α) : b.clear.Confined :=
  ⟨b.clear_sorted, fun _ _ => ⟨rfl, rfl⟩⟩

theorem retain (h : b.Confined) (now : Instant) (ids : List HostId) :
    (b.retain now ids).Confined := by
  refine ⟨h.sorted.retain now ids, fun id hnot => h.sorted.blank_retain now (.inl ?_)⟩
  have hcontains : ids.contains id = false := hnot
  simpa using hcontains

variable [Scalar α]

theorem exclude (h : b.Confined) (now : Instant) (id : HostId) (reason : BlacklistReason) :
    (b.exclude now id reason).2.1.Confined := by
  have hsorted := h.sorted.exclude now id reason
  obtain ⟨-, hmembers, hexclusions, hoverloads⟩ := b.drawCooldown_keeps
  cases hmember : b.isMember id with
  | false =>
    rw [exclude_of_not_member hmember] at hsorted ⊢
    refine ⟨hsorted, fun other hother => ?_⟩
    rw [isMember, hmembers] at hother
    rw [Blank, hexclusions, hoverloads]
    exact h.blank other hother
  | true =>
    rw [exclude_of_member hmember] at hsorted ⊢
    refine ⟨hsorted, fun other hother => ?_⟩
    have hother' : b.isMember other = false := by
      rw [isMember, ← hmembers]
      exact hother
    -- The host that is excluded is in use, so this is another one.
    have hne : other ≠ id := by
      rintro rfl
      rw [hmember] at hother'
      cases hother'
    obtain ⟨hnone, hzero⟩ := h.blank other hother'
    refine ⟨?_, ?_⟩
    · show (b.exclusions.insert id _).get? other = none
      rw [Table.get?_insert, if_neg hne]
      exact hnone
    · show b.drawCooldown.2.overloads.get? other = none
      rw [hoverloads]
      exact hzero

omit [Scalar α] in
theorem recount (h : b.Confined) (hmember : b.isMember id = true) (outcome : Outcome) :
    Confined { b with overloads := b.recount id outcome } := by
  refine ⟨h.sorted.recount id outcome, fun other hother => ?_⟩
  have hother' : b.isMember other = false := hother
  have hne : other ≠ id := by
    rintro rfl
    rw [hmember] at hother'
    cases hother'
  obtain ⟨hnone, hzero⟩ := h.blank other hother'
  exact ⟨hnone, (b.get?_recount_of_ne hne outcome).trans hzero⟩

theorem record (h : b.Confined) (now : Instant) (id : HostId) (outcome : Outcome) :
    (b.record now id outcome).1.Confined := by
  cases hmember : b.isMember id with
  | false =>
    rw [record_of_not_member hmember]
    exact h
  | true =>
    have hrecount := h.recount hmember outcome
    rw [record_eq hmember]
    cases b.verdict? id outcome with
    | none => exact hrecount
    | some reason => exact hrecount.exclude now id reason

end Confined

/-! ### Hosts that stay in use -/

theorem Agrees.symm (h : b.Agrees now id b') : b'.Agrees now id b :=
  ⟨fun t ht => (h.entry t ht).symm, h.overloads.symm⟩

theorem Agrees.later (h : b.Agrees now id b') {later : Instant} (hle : now ≤ later) :
    b.Agrees later id b' :=
  ⟨fun t ht => h.entry t (Nat.le_trans hle ht), h.overloads⟩

theorem Agrees.tally (h : b.Agrees now id b') : b'.tally id = b.tally id := by
  rw [Blacklist.tally, h.overloads]
  rfl

/-- From a moment on, two blacklists cannot be told apart by asking about some hosts. -/
structure Alike (S : HostId → Prop) (now : Instant) (b b' : Blacklist α) : Prop where
  sorted : b.Sorted ∧ b'.Sorted
  config : b'.config = b.config
  random : b'.random = b.random
  member : ∀ id, S id → b'.isMember id = b.isMember id
  agrees : ∀ id, S id → b.Agrees now id b'

/-- Hosts that stay in use do not notice when the hosts in use are set. -/
theorem Sorted.retain_alike (h : b.Sorted) (now : Instant) (ids : List HostId) :
    Alike (fun id => id ∈ ids ∧ b.isMember id = true) now b (b.retain now ids) where
  sorted := ⟨h, h.retain now ids⟩
  config := rfl
  random := rfl
  member id hid := by
    rw [hid.2]
    show ids.contains id = true
    simpa using hid.1
  agrees id hid := h.retain_agrees now hid.1

namespace Alike

variable {S : HostId → Prop}

theorem configure (h : Alike S now b b') (config : BlacklistConfig α) :
    Alike S now (b.configure config) (b'.configure config) where
  sorted := ⟨h.sorted.1.configure config, h.sorted.2.configure config⟩
  config := rfl
  random := h.random
  member := h.member
  agrees id hid := ⟨(h.agrees id hid).entry, (h.agrees id hid).overloads⟩

theorem clear (h : Alike S now b b') : Alike S now b.clear b'.clear where
  sorted := ⟨b.clear_sorted, b'.clear_sorted⟩
  config := h.config
  random := h.random
  member := h.member
  agrees _ _ := ⟨fun _ _ => rfl, rfl⟩

theorem later (h : Alike S now b b') {t : Instant} (hle : now ≤ t) : Alike S t b b' :=
  { h with agrees := fun id hid => (h.agrees id hid).later hle }

theorem retain (h : Alike S now b b') (ids : List HostId) :
    Alike S now (b.retain now ids) (b'.retain now ids) where
  sorted := ⟨h.sorted.1.retain now ids, h.sorted.2.retain now ids⟩
  config := h.config
  random := h.random
  member _ _ := rfl
  agrees id hid := by
    by_cases hin : id ∈ ids
    · have hleft := (h.sorted.1.retain_agrees now hin).symm
      have hright := h.sorted.2.retain_agrees now hin
      exact (hleft.trans (h.agrees id hid)).trans hright
    · -- Both forget a host that leaves.
      obtain ⟨hnone, hzero⟩ := h.sorted.1.blank_retain now (.inl hin)
      obtain ⟨hnone', hzero'⟩ := h.sorted.2.blank_retain now (.inl hin)
      exact ⟨fun t _ => entry_of_get?_eq (hnone'.trans hnone.symm) t, hzero'.trans hzero.symm⟩

variable [Scalar α]

/-- The same draws come out of both. -/
theorem drawCooldown (h : Alike S now b b') :
    b'.drawCooldown.1 = b.drawCooldown.1 ∧
      b'.drawCooldown.2.random = b.drawCooldown.2.random := by
  unfold Blacklist.drawCooldown
  rw [h.config, h.random]
  split
  · exact ⟨rfl, rfl⟩
  · exact ⟨rfl, h.random⟩

theorem exclude (h : Alike S now b b') (hid : S id) (reason : BlacklistReason) :
    (b'.exclude now id reason).1 = (b.exclude now id reason).1 ∧
      (b'.exclude now id reason).2.2 = (b.exclude now id reason).2.2 ∧
        Alike S now (b.exclude now id reason).2.1 (b'.exclude now id reason).2.1 := by
  have hsorted := h.sorted.1.exclude now id reason
  have hsorted' := h.sorted.2.exclude now id reason
  obtain ⟨hdraw, hrandom⟩ := h.drawCooldown
  obtain ⟨hconfig₁, hmembers₁, hexclusions₁, hoverloads₁⟩ := b.drawCooldown_keeps
  obtain ⟨hconfig₂, hmembers₂, hexclusions₂, hoverloads₂⟩ := b'.drawCooldown_keeps
  have hconfig : b'.drawCooldown.2.config = b.drawCooldown.2.config := by
    rw [hconfig₁, hconfig₂, h.config]
  have hmember : ∀ other, S other →
      b'.drawCooldown.2.isMember other = b.drawCooldown.2.isMember other := by
    intro other hother
    rw [isMember, isMember, hmembers₁, hmembers₂]
    exact h.member other hother
  have hoverloads : ∀ other, S other → b'.drawCooldown.2.overloads.get? other =
      b.drawCooldown.2.overloads.get? other := by
    intro other hother
    rw [hoverloads₁, hoverloads₂]
    exact (h.agrees other hother).overloads
  -- Both have drawn the same cooldown, so a host in use is excluded until the same moment.
  cases hin : b.isMember id with
  | false =>
    have hin' : b'.isMember id = false := (h.member id hid).trans hin
    rw [exclude_of_not_member hin] at hsorted ⊢
    rw [exclude_of_not_member hin'] at hsorted' ⊢
    refine ⟨rfl, rfl, ⟨hsorted, hsorted'⟩, hconfig, hrandom, hmember, fun other hother => ?_⟩
    refine ⟨fun t ht => ?_, hoverloads other hother⟩
    have hleft := entry_of_get?_eq (congrArg (·.get? other) hexclusions₁) t
    have hright := entry_of_get?_eq (congrArg (·.get? other) hexclusions₂) t
    exact (hright.trans ((h.agrees other hother).entry t ht)).trans hleft.symm
  | true =>
    have hin' : b'.isMember id = true := (h.member id hid).trans hin
    rw [exclude_of_member hin] at hsorted ⊢
    rw [exclude_of_member hin'] at hsorted' ⊢
    rw [hdraw] at hsorted' ⊢
    refine ⟨rfl, rfl, ⟨hsorted, hsorted'⟩, hconfig, hrandom, hmember, fun other hother => ?_⟩
    refine ⟨fun t ht => ?_, hoverloads other hother⟩
    unfold entry?
    dsimp only
    rw [Table.get?_insert, Table.get?_insert]
    by_cases hother' : other = id
    · rw [if_pos hother', if_pos hother']
    · rw [if_neg hother', if_neg hother']
      exact (h.agrees other hother).entry t ht

omit [Scalar α] in
theorem verdict? (h : Alike S now b b') (hid : S id) (outcome : Outcome) :
    b'.verdict? id outcome = b.verdict? id outcome := by
  cases outcome with
  | overloaded => rw [Blacklist.verdict?, Blacklist.verdict?, h.config, (h.agrees id hid).tally]
  | _ => rfl

omit [Scalar α] in
theorem recount (h : Alike S now b b') (hid : S id) (outcome : Outcome) :
    Alike S now { b with overloads := b.recount id outcome }
      { b' with overloads := b'.recount id outcome } where
  sorted := ⟨h.sorted.1.recount id outcome, h.sorted.2.recount id outcome⟩
  config := h.config
  random := h.random
  member := h.member
  agrees other hother := by
    refine ⟨(h.agrees other hother).entry, ?_⟩
    show (b'.recount id outcome).get? other = (b.recount id outcome).get? other
    by_cases hne : other = id
    · subst hne
      -- Both go on from the same count, and so they come to the same verdict.
      have htally : b'.tallyAfter other .overloaded = b.tallyAfter other .overloaded := by
        rw [tallyAfter, tallyAfter, h.verdict? hid, (h.agrees other hid).tally]
      cases outcome with
      | overloaded => simp [Blacklist.recount, htally]
      | ignored => exact (h.agrees other hid).overloads
      | success => simp [Blacklist.recount]
      | serverError => simp [Blacklist.recount]
      | hostFailure => simp [Blacklist.recount]
    · rw [get?_recount_of_ne b' hne, get?_recount_of_ne b hne]
      exact (h.agrees other hother).overloads

theorem record (h : Alike S now b b') (hid : S id) (outcome : Outcome) :
    (b'.record now id outcome).2 = (b.record now id outcome).2 ∧
      Alike S now (b.record now id outcome).1 (b'.record now id outcome).1 := by
  cases hin : b.isMember id with
  | false =>
    have hin' : b'.isMember id = false := (h.member id hid).trans hin
    rw [record_of_not_member hin, record_of_not_member hin']
    exact ⟨rfl, h⟩
  | true =>
    have hin' : b'.isMember id = true := (h.member id hid).trans hin
    have hrecount := h.recount hid outcome
    rw [record_eq hin, record_eq hin', h.verdict? hid]
    cases b.verdict? id outcome with
    | none => exact ⟨rfl, hrecount⟩
    | some reason =>
      obtain ⟨-, hevents, halike⟩ := hrecount.exclude hid reason
      exact ⟨hevents, halike⟩

end Alike

/-- Only those that leave count no longer: if every host that is excluded stays, the number of
hosts that are excluded stays the same. -/
theorem Sorted.count_retain (h : b.Sorted) {ids : List HostId} {t : Instant} (hle : now ≤ t)
    (hstay : ∀ id, b.excludes t id = true → id ∈ ids) :
    (b.retain now ids).count t = b.count t := by
  show ((b.exclusions.entries.filter _).filter _).length = (b.exclusions.entries.filter _).length
  rw [List.filter_filter]
  refine congrArg List.length (List.filter_congr fun entry hentry => ?_)
  obtain ⟨id, e⟩ := entry
  by_cases hends : t < e.ends
  · have hnow : now < e.ends := Nat.lt_of_le_of_lt hle hends
    have hget : b.exclusions.get? id = some e :=
      Table.find?_of_mem h.exclusions.keys_nodup hentry
    have hexcluded : b.excludes t id = true := by simp [excludes, entry?, hget, hends]
    simp [hends, hnow, hstay id hexcluded]
  · simp [hends]

end Blacklist

/-! ### Everything that may be done -/

/-- A blacklist and the time. -/
structure Roster (α : Type) where
  blacklist : Blacklist α
  now : Instant

namespace Roster

/-- Something that is done to a blacklist, or the passage of time. -/
inductive Move (α : Type) where
  | record (id : HostId) (outcome : Outcome)
  | exclude (id : HostId) (reason : BlacklistReason)
  | configure (config : BlacklistConfig α)
  | clear
  /-- These are the hosts in use from now on. -/
  | retain (ids : List HostId)
  | advance (span : Nanos)

/-- The hosts in use, if a move sets them. -/
def Move.inUse? : Move α → Option (List HostId)
  | .retain ids => some ids
  | .record _ _ | .exclude _ _ | .configure _ | .clear | .advance _ => none

/-- A move that names a host names one of some hosts. -/
def Move.Names (S : HostId → Prop) : Move α → Prop
  | .record id _ | .exclude id _ => S id
  | .configure _ | .clear | .retain _ | .advance _ => True

/-- What a move gives back. -/
structure Answer (α : Type) where
  /-- When the exclusion ends that was asked for. -/
  ends : Option Instant
  events : List (Event α)

/-- Nothing was excluded, and nothing is reported. -/
def Answer.silent : Answer α := ⟨none, []⟩

/-- The hosts in use after some moves, as they were set last. -/
def inUse (moves : List (Move α)) : Option (List HostId) := (moves.filterMap (·.inUse?)).getLast?

/-- A new blacklist. -/
def start (config : BlacklistConfig α) (random : RandomStream) (now : Instant) : Roster α :=
  ⟨.new config random, now⟩

variable [Scalar α]

/-- One move. -/
def step (r : Roster α) : Move α → Answer α × Roster α
  | .record id outcome =>
    let (blacklist, events) := r.blacklist.record r.now id outcome
    (⟨none, events⟩, { r with blacklist := blacklist })
  | .exclude id reason =>
    let (ends, blacklist, events) := r.blacklist.exclude r.now id reason
    (⟨ends, events⟩, { r with blacklist := blacklist })
  | .configure config => (.silent, { r with blacklist := r.blacklist.configure config })
  | .clear => (.silent, { r with blacklist := r.blacklist.clear })
  | .retain ids => (.silent, { r with blacklist := r.blacklist.retain r.now ids })
  | .advance span => (.silent, { r with now := r.now + span })

/-- Moves one after the other. -/
def run (r : Roster α) (moves : List (Move α)) : Roster α :=
  moves.foldl (fun r m => (r.step m).2) r

/-- What the moves of a run give back. -/
def answers (r : Roster α) : List (Move α) → List (Answer α)
  | [] => []
  | m :: moves => (r.step m).1 :: (r.step m).2.answers moves

variable {r r' : Roster α}

/-! ### The hosts in use -/

theorem members_step (r : Roster α) (m : Move α) :
    (r.step m).2.blacklist.members = m.inUse?.or r.blacklist.members := by
  cases m with
  | record id outcome =>
    show (r.blacklist.record r.now id outcome).1.members = r.blacklist.members
    cases hmember : r.blacklist.isMember id with
    | false => rw [Blacklist.record_of_not_member hmember]
    | true => exact (Blacklist.record_learns hmember r.now outcome).members
  | exclude id reason =>
    show (r.blacklist.exclude r.now id reason).2.1.members = r.blacklist.members
    have hdraw := r.blacklist.drawCooldown_keeps.2.1
    cases hmember : r.blacklist.isMember id with
    | false => rw [Blacklist.exclude_of_not_member hmember, hdraw]
    | true => rw [Blacklist.exclude_of_member hmember, hdraw]
  | configure config => rfl
  | clear => rfl
  | retain ids => rfl
  | advance span => rfl

/-- A blacklist goes by the hosts in use as they were set last. -/
theorem members_run (r : Roster α) (moves : List (Move α)) :
    (r.run moves).blacklist.members = (inUse moves).or r.blacklist.members := by
  induction moves generalizing r with
  | nil => rfl
  | cons m moves ih =>
    have hcons : inUse (m :: moves) = (inUse moves).or m.inUse? := by
      rw [inUse, List.filterMap_cons]
      cases m.inUse? with
      | none => exact Option.or_none.symm
      | some ids =>
        show (ids :: moves.filterMap (·.inUse?)).getLast? = _
        rw [List.getLast?_cons, inUse]
        cases (moves.filterMap (·.inUse?)).getLast? <;> rfl
    calc (r.run (m :: moves)).blacklist.members
      _ = (inUse moves).or (r.step m).2.blacklist.members := ih (r.step m).2
      _ = (inUse moves).or (m.inUse?.or r.blacklist.members) := by rw [members_step]
      _ = (inUse (m :: moves)).or r.blacklist.members := by rw [hcons, Option.or_assoc]

/-! ### What every move keeps -/

theorem confined_step (h : r.blacklist.Confined) (m : Move α) :
    (r.step m).2.blacklist.Confined := by
  cases m with
  | record id outcome => exact h.record r.now id outcome
  | exclude id reason => exact h.exclude r.now id reason
  | configure config => exact h.configure config
  | clear => exact .clear r.blacklist
  | retain ids => exact h.retain r.now ids
  | advance span => exact h

theorem confined_run (h : r.blacklist.Confined) (moves : List (Move α)) :
    (r.run moves).blacklist.Confined := by
  induction moves generalizing r with
  | nil => exact h
  | cons m moves ih => exact ih (confined_step h m)

/-- At the same time, two blacklists cannot be told apart by asking about some hosts. -/
structure Alike (S : HostId → Prop) (r r' : Roster α) : Prop where
  now : r'.now = r.now
  blacklist : r.blacklist.Alike S r.now r'.blacklist

namespace Alike

variable {S : HostId → Prop}

/-- They give the same answer to whatever is done, as long as it concerns these hosts. -/
theorem step (h : Alike S r r') {m : Move α} (hnames : m.Names S) :
    (r'.step m).1 = (r.step m).1 ∧ Alike S (r.step m).2 (r'.step m).2 := by
  -- The time is the same, so it can be written as one.
  obtain ⟨b, now⟩ := r
  obtain ⟨b', now'⟩ := r'
  obtain ⟨hnow, hb⟩ := h
  dsimp only at hnow hb
  subst hnow
  cases m with
  | record id outcome =>
    obtain ⟨hevents, halike⟩ := hb.record hnames outcome
    exact ⟨congrArg (Answer.mk none) hevents, rfl, halike⟩
  | exclude id reason =>
    obtain ⟨hends, hevents, halike⟩ := hb.exclude hnames reason
    exact ⟨congrArg₂ Answer.mk hends hevents, rfl, halike⟩
  | configure config => exact ⟨rfl, rfl, hb.configure config⟩
  | clear => exact ⟨rfl, rfl, hb.clear⟩
  | retain ids => exact ⟨rfl, rfl, hb.retain ids⟩
  | advance span => exact ⟨rfl, rfl, hb.later (Nat.le_add_right _ span)⟩

theorem run (h : Alike S r r') {moves : List (Move α)} (hnames : ∀ m ∈ moves, m.Names S) :
    r'.answers moves = r.answers moves ∧ Alike S (r.run moves) (r'.run moves) := by
  induction moves generalizing r r' with
  | nil => exact ⟨rfl, h⟩
  | cons m moves ih =>
    obtain ⟨hfirst, hrest⟩ := List.forall_mem_cons.mp hnames
    obtain ⟨hanswer, halike⟩ := h.step hfirst
    obtain ⟨hanswers, hend⟩ := ih halike hrest
    exact ⟨congrArg₂ List.cons hanswer hanswers, hend⟩

end Alike

/-! ### What the hosts in use are good for -/

/-- A host stays in use when the hosts in use are set. -/
def Stays (r : Roster α) (ids : List HostId) (id : HostId) : Prop :=
  id ∈ ids ∧ r.blacklist.isMember id = true

/-- What is promised about the hosts in use, if they are `known`. -/
structure Membership (known : Option (List HostId)) (r : Roster α) : Prop where
  /-- Nothing is kept about any other host. -/
  absent : ∀ ids ∈ known, ∀ id, id ∉ ids → r.blacklist.Blank id
  /-- What is recorded about another host changes nothing at all. -/
  ignored : ∀ ids ∈ known, ∀ id, id ∉ ids →
    ∀ outcome, r.step (.record id outcome) = (.silent, r)
  /-- Another host is not excluded, and nothing is reported. Only a draw is made. -/
  refused : ∀ ids ∈ known, ∀ id, id ∉ ids → ∀ reason, ∃ random : RandomStream,
    r.step (.exclude id reason) =
      (.silent, { r with blacklist := { r.blacklist with random := random } })
  /-- A host that comes back starts afresh. -/
  readmitted : ∀ ids ∈ known, ∀ id, id ∉ ids → ∀ more, id ∈ more →
    (r.step (.retain more)).2.blacklist.isMember id = true ∧
      (r.step (.retain more)).2.blacklist.Blank id
  /-- Setting the hosts in use is not reported. -/
  quiet : ∀ ids, (r.step (.retain ids)).1 = .silent
  /-- The hosts that stay do not notice it: not from what is kept about them at any later time,
  and not from the answers to whatever is done with them afterwards. -/
  unnoticed : ∀ ids moves, (∀ m ∈ moves, m.Names (r.Stays ids)) →
    (r.step (.retain ids)).2.answers moves = r.answers moves ∧
      Alike (r.Stays ids) (r.run moves) ((r.step (.retain ids)).2.run moves)
  /-- If all that are excluded stay, as many are excluded afterwards. -/
  counted : ∀ ids t, r.now ≤ t → (∀ id, r.blacklist.excludes t id = true → id ∈ ids) →
    (r.step (.retain ids)).2.blacklist.count t = r.blacklist.count t

theorem Membership.of_confined {known : Option (List HostId)} (h : r.blacklist.Confined)
    (hknown : r.blacklist.members = known) : Membership known r := by
  have hnot : ∀ ids ∈ known, ∀ id, id ∉ ids → r.blacklist.isMember id = false := by
    intro ids hids id hid
    rw [Blacklist.isMember, hknown, Option.mem_def.mp hids]
    simpa using hid
  have hretain : ∀ ids, Alike (r.Stays ids) r (r.step (.retain ids)).2 := fun ids =>
    ⟨rfl, h.sorted.retain_alike r.now ids⟩
  refine ⟨fun ids hids id hid => h.blank id (hnot ids hids id hid),
    fun ids hids id hid outcome => ?_, fun ids hids id hid reason => ?_,
    fun ids hids id hid more hmore => ⟨?_, ?_⟩, fun ids => rfl,
    fun ids moves hnames => (hretain ids).run hnames,
    fun ids t ht hstay => h.sorted.count_retain ht hstay⟩
  · rw [step, Blacklist.record_of_not_member (hnot ids hids id hid)]
    rfl
  · refine ⟨r.blacklist.drawCooldown.2.random, ?_⟩
    rw [step, Blacklist.exclude_of_not_member (hnot ids hids id hid)]
    -- Whatever the draw was, it left everything else in its place.
    obtain ⟨hconfig, hmembers, hexclusions, hoverloads⟩ := r.blacklist.drawCooldown_keeps
    generalize r.blacklist.drawCooldown.2 = drawn at *
    obtain ⟨config, exclusions, overloads, members, random⟩ := drawn
    dsimp only at hconfig hmembers hexclusions hoverloads
    subst hconfig hmembers hexclusions hoverloads
    rfl
  · show more.contains id = true
    simpa using hmore
  · exact h.sorted.blank_retain r.now (.inr (h.blank id (hnot ids hids id hid)))

/-- Whatever is done to a blacklist, in any order: nothing is kept about a host that is not in
use, and nothing is learnt about it; a host that stays in use does not notice when the hosts in
use are set; a host that comes back starts afresh. -/
theorem run_membership (config : BlacklistConfig α) (random : RandomStream) (now : Instant)
    (moves : List (Move α)) :
    Membership (inUse moves) ((start config random now).run moves) := by
  have hconfined : (start config random now).blacklist.Confined := .new config random
  refine .of_confined (confined_run hconfined moves) ?_
  rw [members_run]
  exact Option.or_none

end Roster

end RpcPipeline
