import RpcPipeline.Proofs.Hosts.Blacklist
import RpcPipeline.Proofs.Hosts.Limits
import RpcPipeline.Proofs.Number.Exact

/-!
# `RpcPipeline.Proofs.Hosts.Outcomes`: what a blacklist learns from the outcome of a call

An outcome changes the count of overloads of its host, and may lead to the exclusion of this
host (`Blacklist.verdict?`). How long the exclusion lasts is drawn at random, within bounds that
follow from the settings.

* `Blacklist.Learns`, `record_learns`: everything that one outcome changes.
* `Sorted.retain_forgets`: nothing is kept about a host that leaves.
* `BlacklistConfig.DrawsWithin`, `drawsWithin_of_validate`: cooldowns are drawn within their
  bounds.
-/

set_option autoImplicit false

namespace RpcPipeline

variable {α : Type}

/-! ### What a blacklist makes of one outcome -/

namespace Blacklist

/-- The number of overloads in a row that is kept about a host. -/
def tally (b : Blacklist α) (id : HostId) : Nat := (b.overloads.get? id).getD 0

/-- Why an outcome of a host leads to its exclusion, if it does. -/
def verdict? (b : Blacklist α) (id : HostId) : Outcome → Option BlacklistReason
  | .hostFailure => some .hostFailure
  | .overloaded =>
    if b.config.overloadThreshold.toNat ≤ b.tally id + 1 then some .overloaded else none
  | .success | .serverError | .ignored => none

/-- The number of overloads in a row after an outcome. -/
def tallyAfter (b : Blacklist α) (id : HostId) : Outcome → Nat
  | .overloaded => if (b.verdict? id .overloaded).isSome then 0 else b.tally id + 1
  | .ignored => b.tally id
  | .success | .serverError | .hostFailure => 0

/-- The counts of overloads after an outcome of a host in use. -/
def recount (b : Blacklist α) (id : HostId) : Outcome → Table HostId Nat
  | .overloaded => b.overloads.insert id (b.tallyAfter id .overloaded)
  | .ignored => b.overloads
  | .success | .serverError | .hostFailure => b.overloads.erase id

/-- The report of an exclusion. -/
def report (id : HostId) : Option BlacklistReason → List (Event α)
  | some reason => [.blacklisted id.text reason.label]
  | none => []

variable [Scalar α]

/-- What is learnt from an outcome of a host in use. -/
structure Learns (b : Blacklist α) (now : Instant) (id : HostId) (outcome : Outcome)
    (b' : Blacklist α) (events : List (Event α)) : Prop where
  config : b'.config = b.config
  members : b'.members = b.members
  /-- Other hosts are not concerned. -/
  others : ∀ other, other ≠ id → b.Agrees now other b'
  events : events = report id (b.verdict? id outcome)
  tally : b'.tally id = b.tallyAfter id outcome
  /-- Without a reason the exclusions stay as they are. -/
  spared : b.verdict? id outcome = none → b'.exclusions = b.exclusions
  /-- A new exclusion takes the place of any other one, and lasts as long as was drawn. -/
  excluded : ∀ reason, b.verdict? id outcome = some reason →
    ∃ drawer : Blacklist α, drawer.config = b.config ∧
      b'.exclusions.get? id = some ⟨now + drawer.drawCooldown.1, reason⟩

variable {b b' : Blacklist α} {id other : HostId}

omit [Scalar α] in
theorem get?_recount_of_ne (b : Blacklist α) (hne : other ≠ id) (outcome : Outcome) :
    (b.recount id outcome).get? other = b.overloads.get? other := by
  cases outcome <;> simp [recount, hne]

omit [Scalar α] in
theorem tally_recount (b : Blacklist α) (id : HostId) (outcome : Outcome) :
    ((b.recount id outcome).get? id).getD 0 = b.tallyAfter id outcome := by
  cases outcome with
  | overloaded => simp [recount]
  | ignored => rfl
  | success => simp [recount, tallyAfter]
  | serverError => simp [recount, tallyAfter]
  | hostFailure => simp [recount, tallyAfter]

omit [Scalar α] in
theorem Sorted.recount (h : b.Sorted) (id : HostId) (outcome : Outcome) :
    Sorted { b with overloads := b.recount id outcome } := by
  refine ⟨h.exclusions, ?_⟩
  cases outcome with
  | overloaded => exact h.overloads.insert id _
  | ignored => exact h.overloads
  | success => exact h.overloads.erase id
  | serverError => exact h.overloads.erase id
  | hostFailure => exact h.overloads.erase id

/-- Nothing but the position in the stream of random draws changes by a draw. -/
theorem drawCooldown_keeps (b : Blacklist α) :
    b.drawCooldown.2.config = b.config ∧ b.drawCooldown.2.members = b.members ∧
      b.drawCooldown.2.exclusions = b.exclusions ∧ b.drawCooldown.2.overloads = b.overloads := by
  unfold drawCooldown
  split <;> exact ⟨rfl, rfl, rfl, rfl⟩

/-- A host that is not in use is not excluded. The draw is made all the same. -/
theorem exclude_of_not_member (h : b.isMember id = false) (now : Instant)
    (reason : BlacklistReason) :
    b.exclude now id reason = (none, b.drawCooldown.2, []) := by
  obtain ⟨-, hmembers, -, -⟩ := b.drawCooldown_keeps
  have hnot : b.drawCooldown.2.isMember id = false := by
    rw [isMember, hmembers]
    exact h
  simp [exclude, hnot]

/-- A host in use is excluded for as long as was drawn. -/
theorem exclude_of_member (h : b.isMember id = true) (now : Instant)
    (reason : BlacklistReason) :
    b.exclude now id reason =
      (some (now + b.drawCooldown.1),
        { b.drawCooldown.2 with
          exclusions := b.exclusions.insert id ⟨now + b.drawCooldown.1, reason⟩ },
        [.blacklisted id.text reason.label]) := by
  obtain ⟨-, hmembers, hexclusions, -⟩ := b.drawCooldown_keeps
  have hmember : b.drawCooldown.2.isMember id = true := by
    rw [isMember, hmembers]
    exact h
  simp [exclude, hmember, hexclusions]

/-- An outcome that leads to an exclusion, after the count of overloads was set. -/
theorem learns_of_excluded {now : Instant} {id : HostId} {outcome : Outcome}
    {reason : BlacklistReason} {overloads : Table HostId Nat} (hmember : b.isMember id = true)
    (hverdict : b.verdict? id outcome = some reason)
    (hothers : ∀ other, other ≠ id → overloads.get? other = b.overloads.get? other)
    (htally : (overloads.get? id).getD 0 = b.tallyAfter id outcome) :
    b.Learns now id outcome (({ b with overloads := overloads }).exclude now id reason).2.1
      (({ b with overloads := overloads }).exclude now id reason).2.2 := by
  obtain ⟨hconfig, hmembers, -, hoverloads⟩ :=
    drawCooldown_keeps { b with overloads := overloads }
  rw [exclude_of_member (b := { b with overloads := overloads }) hmember]
  refine ⟨hconfig, hmembers, fun other hother => ⟨fun t _ => ?_, ?_⟩, ?_, ?_, ?_, ?_⟩
  · refine entry_of_get?_eq ?_ t
    dsimp only
    rw [Table.get?_insert, if_neg hother]
  · dsimp only
    rw [hoverloads]
    exact hothers other hother
  · rw [hverdict]
    rfl
  · rw [← htally, tally]
    dsimp only
    rw [hoverloads]
  · intro hnone
    rw [hverdict] at hnone
    cases hnone
  · intro reason' hsome
    rw [hverdict] at hsome
    cases hsome
    refine ⟨{ b with overloads := overloads }, rfl, ?_⟩
    dsimp only
    rw [Table.get?_insert, if_pos rfl]

/-- An outcome that only changes the count of overloads. -/
theorem learns_of_spared {now : Instant} {id : HostId} {outcome : Outcome}
    {overloads : Table HostId Nat} (hverdict : b.verdict? id outcome = none)
    (hothers : ∀ other, other ≠ id → overloads.get? other = b.overloads.get? other)
    (htally : (overloads.get? id).getD 0 = b.tallyAfter id outcome) :
    b.Learns now id outcome { b with overloads := overloads } [] where
  config := rfl
  members := rfl
  others other hother := ⟨fun _ _ => rfl, hothers other hother⟩
  events := by rw [hverdict]; rfl
  tally := htally
  spared _ := rfl
  excluded reason hsome := by
    rw [hverdict] at hsome
    cases hsome

/-- An outcome of a host in use is a new count, and an exclusion if there is a reason for
one. -/
theorem record_eq (hmember : b.isMember id = true) (now : Instant)
    (outcome : Outcome) :
    b.record now id outcome =
      match b.verdict? id outcome with
      | some reason => ({ b with overloads := b.recount id outcome }.exclude now id reason).2
      | none => ({ b with overloads := b.recount id outcome }, []) := by
  have hknown : (!b.isMember id) = false := by simp [hmember]
  unfold record
  rw [hknown, if_neg Bool.false_ne_true]
  cases outcome with
  | success => rfl
  | serverError => rfl
  | ignored => rfl
  | hostFailure => rfl
  | overloaded =>
    -- The count is full exactly if it leads to an exclusion.
    have hcount : (b.overloads.get? id).getD 0 = b.tally id := rfl
    by_cases hfull : b.config.overloadThreshold.toNat ≤ b.tally id + 1
    · simp [verdict?, recount, tallyAfter, hcount, hfull]
    · simp [verdict?, recount, tallyAfter, hcount, hfull]

/-- Nothing is learnt about a host that is not in use. -/
theorem record_of_not_member (h : b.isMember id = false) (now : Instant)
    (outcome : Outcome) : b.record now id outcome = (b, []) := by
  simp [record, h]

theorem record_learns {id : HostId} (hmember : b.isMember id = true) (now : Instant)
    (outcome : Outcome) :
    b.Learns now id outcome (b.record now id outcome).1 (b.record now id outcome).2 := by
  have hothers : ∀ other, other ≠ id →
      (b.recount id outcome).get? other = b.overloads.get? other :=
    fun other hother => b.get?_recount_of_ne hother outcome
  have htally := b.tally_recount id outcome
  rw [record_eq hmember]
  cases hverdict : b.verdict? id outcome with
  | none => exact learns_of_spared hverdict hothers htally
  | some reason => exact learns_of_excluded hmember hverdict hothers htally

omit [Scalar α] in
/-- Nothing is kept about a host that leaves. -/
theorem Sorted.retain_forgets (h : b.Sorted) (now : Instant) {ids : List HostId} {id : HostId}
    (hid : id ∉ ids) :
    (b.retain now ids).tally id = 0 ∧ ∀ t, Blacklist.entry? (b.retain now ids) t id = none := by
  obtain ⟨hexclusions, hoverloads⟩ := h.blank_retain now (.inl hid)
  refine ⟨?_, entry_of_get?_none hexclusions⟩
  rw [tally, hoverloads]
  rfl

end Blacklist

/-! ### How long an exclusion lasts -/

namespace BlacklistConfig

variable [Scalar α]

/-- The longest cooldown that can be drawn. -/
def longest (c : BlacklistConfig α) : Nanos := Scalar.stretch c.cooldown (1 + c.cooldownJitter)

/-- Cooldowns are drawn between the one in the settings and the longest one. -/
def DrawsWithin (c : BlacklistConfig α) : Prop :=
  ∀ b : Blacklist α, b.config = c →
    c.cooldown ≤ b.drawCooldown.1 ∧ b.drawCooldown.1 ≤ c.longest

theorem validate_eq_ok {c : BlacklistConfig α} :
    c.validate = .ok () ↔ c.cooldown ≠ 0 ∧ (0 ≤ c.cooldownJitter ∧ c.cooldownJitter ≤ 1) ∧
      c.overloadThreshold ≠ 0 := by
  simp only [validate, Scalar.isShare, then_eq_ok, demand_eq_ok, Bool.and_eq_true,
    decide_eq_true_iff]

omit [Scalar α] in
theorem threshold_pos {c : BlacklistConfig α} (h : c.overloadThreshold ≠ 0) :
    0 < c.overloadThreshold.toNat := by
  refine Nat.pos_of_ne_zero fun hzero => h ?_
  exact UInt32.toNat_inj.mp hzero

/-- Whatever is drawn, a cooldown of exact length is within its bounds. -/
theorem drawsWithin_of_validate {c : BlacklistConfig Rat} (h : c.validate = .ok ()) :
    c.DrawsWithin := by
  obtain ⟨-, ⟨hnonneg, -⟩, -⟩ := validate_eq_ok.mp h
  rintro b rfl
  unfold longest Blacklist.drawCooldown
  split
  · have hdraw := b.random.unit52_mem
    have hshare : b.random.unit52.1 * b.config.cooldownJitter ≤ b.config.cooldownJitter :=
      mul_le_of_le_one_left hnonneg hdraw.2
    have hshare_nonneg : 0 ≤ b.random.unit52.1 * b.config.cooldownJitter :=
      mul_nonneg hdraw.1 hnonneg
    exact ⟨Scalar.le_stretch (by linarith), Scalar.stretch_le_stretch (by linarith)⟩
  · exact ⟨Scalar.le_stretch (by linarith), Scalar.stretch_le_stretch (by linarith)⟩

end BlacklistConfig

end RpcPipeline
