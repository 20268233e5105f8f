import RpcPipeline.Hosts.Blacklist
import RpcPipeline.Proofs.Table

/-!
# `RpcPipeline.Proofs.Hosts.Blacklist`: what is kept about the hosts in use

The exclusions and the counts of overloads are tables by the identity of a host. When other
hosts come into use, entries of hosts that have left are forgotten, and so are exclusions that
are over. That must not concern a host that stays: whether it is excluded, from now on and
until when, and how many overloads it has answered with.

* `Blacklist.Sorted`: both tables are in order, which every operation keeps.
* `Sorted.blank_retain`: nothing is kept about a host that leaves.
* `Blacklist.Agrees`: two blacklists say the same about a host from some moment on.
* `Sorted.retain_agrees`: setting the hosts in use does not concern a host that stays.
-/

set_option autoImplicit false

namespace RpcPipeline

/-! ### The order of identities -/

instance : IsTrans HostId (· < ·) := ⟨fun _ _ _ h h' => String.lt_trans h h'⟩

instance : Std.Irrefl (α := HostId) (· < ·) := ⟨fun id => String.lt_irrefl id.text⟩

instance : Std.Trichotomous (α := HostId) (· < ·) := ⟨fun a b hab hba => by
  have htext : a.text = b.text := Std.Trichotomous.trichotomous (r := (· < ·)) _ _ hab hba
  cases a
  cases b
  exact congrArg HostId.mk htext⟩

namespace Blacklist

variable {α : Type}

/-! ### Tables in order -/

/-- The exclusions and the counts are in order. -/
structure Sorted (b : Blacklist α) : Prop where
  exclusions : b.exclusions.Sorted
  overloads : b.overloads.Sorted

variable {b b' : Blacklist α}

theorem new_sorted (config : BlacklistConfig α) (random : RandomStream) :
    (new config random).Sorted :=
  ⟨Table.empty_sorted, Table.empty_sorted⟩

theorem Sorted.configure (h : b.Sorted) (config : BlacklistConfig α) :
    (b.configure config).Sorted :=
  ⟨h.exclusions, h.overloads⟩

theorem Sorted.retain (h : b.Sorted) (now : Instant) (ids : List HostId) :
    (b.retain now ids).Sorted :=
  ⟨h.exclusions.filter _, h.overloads.filter _⟩

theorem clear_sorted (b : Blacklist α) : b.clear.Sorted :=
  ⟨Table.empty_sorted, Table.empty_sorted⟩

/-- A draw concerns neither table. -/
theorem Sorted.drawCooldown [Scalar α] (h : b.Sorted) : b.drawCooldown.2.Sorted := by
  unfold Blacklist.drawCooldown
  split
  · exact ⟨h.exclusions, h.overloads⟩
  · exact h

theorem Sorted.exclude [Scalar α] (h : b.Sorted) (now : Instant) (id : HostId)
    (reason : BlacklistReason) : (b.exclude now id reason).2.1.Sorted := by
  have hdraw := h.drawCooldown
  unfold Blacklist.exclude
  dsimp only
  split
  · exact ⟨hdraw.exclusions.insert id _, hdraw.overloads⟩
  · exact hdraw

theorem Sorted.record [Scalar α] (h : b.Sorted) (now : Instant) (id : HostId)
    (outcome : Outcome) : (b.record now id outcome).1.Sorted := by
  have herased : Sorted { b with overloads := b.overloads.erase id } :=
    ⟨h.exclusions, h.overloads.erase id⟩
  unfold Blacklist.record
  split
  · exact h
  · cases outcome with
    | success => exact herased
    | serverError => exact herased
    | ignored => exact h
    | hostFailure => exact herased.exclude now id .hostFailure
    | overloaded =>
      dsimp only
      split
      · have hreset : Sorted { b with overloads := b.overloads.insert id 0 } :=
          ⟨h.exclusions, h.overloads.insert id 0⟩
        exact hreset.exclude now id .overloaded
      · exact ⟨h.exclusions, h.overloads.insert id _⟩

/-! ### Exclusions of a host -/

variable {id : HostId}

/-- Whether a host is excluded and until when follows from what the table has of this host. -/
theorem entry_of_get?_eq (h : b'.exclusions.get? id = b.exclusions.get? id) (t : Instant) :
    b'.entry? t id = b.entry? t id := by
  unfold entry?
  rw [h]

theorem entry_of_get?_none (h : b.exclusions.get? id = none) (t : Instant) :
    b.entry? t id = none := by
  unfold entry?
  rw [h]
  rfl

/-! ### Hosts that leave -/

/-- Nothing is kept about a host. -/
def Blank (b : Blacklist α) (id : HostId) : Prop :=
  b.exclusions.get? id = none ∧ b.overloads.get? id = none

/-- Nothing is kept about a host that leaves. Neither is anything found out about one that
comes. -/
theorem Sorted.blank_retain (h : b.Sorted) (now : Instant) {ids : List HostId}
    (hid : id ∉ ids ∨ b.Blank id) : (b.retain now ids).Blank id := by
  have hexclusions : (b.retain now ids).exclusions.get? id =
      (b.exclusions.get? id).filter fun e => ids.contains id && now < e.ends :=
    h.exclusions.get?_filter _ id
  have hoverloads : (b.retain now ids).overloads.get? id =
      (b.overloads.get? id).filter fun _ => ids.contains id :=
    h.overloads.get?_filter _ id
  rw [Blank, hexclusions, hoverloads]
  rcases hid with hnot | ⟨hnone, hzero⟩
  · simp [hnot]
  · simp [hnone, hzero]

/-! ### Hosts that stay -/

/-- From a moment on, both blacklists say the same about a host. -/
structure Agrees (now : Instant) (id : HostId) (b b' : Blacklist α) : Prop where
  entry : ∀ t, now ≤ t → b'.entry? t id = b.entry? t id
  overloads : b'.overloads.get? id = b.overloads.get? id

theorem Agrees.refl (now : Instant) (id : HostId) (b : Blacklist α) : b.Agrees now id b :=
  ⟨fun _ _ => rfl, rfl⟩

theorem Agrees.trans {now : Instant} {id : HostId} {b'' : Blacklist α} (h : Agrees now id b b')
    (h' : Agrees now id b' b'') : Agrees now id b b'' :=
  ⟨fun t ht => (h'.entry t ht).trans (h.entry t ht), h'.overloads.trans h.overloads⟩

theorem configure_agrees (b : Blacklist α) (config : BlacklistConfig α) (now : Instant)
    (id : HostId) : Agrees now id b (b.configure config) :=
  ⟨fun _ _ => rfl, rfl⟩

/-- Nothing that counts from now on is forgotten about a host that stays. -/
theorem Sorted.retain_agrees (h : b.Sorted) (now : Instant) {ids : List HostId} {id : HostId}
    (hid : id ∈ ids) : Agrees now id b (b.retain now ids) where
  entry t ht := by
    have hget : (b.retain now ids).exclusions.get? id =
        (b.exclusions.get? id).filter fun e => ids.contains id && now < e.ends :=
      h.exclusions.get?_filter _ id
    unfold entry?
    rw [hget, Option.filter_filter]
    refine congrArg (fun p => Option.filter p _) (funext fun e => ?_)
    -- What is over by now is over at any later time as well.
    by_cases hends : t < e.ends
    · have hnow : now < e.ends := Nat.lt_of_le_of_lt ht hends
      simp [hid, hends, hnow]
    · simp [hends]
  overloads := by
    have hget : (b.retain now ids).overloads.get? id =
        (b.overloads.get? id).filter fun _ => ids.contains id :=
      h.overloads.get?_filter _ id
    rw [hget]
    cases b.overloads.get? id with
    | none => rfl
    | some count => simp [hid]

end Blacklist

end RpcPipeline
