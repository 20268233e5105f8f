import RpcPipeline.Selection.Pinning

/-!
# `RpcPipeline.Proofs.Selection.Pinning`: which host is pinned next

A host that is pinned is kept as long as it is in use, not excluded and not due. Otherwise it is
the one to avoid, and the next host is drawn from those that are in use and not excluded. Only if
there is no other one of these, the host to avoid may be drawn.

* `RandomStream.below_lt`: a draw stays below its bound, so that it always points at a host.
* `Pinning.Picks`, `choose_picks`: which host is drawn.
* `Pinning.Turns`, `current_turns`: which host the next call goes to.
-/

set_option autoImplicit false

namespace RpcPipeline

/-- A random word times `n` falls short of `n` in its upper half, and by enough that a carry
does not reach `n` either. -/
theorem RandomStream.below_lt {n : Nat} (hn : 0 < n) (s : RandomStream) : (s.below n).1 < n := by
  have hdraw : s.next32.1 + 1 ≤ UInt32.size := (s.word s.position).toNat_lt
  have hproduct : s.next32.1 * n + n ≤ UInt32.size * n := by
    rw [← Nat.succ_mul]
    exact Nat.mul_le_mul_right n hdraw
  have hparts := Nat.div_add_mod (s.next32.1 * n) UInt32.size
  have hresult : s.next32.1 * n / UInt32.size < n := by
    refine Nat.div_lt_of_lt_mul ?_
    omega
  unfold below
  dsimp only
  split
  · next hlow =>
    dsimp only
    split
    · -- If the upper half were the largest, the lower half would leave no room for a carry.
      refine Nat.lt_of_le_of_ne hresult fun hlargest => ?_
      have hupper : UInt32.size * (s.next32.1 * n / UInt32.size) + UInt32.size =
          UInt32.size * n := by
        rw [← Nat.mul_succ]
        exact congrArg (UInt32.size * ·) hlargest
      omega
    · exact hresult
  · exact hresult

namespace Pinning

variable {p p' : Pinning} {now : Instant} {interval : Option Nanos} {members : List HostId}
  {excluded : HostId → Bool} {answer : Option HostId}

/-! ### Drawing a host -/

/-- There is a host to choose other than the one to avoid. -/
def HasOther (members : List HostId) (excluded : HostId → Bool) (avoid : Option HostId) : Prop :=
  ∃ id ∈ members, excluded id = false ∧ some id ≠ avoid

theorem mem_candidates {avoid : Option HostId} {id : HostId}
    (h : id ∈ candidates members excluded avoid) :
    id ∈ members ∧ excluded id = false ∧ (HasOther members excluded avoid → some id ≠ avoid) := by
  have havailable : ∀ id ∈ members.filter fun id => !excluded id,
      id ∈ members ∧ excluded id = false := fun id hid => by
    obtain ⟨hmem, hincluded⟩ := List.mem_filter.mp hid
    exact ⟨hmem, by simpa using hincluded⟩
  unfold candidates at h
  dsimp only at h
  split at h
  · next hempty =>
    obtain ⟨hmem, hincluded⟩ := havailable id h
    refine ⟨hmem, hincluded, fun ⟨other, hother, hfree, hne⟩ => ?_⟩
    have hnone := List.filter_eq_nil_iff.mp (List.isEmpty_iff.mp hempty) other
      (List.mem_filter.mpr ⟨hother, by rw [hfree]; rfl⟩)
    exact absurd (decide_eq_true hne) hnone
  · obtain ⟨hid, hne⟩ := List.mem_filter.mp h
    obtain ⟨hmem, hincluded⟩ := havailable id hid
    exact ⟨hmem, hincluded, fun _ => of_decide_eq_true hne⟩

theorem candidates_eq_nil {avoid : Option HostId} (h : candidates members excluded avoid = []) :
    ∀ id ∈ members, excluded id = true := by
  have havailable : (members.filter fun id => !excluded id) = [] := by
    unfold candidates at h
    dsimp only at h
    split at h
    · exact h
    · next hne => exact absurd (List.isEmpty_iff.mpr h) hne
  intro id hid
  simpa using List.filter_eq_nil_iff.mp havailable id hid

/-- What comes of drawing a host: either all are excluded, or one that is not becomes pinned,
and it is the one to avoid only if there is no other. -/
inductive Picks (p : Pinning) (now : Instant) (members : List HostId)
    (excluded : HostId → Bool) : Option HostId → Pinning → Prop where
  | nobody (hexcluded : ∀ id ∈ members, excluded id = true) :
      Picks p now members excluded none p
  | pins (id : HostId) (random : RandomStream) (hmember : id ∈ members)
      (hincluded : excluded id = false)
      (hother : HasOther members excluded p.avoid → some id ≠ p.avoid) :
      Picks p now members excluded (some id)
        { p with pinned := some id, pinnedAt := some now, avoid := none, random := random }

theorem choose_picks (p : Pinning) (now : Instant) (members : List HostId)
    (excluded : HostId → Bool) :
    p.Picks now members excluded (p.choose now members excluded).1
      (p.choose now members excluded).2 := by
  unfold choose
  dsimp only
  split
  · next hempty => exact .nobody (candidates_eq_nil (List.isEmpty_iff.mp hempty))
  · next hne =>
    have hpos : 0 < (candidates members excluded p.avoid).length :=
      List.length_pos_iff.mpr fun hnil => hne (List.isEmpty_iff.mpr hnil)
    have hbound := p.random.below_lt hpos
    generalize p.random.below (candidates members excluded p.avoid).length = draw at hbound ⊢
    obtain ⟨index, random⟩ := draw
    rw [List.getElem?_eq_getElem hbound]
    obtain ⟨hmember, hincluded, hother⟩ := mem_candidates (List.getElem_mem hbound)
    exact .pins _ random hmember hincluded hother

/-! ### The host for the next call -/

/-- What comes of asking for the host of the next call. -/
inductive Turns (p : Pinning) (now : Instant) (interval : Option Nanos) (members : List HostId)
    (excluded : HostId → Bool) : Option HostId → Pinning → Prop where
  | stays (id : HostId) (hpinned : p.pinned = some id) (hmember : id ∈ members)
      (hincluded : excluded id = false) (hdue : p.isDue now interval = false) :
      Turns p now interval members excluded (some id) p
  | leaves (id : HostId) {answer : Option HostId} {p' : Pinning} (hpinned : p.pinned = some id)
      (hcause : ¬ (id ∈ members ∧ excluded id = false ∧ p.isDue now interval = false))
      (hpicks : ({ p with avoid := some id } : Pinning).Picks now members excluded answer p') :
      Turns p now interval members excluded answer p'
  | starts {answer : Option HostId} {p' : Pinning} (hpinned : p.pinned = none)
      (hpicks : p.Picks now members excluded answer p') :
      Turns p now interval members excluded answer p'

theorem current_turns (p : Pinning) (now : Instant) (interval : Option Nanos)
    (members : List HostId) (excluded : HostId → Bool) :
    p.Turns now interval members excluded (p.current now interval members excluded).1
      (p.current now interval members excluded).2 := by
  unfold current
  split
  · next id hpinned =>
    split
    · next hkeep =>
      simp only [Bool.and_eq_true, Bool.not_eq_true', List.contains_iff_mem] at hkeep
      exact .stays id hpinned hkeep.1.1 hkeep.2 hkeep.1.2
    · next hleave =>
      refine .leaves id hpinned (fun ⟨hmember, hincluded, hdue⟩ => hleave ?_) (choose_picks ..)
      simp [hmember, hincluded, hdue]
  · next hpinned => exact .starts hpinned (choose_picks ..)

/-- A host that was pinned is kept, or there is a reason to draw another one. -/
theorem Turns.of_pinned {id : HostId} (h : p.Turns now interval members excluded answer p')
    (hpinned : p.pinned = some id) :
    (answer = some id ∧ p' = p ∧
        (id ∈ members ∧ excluded id = false ∧ p.isDue now interval = false)) ∨
      (¬ (id ∈ members ∧ excluded id = false ∧ p.isDue now interval = false) ∧
        ({ p with avoid := some id } : Pinning).Picks now members excluded answer p') := by
  cases h with
  | stays other hother hmember hincluded hdue =>
    rw [hpinned] at hother
    cases hother
    exact .inl ⟨rfl, rfl, hmember, hincluded, hdue⟩
  | leaves other hother hcause hpicks =>
    rw [hpinned] at hother
    cases hother
    exact .inr ⟨hcause, hpicks⟩
  | starts hnone =>
    rw [hpinned] at hnone
    cases hnone

/-- If none was pinned, then one is drawn. -/
theorem Turns.of_none (h : p.Turns now interval members excluded answer p')
    (hnone : p.pinned = none) : p.Picks now members excluded answer p' := by
  cases h with
  | stays _ hpinned =>
    rw [hnone] at hpinned
    cases hpinned
  | leaves _ hpinned =>
    rw [hnone] at hpinned
    cases hpinned
  | starts _ hpicks => exact hpicks

/-- A draw pins the host that it finds, or leaves everything as it is. -/
theorem Picks.cases_pinned (h : p.Picks now members excluded answer p') :
    p' = p ∨ ∃ id, answer = some id ∧ p'.pinned = some id ∧ p'.pinnedAt = some now := by
  cases h with
  | nobody => exact .inl rfl
  | pins id => exact .inr ⟨id, rfl, rfl, rfl⟩

/-- Whichever host is found for the next call, it is pinned then. -/
theorem Turns.pinned {id : HostId} (h : p.Turns now interval members excluded (some id) p') :
    p'.pinned = some id := by
  cases h with
  | stays _ hpinned => exact hpinned
  | leaves _ _ _ hpicks =>
    cases hpicks
    rfl
  | starts _ hpicks =>
    cases hpicks
    rfl

end Pinning

end RpcPipeline
