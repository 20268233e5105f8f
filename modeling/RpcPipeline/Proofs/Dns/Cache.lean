import RpcPipeline.Dns.Cache
import RpcPipeline.Proofs.Table

/-!
# `RpcPipeline.Proofs.Dns.Cache`: what a cache answers after a look-up

A cache keeps two lists of addresses for a name, what the last look-up found and what the last
successful one found. Nobody sees the difference: the first is empty or the same as the second
(`DnsEntry.Settled`), so the addresses to use are always those of the last look-up that found
any.

* `DnsCache.Sound`: this holds of all names, and the table is in order.
* `Sound.get?_apply`, `Sound.apply_addresses`: a look-up that finds nothing leaves a name as it
  was.
* `Sound.get?_retain`: names in use stay.
* `DnsSnapshot.get?_ofList_map`: which names a snapshot shows.
-/

set_option autoImplicit false

namespace RpcPipeline

/-- The addresses that a look-up found, if it found any. -/
def Lookup.found? : Lookup → Option (List Address)
  | .ok (address :: addresses) => some (address :: addresses)
  | .ok [] | .error _ => none

theorem Lookup.found?_ne_nil {lookup : Lookup} {addresses : List Address}
    (h : lookup.found? = some addresses) : addresses ≠ [] := by
  unfold Lookup.found? at h
  split at h <;> cases h
  exact List.cons_ne_nil _ _

namespace DnsEntry

/-- What the last look-up found is nothing, or what was found last. -/
def Settled (e : DnsEntry) : Prop := e.addresses = [] ∨ e.addresses = e.lastKnownGood

/-- The addresses to use are those that were found last. -/
theorem Settled.effective {e : DnsEntry} (h : e.Settled) : e.effective = e.lastKnownGood := by
  unfold DnsEntry.effective
  rcases h with hnil | hsame
  · rw [hnil, List.isEmpty_nil, if_pos rfl]
  · rw [hsame, ite_self]

/-- A look-up that finds nothing leaves what was found last. -/
theorem apply_settled (e : DnsEntry) (now : Instant) (lookup : Lookup) :
    (e.apply now lookup).2.Settled ∧
      (e.apply now lookup).2.lastKnownGood = lookup.found?.getD e.lastKnownGood := by
  unfold apply Lookup.found?
  split
  · exact ⟨.inl rfl, rfl⟩
  · next addresses hne =>
    cases addresses with
    | nil => exact absurd rfl hne
    | cons address addresses => exact ⟨.inr rfl, rfl⟩
  · exact ⟨.inl rfl, rfl⟩

end DnsEntry

namespace DnsCache

/-- The names are in order, and of none is there more to say than what was found last. -/
structure Sound (c : DnsCache) : Prop where
  sorted : c.entries.Sorted
  settled : ∀ name e, c.entries.get? name = some e → e.Settled

variable {c : DnsCache}

theorem empty_sound : empty.Sound where
  sorted := Table.empty_sorted
  settled name e h := by cases h

/-- What is found last of a name that may be new. -/
theorem Sound.lastKnownGood (h : c.Sound) (name : String) :
    ((c.entries.get? name).getD .new).lastKnownGood = (c.get? name).getD [] := by
  unfold DnsCache.get?
  cases hget : c.entries.get? name with
  | none => rfl
  | some e => exact (h.settled name e hget).effective.symm

theorem Sound.apply (h : c.Sound) (now : Instant) (name : String) (lookup : Lookup) :
    (c.apply now name lookup).2.2.Sound where
  sorted := h.sorted.insert name _
  settled other e he := by
    have hget : ((c.apply now name lookup).2.2.entries).get? other =
        if other = name then some (((c.entries.get? name).getD .new).apply now lookup).2
        else c.entries.get? other := Table.get?_insert ..
    rw [hget] at he
    split at he
    · cases he
      exact (DnsEntry.apply_settled _ now lookup).1
    · exact h.settled other e he

/-- The addresses to use after a look-up: those that it found, or those that were found
before. -/
theorem Sound.apply_addresses (h : c.Sound) (now : Instant) (name : String) (lookup : Lookup) :
    (c.apply now name lookup).1 = lookup.found?.getD ((c.get? name).getD []) := by
  obtain ⟨hsettled, hfound⟩ :=
    DnsEntry.apply_settled ((c.entries.get? name).getD .new) now lookup
  rw [← h.lastKnownGood, ← hfound, ← hsettled.effective]
  rfl

theorem Sound.get?_apply (h : c.Sound) (now : Instant) (name : String) (lookup : Lookup)
    (other : String) :
    (c.apply now name lookup).2.2.get? other =
      if other = name then some (lookup.found?.getD ((c.get? name).getD []))
      else c.get? other := by
  rw [← h.apply_addresses now]
  unfold DnsCache.get? DnsCache.apply
  rw [Table.get?_insert]
  split <;> rfl

theorem Sound.retain (h : c.Sound) (names : List String) : (c.retain names).Sound where
  sorted := h.sorted.filter _
  settled name e he := by
    rw [DnsCache.retain, h.sorted.get?_filter] at he
    exact h.settled name e (Option.filter_eq_some_iff.mp he).1

theorem Sound.get?_retain (h : c.Sound) (names : List String) (name : String) :
    (c.retain names).get? name = if name ∈ names then c.get? name else none := by
  unfold DnsCache.get? DnsCache.retain
  rw [h.sorted.get?_filter]
  by_cases hname : name ∈ names
  · rw [if_pos hname]
    cases c.entries.get? name <;> simp [hname]
  · rw [if_neg hname]
    cases c.entries.get? name <;> simp [hname]

end DnsCache

namespace DnsSnapshot

/-- A snapshot of some names shows those that have addresses. -/
theorem get?_ofList_map (names : List String) (addresses : String → List Address)
    (name : String) :
    (ofList (names.map fun n => (n, addresses n))).get? name =
      if name ∈ names ∧ addresses name ≠ [] then some (addresses name) else none := by
  rw [get?, ofList, Table.get?_ofList, List.filter_map, ← List.map_reverse, Table.find?_map]
  simp [List.mem_filter]

end DnsSnapshot

end RpcPipeline
