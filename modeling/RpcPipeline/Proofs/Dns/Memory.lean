import RpcPipeline.Proofs.Dns.Cache
import RpcPipeline.Scenario.Resolving

/-!
# `RpcPipeline.Proofs.Dns.Memory`: what a cache remembers of a name

Two things happen to a cache: a look-up of a name is taken in, and all names but some are
forgotten. Of this past, only the look-ups of a name since it was last forgotten count for the
name (`lookupsOf`). The name leads to what the last one of them found that found anything
(`lastFind?`), however many came back with nothing or failed after it.

A cache keeps three things about a name and no past at all. `entryAfter` says what these three
are after any past, and everything that a cache answers and reports follows from it.

* `DnsCache.Use`, `DnsCache.use`, `DnsCache.run`: what can happen to a cache.
* `DnsCache.lookupsOf`, `DnsCache.lastFind?`: what counts for a name.
* `DnsCache.Recalls`, `Recalls.use`: the entries of a cache are those that follow from its past.
* `DnsCache.run_remembers`: what a cache answers and reports after any past
  (`DnsCache.Remembers`).
-/

set_option autoImplicit false

namespace RpcPipeline

namespace DnsCache

/-- Something that happens to a cache. -/
inductive Use where
  /-- A look-up of a name has come back, and it is this time now. -/
  | apply (now : Instant) (hostname : String) (lookup : Lookup)
  /-- All names but these are forgotten. -/
  | retain (hostnames : List String)

/-- What it does to the cache. -/
def use (c : DnsCache) : Use → DnsCache
  | .apply now hostname lookup => (c.apply now hostname lookup).2.2
  | .retain hostnames => c.retain hostnames

/-- One use after the other. -/
def run (c : DnsCache) (uses : List Use) : DnsCache := uses.foldl use c

/-! ### What counts for a name

A past lists the latest use first. -/

/-- The look-ups of a name since it was last forgotten, the latest first. -/
def lookupsOf (name : String) : List Use → List (Instant × Lookup)
  | [] => []
  | .apply now hostname lookup :: past =>
    if hostname = name then (now, lookup) :: lookupsOf name past else lookupsOf name past
  | .retain hostnames :: past => if name ∈ hostnames then lookupsOf name past else []

/-- What the last look-up found that found anything, and when. -/
def lastFind? (lookups : List (Instant × Lookup)) : Option (Instant × List Address) :=
  lookups.findSome? fun l => l.2.found?.map fun found => (l.1, found)

/-- The addresses that a name leads to after some look-ups. There are none if nothing was ever
found. -/
def addressesAfter (lookups : List (Instant × Lookup)) : List Address :=
  ((lastFind? lookups).map Prod.snd).getD []

/-- How a look-up went that comes after some others. -/
def outcomeAfter (earlier : List (Instant × Lookup)) (lookup : Lookup) : DnsOutcome :=
  if lookup.found?.isSome then .success
  else if (lastFind? earlier).isSome then .fallback
  else
    match lookup with
    | .ok _ => .empty
    | .error _ => .failure

/-- What is kept about a name after some look-ups. -/
def entryAfter : List (Instant × Lookup) → Option DnsEntry
  | [] => none
  | (now, lookup) :: earlier =>
    some
      { addresses := lookup.found?.getD []
        lastSuccess := (lastFind? ((now, lookup) :: earlier)).map Prod.fst
        lastKnownGood := addressesAfter ((now, lookup) :: earlier) }

variable {now : Instant} {lookup : Lookup} {earlier : List (Instant × Lookup)}

theorem lastFind?_cons :
    lastFind? ((now, lookup) :: earlier) =
      (lookup.found?.map fun found => (now, found)).or (lastFind? earlier) := by
  unfold lastFind?
  rw [List.findSome?_cons]
  cases lookup.found? <;> rfl

theorem addressesAfter_cons :
    addressesAfter ((now, lookup) :: earlier) = lookup.found?.getD (addressesAfter earlier) := by
  rw [addressesAfter, lastFind?_cons]
  cases lookup.found? <;> rfl

/-- Whatever was found, there was something. -/
theorem addressesAfter_isEmpty (lookups : List (Instant × Lookup)) :
    (addressesAfter lookups).isEmpty = (lastFind? lookups).isNone := by
  induction lookups with
  | nil => rfl
  | cons first earlier ih =>
    obtain ⟨now, lookup⟩ := first
    rw [addressesAfter_cons, lastFind?_cons]
    cases hfound : lookup.found? with
    | none => simpa using ih
    | some found =>
      have hne : found ≠ [] := Lookup.found?_ne_nil hfound
      simpa using hne

theorem entryAfter_eq_none {lookups : List (Instant × Lookup)} :
    entryAfter lookups = none ↔ lookups = [] := by
  cases lookups <;> simp [entryAfter]

/-- A name that was never looked up has found nothing so far. -/
theorem entryAfter_getD (lookups : List (Instant × Lookup)) :
    ((entryAfter lookups).getD .new).lastSuccess = (lastFind? lookups).map Prod.fst ∧
      ((entryAfter lookups).getD .new).lastKnownGood = addressesAfter lookups := by
  cases lookups with
  | nil => exact ⟨rfl, rfl⟩
  | cons first earlier => exact ⟨rfl, rfl⟩

/-- The addresses to use are those that were found last. -/
theorem effective_of_entryAfter {lookups : List (Instant × Lookup)} {e : DnsEntry}
    (h : entryAfter lookups = some e) : e.effective = addressesAfter lookups := by
  cases lookups with
  | nil => cases h
  | cons first earlier =>
    obtain ⟨now, lookup⟩ := first
    cases h
    have hsettled : DnsEntry.Settled
        { addresses := lookup.found?.getD []
          lastSuccess := (lastFind? ((now, lookup) :: earlier)).map Prod.fst
          lastKnownGood := addressesAfter ((now, lookup) :: earlier) } := by
      unfold DnsEntry.Settled
      rw [addressesAfter_cons]
      cases lookup.found? <;> simp
    exact hsettled.effective

/-! ### One use -/

/-- A look-up makes of the entry after some look-ups the entry after one more. -/
theorem apply_entryAfter (now : Instant) (lookup : Lookup) (earlier : List (Instant × Lookup)) :
    some (((entryAfter earlier).getD .new).apply now lookup).2 =
      entryAfter ((now, lookup) :: earlier) := by
  obtain ⟨hsuccess, hgood⟩ := entryAfter_getD earlier
  generalize (entryAfter earlier).getD .new = e at hsuccess hgood
  rw [entryAfter, addressesAfter_cons, lastFind?_cons, ← hgood]
  match lookup with
  | .ok [] => simp [DnsEntry.apply, Lookup.found?, hsuccess]
  | .ok (address :: addresses) => simp [DnsEntry.apply, Lookup.found?]
  | .error _ => simp [DnsEntry.apply, Lookup.found?, hsuccess]

/-- How a look-up went depends on what was found before it. -/
theorem apply_outcomeAfter (now : Instant) (lookup : Lookup)
    (earlier : List (Instant × Lookup)) :
    (((entryAfter earlier).getD .new).apply now lookup).1 = outcomeAfter earlier lookup := by
  obtain ⟨-, hgood⟩ := entryAfter_getD earlier
  generalize (entryAfter earlier).getD .new = e at hgood
  have hheld := addressesAfter_isEmpty earlier
  rw [← hgood] at hheld
  match lookup with
  | .ok [] => cases h : lastFind? earlier <;> simp_all [DnsEntry.apply, outcomeAfter, Lookup.found?]
  | .ok (address :: addresses) => simp [DnsEntry.apply, outcomeAfter, Lookup.found?]
  | .error _ =>
    cases h : lastFind? earlier <;> simp_all [DnsEntry.apply, outcomeAfter, Lookup.found?]

/-- The names are in order, and what is kept about each of them follows from the past. -/
structure Recalls (past : List Use) (c : DnsCache) : Prop where
  sorted : c.entries.Sorted
  entry : ∀ name, c.entries.get? name = entryAfter (lookupsOf name past)

variable {past : List Use} {c : DnsCache}

theorem empty_recalls : Recalls [] empty := ⟨Table.empty_sorted, fun _ => rfl⟩

theorem Recalls.apply (h : Recalls past c) (now : Instant) (hostname : String)
    (lookup : Lookup) :
    Recalls (.apply now hostname lookup :: past) (c.apply now hostname lookup).2.2 where
  sorted := h.sorted.insert hostname _
  entry name := by
    have hget : ((c.apply now hostname lookup).2.2.entries).get? name =
        if name = hostname then some (((c.entries.get? hostname).getD .new).apply now lookup).2
        else c.entries.get? name := Table.get?_insert ..
    rw [hget, lookupsOf]
    by_cases hname : name = hostname
    · subst hname
      rw [if_pos rfl, if_pos rfl, h.entry, apply_entryAfter]
    · rw [if_neg hname, if_neg (Ne.symm hname), h.entry]

theorem Recalls.retain (h : Recalls past c) (hostnames : List String) :
    Recalls (.retain hostnames :: past) (c.retain hostnames) where
  sorted := h.sorted.filter _
  entry name := by
    rw [DnsCache.retain, h.sorted.get?_filter, h.entry, lookupsOf]
    by_cases hname : name ∈ hostnames
    · rw [if_pos hname]
      cases entryAfter (lookupsOf name past) <;> simp [hname]
    · rw [if_neg hname]
      cases entryAfter (lookupsOf name past) <;> simp [hname, entryAfter]

/-- Whatever happens, what is kept follows from what has happened. -/
theorem Recalls.use (h : Recalls past c) (u : Use) : Recalls (u :: past) (c.use u) := by
  cases u with
  | apply now hostname lookup => exact h.apply now hostname lookup
  | retain hostnames => exact h.retain hostnames

theorem Recalls.run (h : Recalls past c) (uses : List Use) :
    Recalls (uses.reverse ++ past) (c.run uses) := by
  induction uses generalizing c past with
  | nil => exact h
  | cons u uses ih =>
    rw [List.reverse_cons, List.append_assoc]
    exact ih (h.use u)

/-! ### What a cache answers -/

/-- What a cache answers and reports that remembers its past. -/
structure Remembers (past : List Use) (c : DnsCache) : Prop where
  /-- A name is unknown if it was not looked up since it was last forgotten. -/
  unknown : ∀ name, c.get? name = none ↔ lookupsOf name past = []
  /-- Otherwise it leads to what was found last since then. -/
  known : ∀ name, lookupsOf name past ≠ [] →
    c.get? name = some (addressesAfter (lookupsOf name past))
  lastSuccess : ∀ name e, c.entries.get? name = some e →
    e.lastSuccess = (lastFind? (lookupsOf name past)).map Prod.fst
  /-- Whoever hands in a look-up is given what the name leads to from now on. -/
  applied : ∀ now name lookup,
    (c.apply now name lookup).1 = addressesAfter ((now, lookup) :: lookupsOf name past) ∧
      (c.apply now name lookup).2.2.get? name = some (c.apply now name lookup).1
  /-- The outcome of a look-up depends on what it found and on what was found before. -/
  outcome : ∀ now name lookup,
    (c.apply now name lookup).2.1 = outcomeAfter (lookupsOf name past) lookup
  /-- With a clock and a log beside the cache, a look-up is taken in at the time of the clock, and
  its outcome is all that is reported. -/
  recorded : ∀ {α : Type} (b : CacheBench α), b.cache = c → ∀ name lookup,
    (b.apply name lookup).2.cache = c.use (.apply b.outside.now name lookup) ∧
      (b.apply name lookup).2.outside.log =
        .dns name (outcomeAfter (lookupsOf name past) lookup) :: b.outside.log
  /-- A refresher that looks up a name reports the same. -/
  refreshed : ∀ {α : Type} (r : Refresher α), r.cache = c → ∀ now name,
    (r.lookUp now name).2.2 =
      [.dns name (outcomeAfter (lookupsOf name past) (r.resolver.resolve name).1)]

theorem Recalls.outcome_apply (h : Recalls past c) (now : Instant) (name : String)
    (lookup : Lookup) :
    (c.apply now name lookup).2.1 = outcomeAfter (lookupsOf name past) lookup := by
  show (((c.entries.get? name).getD .new).apply now lookup).1 = _
  rw [h.entry, apply_outcomeAfter]

theorem Recalls.known (h : Recalls past c) {name : String} (hname : lookupsOf name past ≠ []) :
    c.get? name = some (addressesAfter (lookupsOf name past)) := by
  unfold DnsCache.get?
  rw [h.entry]
  cases hentry : entryAfter (lookupsOf name past) with
  | none => exact absurd (entryAfter_eq_none.mp hentry) hname
  | some e => rw [Option.map_some, effective_of_entryAfter hentry]

theorem Recalls.applied (h : Recalls past c) (now : Instant) (name : String) (lookup : Lookup) :
    (c.apply now name lookup).1 = addressesAfter ((now, lookup) :: lookupsOf name past) ∧
      (c.apply now name lookup).2.2.get? name = some (c.apply now name lookup).1 := by
  have haddresses :
      (c.apply now name lookup).1 = addressesAfter ((now, lookup) :: lookupsOf name past) := by
    have hentry := apply_entryAfter now lookup (lookupsOf name past)
    rw [← h.entry] at hentry
    exact effective_of_entryAfter hentry.symm
  refine ⟨haddresses, ?_⟩
  have hlookups : lookupsOf name (.apply now name lookup :: past) =
      (now, lookup) :: lookupsOf name past := if_pos rfl
  have hsome : lookupsOf name (.apply now name lookup :: past) ≠ [] := by
    rw [hlookups]
    exact List.cons_ne_nil _ _
  rw [(h.apply now name lookup).known hsome, hlookups, haddresses]

theorem Recalls.remembers (h : Recalls past c) : Remembers past c where
  unknown name := by
    rw [← entryAfter_eq_none, ← h.entry]
    exact Option.map_eq_none_iff
  known name hname := h.known hname
  lastSuccess name e he := by
    have hsuccess := (entryAfter_getD (lookupsOf name past)).1
    rw [← h.entry, he] at hsuccess
    exact hsuccess
  applied := h.applied
  outcome := h.outcome_apply
  recorded b hb name lookup := by
    subst hb
    refine ⟨rfl, ?_⟩
    show Event.dns name (b.cache.apply b.outside.now name lookup).2.1 :: b.outside.log = _
    rw [h.outcome_apply]
  refreshed r hr now name := by
    show [Event.dns name (r.cache.apply now name (r.resolver.resolve name).1).2.1] = _
    rw [hr, h.outcome_apply]

/-- Whichever look-ups a cache takes in, and whichever names it forgets in between, it answers
for each name as the look-ups of the name since it was last forgotten say. -/
theorem run_remembers (uses : List Use) : Remembers uses.reverse (empty.run uses) := by
  have h := empty_recalls.run uses
  rw [List.append_nil] at h
  exact h.remembers

/-- A name is found, and then a look-up of it fails. Another name is forgotten. -/
example :
    let c := empty.run
      [.apply 1 "a.example" (.ok [.v4 (.ofNat 1)]), .apply 2 "b.example" (.ok [.v4 (.ofNat 2)]),
        .apply 3 "a.example" (.error ⟨"a.example", "refused"⟩), .retain ["a.example"]]
    (c.get? "a.example", c.get? "b.example") = (some [.v4 (.ofNat 1)], none) := by
  decide +kernel

end DnsCache

end RpcPipeline
