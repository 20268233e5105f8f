import Mathlib.Data.String.Basic
import RpcPipeline.Proofs.Call.Memory
import RpcPipeline.Proofs.Table
import RpcPipeline.Scenario.Requests

/-!
# `RpcPipeline.Proofs.Call.Requests`: derived requests leave each other alone

Requests are built one after the other, each from a stored one or from nothing, and each takes
the place of the one that had its name. Whatever shape the derivations take, the handles that
are out are those of the stored requests. So a build changes no other request, and it shares a
collection with the request that it was derived from as long as no edit takes effect on it.

* `RequestStore.Sound`: the handles that are out are those of the stored requests.
* `Sound.start`, `Sound.edited`, `store_sound`: what a build starts from, edits and stores.
* `Sound.step`, `Sound.run`: every build keeps it so.
* `RequestStore.CopiesOnWrite`: what one more build does to a store.
* `run_copiesOnWrite`: it does so after any builds.
-/

set_option autoImplicit false

namespace RpcPipeline

/-- A request that is to be derived and stored. -/
structure Build where
  name : String
  /-- The name of the request to derive it from. -/
  from? : Option String
  edits : List Edit

namespace RequestStore

/-- The request that is built. -/
def built (s : RequestStore) (b : Build) : Request := (s.build b.name b.from? b.edits).1

/-- The store after a build. -/
def step (s : RequestStore) (b : Build) : RequestStore := (s.build b.name b.from? b.edits).2

/-- Builds one after the other. -/
def run (s : RequestStore) (builds : List Build) : RequestStore := builds.foldl step s

/-- The stored request that a build starts from, if any. -/
def origin? (s : RequestStore) (b : Build) : Option Request := b.from?.bind s.requests.get?

/-! ### The handles that are out -/

/-- The handles of the stored requests on a collection. -/
def held (s : RequestStore) (k : Collection) : List Mark := s.slots.values.map (·.handle k)

/-- The handles that are out are those of the stored requests. -/
structure Sound (s : RequestStore) : Prop where
  sorted : s.slots.Sorted
  holds : ∀ k, (s.memory.storage k).Holds (s.held k)

variable {s : RequestStore} {b : Build}

theorem empty_sound : empty.Sound where
  sorted := Table.empty_sorted
  holds k := by
    rw [empty, RequestMemory.storage_empty]
    exact Storage.empty_holds

theorem get?_requests (s : RequestStore) (name : String) :
    s.requests.get? name = (s.slots.get? name).map s.memory.view :=
  Table.get?_map s.slots s.memory.view name

theorem handle_mem_held {name : String} {r : RequestHandles} (h : s.slots.get? name = some r)
    (k : Collection) : r.handle k ∈ s.held k := List.mem_map_of_mem (Table.mem_values_of_get? h)

/-- A stored request, with its handles. -/
theorem get?_requests_eq_some {name : String} {x : Request} (h : s.requests.get? name = some x) :
    ∃ r, s.slots.get? name = some r ∧ s.memory.view r = x := by
  rw [get?_requests, Option.map_eq_some_iff] at h
  exact h

/-! ### One build -/

/-- What a build starts from. -/
structure Starts (s : RequestStore) (b : Build) (r : RequestHandles) (mem : RequestMemory) :
    Prop where
  holds : ∀ k, (mem.storage k).Holds (r.handle k :: s.held k)
  spared : ∀ k, ∀ m ∈ s.held k, (mem.storage k).read m = (s.memory.storage k).read m
  content : ∀ k, (mem.storage k).read (r.handle k) =
    ((s.origin? b).getD (.blank 0)).content k
  /-- A stored request shares its storage, -/
  derived : ∀ o, s.origin? b = some o → s.memory.view r = o ∧ ∀ k, r.handle k ∈ s.held k
  /-- and a blank one has storage of its own. -/
  blank : s.origin? b = none → ∀ k, r.handle k ∉ s.held k

theorem Sound.start (h : s.Sound) : s.Starts b (s.start b.from?).1 (s.start b.from?).2 := by
  have horigin : s.origin? b = (b.from?.bind s.slots.get?).map s.memory.view := by
    rw [origin?]
    cases b.from? with
    | none => rfl
    | some name => exact get?_requests s name
  unfold RequestStore.start
  cases hslot : b.from?.bind s.slots.get? with
  | some r =>
    rw [hslot] at horigin
    obtain ⟨name, -, hget⟩ := Option.bind_eq_some_iff.mp hslot
    refine ⟨fun k => ?_, fun k m _ => ?_, fun k => ?_, fun o ho => ?_, fun hnone => ?_⟩
    · rw [RequestMemory.storage_share]
      exact (h.holds k).share (handle_mem_held hget k)
    · rw [RequestMemory.storage_share, Storage.read_share]
    · rw [RequestMemory.storage_share, Storage.read_share, horigin, Option.map_some,
        Option.getD_some, RequestMemory.content_view]
    · rw [horigin] at ho
      cases ho
      exact ⟨rfl, handle_mem_held hget⟩
    · rw [horigin] at hnone
      cases hnone
  | none =>
    rw [hslot] at horigin
    have hcell : ∀ k, s.memory.blank.1.handle k = (s.memory.storage k).next ∧
        s.memory.blank.2.storage k = ((s.memory.storage k).put default).2 := fun k =>
      Prod.ext_iff.mp (s.memory.blank_collection k)
    refine ⟨fun k => ?_, fun k m hm => ?_, fun k => ?_, fun o ho => ?_, fun _ k => ?_⟩
    · rw [(hcell k).1, (hcell k).2]
      exact (h.holds k).put default
    · rw [(hcell k).2, (h.holds k).read_put default hm]
    · rw [(hcell k).1, (hcell k).2, Storage.read_put_self, horigin]
      cases k <;> rfl
    · rw [horigin] at ho
      cases ho
    · rw [(hcell k).1]
      exact (h.holds k).next_not_mem

/-- The request that is built, before it is stored. -/
def edited (s : RequestStore) (b : Build) : RequestHandles × RequestMemory :=
  (s.start b.from?).2.edits (s.start b.from?).1 b.edits

/-- The content of a collection that a build starts from. -/
def initial (s : RequestStore) (b : Build) (k : Collection) : k.Content :=
  ((s.origin? b).getD (.blank 0)).content k

theorem Sound.edited (h : s.Sound) (k : Collection) :
    RequestMemory.Edited (s.held k) ((s.start b.from?).1.handle k, s.memory.storage k)
      (Edit.after k (s.initial b k) b.edits) (Edit.touched k (s.initial b k) b.edits)
      ((s.edited b).1.handle k, (s.edited b).2.storage k) := by
  have hstarts : s.Starts b _ _ := h.start
  have hedited := RequestMemory.edits_edited (hstarts.holds k) b.edits
  rw [hstarts.content] at hedited
  exact ⟨hedited.holds, hedited.value,
    fun m hm => (hedited.spared m hm).trans (hstarts.spared k m hm), hedited.apart, hedited.stays⟩

/-- A request is stored for which handles are out. -/
theorem store_sound (name : String) {r : RequestHandles} (hsorted : s.slots.Sorted)
    (hholds : ∀ k, (s.memory.storage k).Holds (r.handle k :: s.held k)) :
    (s.store name r).Sound ∧ (s.store name r).slots = s.slots.insert name r ∧
      ∀ k, ∀ m ∈ (s.store name r).held k,
        ((s.store name r).memory.storage k).read m = (s.memory.storage k).read m := by
  have hperm : ∀ k, (((s.slots.get? name).toList ++ (s.slots.insert name r).values).map
      (·.handle k)).Perm (r.handle k :: s.held k) := fun k =>
    (hsorted.values_insert name r).map (·.handle k)
  unfold RequestStore.store
  cases hget : s.slots.get? name with
  | some older =>
    rw [hget] at hperm
    -- The handles of the older request are out, but not listed any more.
    have hboth : ∀ k, (s.memory.storage k).Holds
        (older.handle k :: (s.slots.insert name r).values.map (·.handle k)) := fun k =>
      (hholds k).perm (hperm k).symm
    refine ⟨⟨hsorted.insert name r, fun k => ?_⟩, rfl, fun k m hm => ?_⟩
    · rw [RequestMemory.storage_release]
      exact (hboth k).release
    · rw [RequestMemory.storage_release]
      exact (hboth k).read_release hm
  | none =>
    rw [hget] at hperm
    exact ⟨⟨hsorted.insert name r, fun k => (hholds k).perm (hperm k).symm⟩, rfl,
      fun k m hm => rfl⟩

/-- A build stores the request that it makes, and leaves the content behind other handles. -/
theorem Sound.step (h : s.Sound) (b : Build) :
    (s.step b).Sound ∧ (s.step b).slots = s.slots.insert b.name (s.edited b).1 ∧
      (s.step b).memory.view (s.edited b).1 = s.built b ∧
      ∀ k, ∀ m ∈ s.held k, m ∈ (s.step b).held k →
        ((s.step b).memory.storage k).read m = (s.memory.storage k).read m := by
  let unstored : RequestStore := { s with memory := (s.edited b).2 }
  have hstep : s.step b = unstored.store b.name (s.edited b).1 := rfl
  have hsorted : unstored.slots.Sorted := h.sorted
  have hholds : ∀ k, (unstored.memory.storage k).Holds ((s.edited b).1.handle k ::
      unstored.held k) := fun k => (h.edited k).holds
  obtain ⟨hsound, hslots, hread⟩ := store_sound b.name hsorted hholds
  rw [← hstep] at hsound hslots hread
  have hget : (s.step b).slots.get? b.name = some (s.edited b).1 := by
    rw [hslots, Table.get?_insert, if_pos rfl]
  refine ⟨hsound, hslots, ?_, fun k m hm hm' => ?_⟩
  · exact RequestMemory.view_congr _ fun k => hread k _ (handle_mem_held hget k)
  · exact (hread k m hm').trans ((h.edited k).spared m hm)

theorem Sound.run (h : s.Sound) (builds : List Build) : (s.run builds).Sound := by
  induction builds generalizing s with
  | nil => exact h
  | cons b builds ih => exact ih (h.step b).1

/-! ### Any builds -/

/-- What one more build does to a store. -/
structure CopiesOnWrite (s : RequestStore) (b : Build) : Prop where
  /-- The request is stored under its name, -/
  stored : (s.step b).requests.get? b.name = some (s.built b)
  /-- all others are what they were, -/
  others : ∀ name, name ≠ b.name → (s.step b).requests.get? name = s.requests.get? name
  /-- and where two share the storage of a collection, it is the same in both. -/
  alike : ∀ name name' r r' k, (s.step b).requests.get? name = some r →
    (s.step b).requests.get? name' = some r' → r.shares r' k = true → r.content k = r'.content k
  /-- The edits have done what they do to a request that shares nothing. -/
  content : ∀ k, (s.built b).content k =
    (((s.origin? b).getD (.blank 0)).edits 0 b.edits).content k
  /-- A collection is shared with the origin if and only if no edit has taken effect on it, -/
  derived : ∀ o, s.origin? b = some o → ∀ k,
    ((s.built b).shares o k = true ↔ Edit.touched k (o.content k) b.edits = false)
  /-- so that the collections count as shared if and only if that goes for each of them, -/
  collections : ∀ o, s.origin? b = some o → ((s.built b).sharesCollections o = true ↔
    ∀ k, k ≠ .attachments → Edit.touched k (o.content k) b.edits = false)
  /-- and with other stored requests only if it is and they shared it with the origin. -/
  apart : ∀ name r k, s.requests.get? name = some r → (s.built b).shares r k = true →
    ∃ o, s.origin? b = some o ∧ o.shares r k = true ∧
      Edit.touched k (o.content k) b.edits = false

theorem content_eq_of_shares {name name' : String} {r r' : Request} {k : Collection}
    (hr : s.requests.get? name = some r) (hr' : s.requests.get? name' = some r')
    (hshares : r.shares r' k = true) : r.content k = r'.content k := by
  obtain ⟨x, -, rfl⟩ := get?_requests_eq_some hr
  obtain ⟨x', -, rfl⟩ := get?_requests_eq_some hr'
  rw [RequestMemory.shares_view, decide_eq_true_iff] at hshares
  rw [RequestMemory.content_view, RequestMemory.content_view, hshares]

/-- A build copies what it changes, however the store has come about. -/
theorem Sound.copiesOnWrite (h : s.Sound) (b : Build) : s.CopiesOnWrite b := by
  obtain ⟨-, hslots, hview, hspared⟩ := h.step b
  have hstarts : s.Starts b _ _ := h.start
  have hbuilt : s.built b = (s.edited b).2.view (s.edited b).1 := rfl
  have hget : (s.step b).slots.get? b.name = some (s.edited b).1 := by
    rw [hslots, Table.get?_insert, if_pos rfl]
  have hinitial : ∀ o, s.origin? b = some o → ∀ k, s.initial b k = o.content k := fun o ho k => by
    rw [initial, ho, Option.getD_some]
  have hderived : ∀ o, s.origin? b = some o → ∀ k,
      ((s.built b).shares o k = true ↔ Edit.touched k (o.content k) b.edits = false) := by
    intro o ho k
    obtain ⟨rfl, hmem⟩ := hstarts.derived o ho
    rw [hbuilt, RequestMemory.shares_view, decide_eq_true_iff, ← hinitial _ ho k]
    refine ⟨fun hsame => ?_, (h.edited k).stays⟩
    rw [← Bool.not_eq_true]
    exact fun htouched => (h.edited k).apart htouched (hsame ▸ hmem k)
  refine ⟨?_, fun name hname => ?_, fun name name' r r' k hr hr' => content_eq_of_shares hr hr',
    fun k => ?_, hderived, fun o ho => ?_, fun name r k hr hshares => ?_⟩
  · rw [get?_requests, hget, Option.map_some, hview]
  · -- The handles of the others are out before and after.
    have hsame : (s.step b).slots.get? name = s.slots.get? name := by
      rw [hslots, Table.get?_insert, if_neg hname]
    rw [get?_requests, get?_requests, hsame]
    cases hr : s.slots.get? name with
    | none => rfl
    | some r =>
      refine congrArg some (RequestMemory.view_congr r fun k => ?_)
      exact hspared k _ (handle_mem_held hr k) (handle_mem_held (hsame.trans hr) k)
  · rw [Request.content_edits, hbuilt, RequestMemory.content_view]
    exact (h.edited k).value
  · rw [Request.sharesCollections_eq, Bool.and_eq_true, Bool.and_eq_true, hderived o ho,
      hderived o ho, hderived o ho]
    refine ⟨fun ⟨⟨hpath, hquery⟩, hheaders⟩ k hk => ?_, fun hall => ⟨⟨hall .path nofun,
      hall .query nofun⟩, hall .headers nofun⟩⟩
    cases k with
    | path => exact hpath
    | query => exact hquery
    | headers => exact hheaders
    | attachments => exact absurd rfl hk
  · obtain ⟨x, hx, rfl⟩ := get?_requests_eq_some hr
    rw [hbuilt, RequestMemory.shares_view, decide_eq_true_iff] at hshares
    have hmem : (s.edited b).1.handle k ∈ s.held k := hshares ▸ handle_mem_held hx k
    have huntouched : Edit.touched k (s.initial b k) b.edits = false := by
      rw [← Bool.not_eq_true]
      exact fun htouched => (h.edited k).apart htouched hmem
    have hstays : (s.edited b).1.handle k = (s.start b.from?).1.handle k :=
      (h.edited k).stays huntouched
    cases ho : s.origin? b with
    | none => exact absurd (hstays ▸ hmem) (hstarts.blank ho k)
    | some o =>
      obtain ⟨rfl, -⟩ := hstarts.derived o ho
      refine ⟨_, rfl, ?_, (hinitial _ ho k) ▸ huntouched⟩
      rw [RequestMemory.shares_view, decide_eq_true_iff]
      exact hstays.symm.trans hshares

/-- After any builds, one more build changes no other stored request. What it makes is in
storage of its own except for the collections that no edit has taken effect on, which are in
the storage that the request it was derived from has them in. -/
theorem run_copiesOnWrite (builds : List Build) (b : Build) :
    (empty.run builds).CopiesOnWrite b :=
  (empty_sound.run builds).copiesOnWrite b

/-- To remove what is not there leaves the query where it is; the headers are copied once. -/
example :
    let s := empty.run [⟨"list", none, [.query "page" "1"]⟩]
    let next : Build := ⟨"next", some "list", [.unquery "size", .header "a" [], .header "b" []]⟩
    (s.built next).query = ⟨0, [("page", "1")]⟩ ∧
      (s.built next).headers = ⟨1, [("a", [[]]), ("b", [[]])]⟩ := by
  decide +kernel

end RequestStore

end RpcPipeline
