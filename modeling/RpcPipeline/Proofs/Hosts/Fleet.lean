import Mathlib.Data.List.Perm.Basic
import RpcPipeline.Hosts.Fleet

/-!
# `RpcPipeline.Proofs.Hosts.Fleet`: the hosts in use are those that there should be

The hosts that there should be follow from the settings and from what names were
resolved to (`Fleet.due`). `Fleet.Current` says that the hosts in use are these, as long
as the fleet has seen the present versions of both.

* `refresh_matches`, `refresh_current`: bringing the fleet up to date establishes that.
* `Fleet.Stays`: what it means that the hosts are left alone.
* `Fleet.Grows`, `Fleet.Carries`: setting up hosts does not concern calls.
-/

set_option autoImplicit false

namespace RpcPipeline

variable {α : Type}

/-- The cell is the same, or its value was replaced since. -/
def Cell.Later {τ : Type} (c c' : Cell τ) : Prop := c' = c ∨ c.version < c'.version

/-- The call to a host that an event reports. -/
def Event.call? : Event α → Option (String × String)
  | .called hostname endpoint => some (hostname, endpoint)
  | _ => none

/-- None of the events is a call. -/
def Silent (events : List (Event α)) : Prop := ∀ e ∈ events, e.call? = none

theorem silent_nil : Silent ([] : List (Event α)) := fun e he => by cases he

theorem Silent.append {events more : List (Event α)} (h : Silent events) (h' : Silent more) :
    Silent (events ++ more) := by
  intro e he
  rcases List.mem_append.mp he with he | he
  · exact h e he
  · exact h' e he

/-- All calls that went out to hosts, the latest first. -/
def Outside.calls (o : Outside α) : List (String × String) := o.log.filterMap Event.call?

/-- Reporting something else is not a call. -/
theorem Outside.calls_emit {o : Outside α} {events : List (Event α)}
    (h : Silent events) : (o.emit events).calls = o.calls := by
  have hnone : events.reverse.filterMap Event.call? = [] := by
    rw [List.filterMap_eq_nil_iff]
    intro e he
    exact h e (List.mem_reverse.mp he)
  rw [Outside.calls, Outside.emit, List.filterMap_append, hnone, List.nil_append]
  rfl

theorem Outside.calls_dial (o : Outside α) (hostname endpoint : String) :
    (o.dial hostname endpoint).2.calls = (hostname, endpoint) :: o.calls := by
  simp [Outside.dial, Outside.calls, Outside.emit, Event.call?]

namespace Fleet

variable {f f' f'' : Fleet α}

theorem mem_hosts {serial : Nat} {h : Server α} :
    (serial, h) ∈ f.hosts ↔ serial ∈ f.members ∧ f.servers[serial]? = some h := by
  simp only [hosts, List.mem_filterMap, Option.map_eq_some_iff, Prod.mk.injEq]
  constructor
  · rintro ⟨n, hn, h', hget, rfl, rfl⟩
    exact ⟨hn, hget⟩
  · rintro ⟨hn, hget⟩
    exact ⟨serial, hn, h, hget, rfl, rfl⟩

theorem mem_ids {id : HostId} :
    id ∈ f.ids ↔ ∃ serial ∈ f.members, (f.servers[serial]?).map Server.id = some id := by
  simp only [ids, List.mem_map, Prod.exists, mem_hosts, Option.map_eq_some_iff]
  constructor
  · rintro ⟨serial, h, ⟨hn, hget⟩, rfl⟩
    exact ⟨serial, hn, h, hget, rfl⟩
  · rintro ⟨serial, hn, h, hget, rfl⟩
    exact ⟨serial, h, ⟨hn, hget⟩, rfl⟩

/-- A host that is found is in use, and has the identity that it was looked for by. -/
theorem find?_spec {id : HostId} {serial : Nat} {h : Server α}
    (hfind : f.find? id = some (serial, h)) :
    serial ∈ f.members ∧ f.servers[serial]? = some h ∧ h.id = id := by
  have hmem := mem_hosts.mp (List.mem_of_find?_eq_some hfind)
  have hid := List.find?_some hfind
  exact ⟨hmem.1, hmem.2, of_decide_eq_true hid⟩

theorem getElem?_setLimiter (f : Fleet α) (n m : Nat) (l : Limiter α) :
    (f.setLimiter n l).servers[m]? =
      if n = m then (f.servers[m]?).map fun h => { h with limiter := l } else f.servers[m]? :=
  Array.getElem?_modify

/-- The limiter that a server has already changes nothing. -/
theorem setLimiter_self {serial : Nat} {h : Server α} (hget : f.servers[serial]? = some h) :
    f.setLimiter serial h.limiter = f := by
  have hservers : (f.setLimiter serial h.limiter).servers = f.servers := by
    refine Array.ext_getElem? fun n => ?_
    rw [getElem?_setLimiter]
    split
    · next heq =>
      subst heq
      rw [hget]
      rfl
    · rfl
  show { f with servers := (f.setLimiter serial h.limiter).servers } = f
  rw [hservers]

/-! ### What leaves the hosts alone -/

/-- The sources are the same, and so are the hosts in use, up to their limiters. -/
structure Stays (f f' : Fleet α) : Prop where
  config : f'.config = f.config
  dns : f'.dns = f.dns
  seen : f'.seen = f.seen
  members : f'.members = f.members
  ids : ∀ serial : Nat, (f'.servers[serial]?).map Server.id = (f.servers[serial]?).map Server.id

theorem Stays.refl (f : Fleet α) : f.Stays f := ⟨rfl, rfl, rfl, rfl, fun _ => rfl⟩

theorem Stays.trans (h : f.Stays f') (h' : f'.Stays f'') : f.Stays f'' :=
  ⟨h'.config.trans h.config, h'.dns.trans h.dns, h'.seen.trans h.seen,
    h'.members.trans h.members, fun n => (h'.ids n).trans (h.ids n)⟩

theorem Stays.mem_ids (h : f.Stays f') {id : HostId} : id ∈ f'.ids ↔ id ∈ f.ids := by
  simp only [Fleet.mem_ids, h.members, h.ids]

theorem Stays.sources (h : f.Stays f') : f'.sources = f.sources := by
  rw [Fleet.sources, h.config, h.dns]
  rfl

theorem setLimiter_stays (f : Fleet α) (serial : Nat) (l : Limiter α) :
    f.Stays (f.setLimiter serial l) := by
  refine ⟨rfl, rfl, rfl, rfl, fun n => ?_⟩
  rw [getElem?_setLimiter]
  split
  · cases f.servers[n]? <;> rfl
  · rfl

/-! ### Bringing the fleet up to date -/

/-- The identities of the hosts that there should be. -/
def due (f : Fleet α) : List HostId :=
  (Placement.all f.config.value (f.dns.map (·.value))).map Placement.id

/-- The hosts in use are those that there should be, if the fleet has seen the present
sources. It has never seen later ones. -/
structure Current (f : Fleet α) : Prop where
  valid : ∀ n : Nat, n ∈ f.members → (f.servers[n]?).isSome
  fresh : f.seen = some f.sources → ∀ id, id ∈ f.ids ↔ id ∈ f.due
  config_le : ∀ src, f.seen = some src → src.config ≤ f.config.version
  dns_le : ∀ src v cell, f.seen = some src → src.dns = some v → f.dns = some cell →
    v ≤ cell.version

theorem new_current (outside : Outside α) (config : Cell (ClientConfig α))
    (dns : Option (Cell DnsSnapshot)) (blacklist : Blacklist α) :
    (new outside config dns blacklist).Current where
  valid n hn := by cases hn
  fresh h := by cases h
  config_le _ h := by cases h
  dns_le _ _ _ h := by cases h

theorem Stays.due (h : f.Stays f') : f'.due = f.due := by
  rw [Fleet.due, Fleet.due, h.config, h.dns]

theorem Current.stays (hc : f.Current) (h : f.Stays f') : f'.Current where
  valid n hn := by
    have hsome := congrArg Option.isSome (h.ids n)
    rw [Option.isSome_map, Option.isSome_map] at hsome
    rw [hsome]
    exact hc.valid n (h.members ▸ hn)
  fresh hs id := by
    rw [h.seen, h.sources] at hs
    rw [h.mem_ids, h.due]
    exact hc.fresh hs id
  config_le src hs := by
    rw [h.config]
    exact hc.config_le src (h.seen ▸ hs)
  dns_le src v cell hs := by
    rw [h.dns]
    exact hc.dns_le src v cell (h.seen ▸ hs)

/-- New settings have not been seen. -/
theorem Current.update (hc : f.Current) (config : ClientConfig α) :
    { f with config := f.config.update config }.Current where
  valid := hc.valid
  fresh hs := by
    -- The fleet has seen no version as late as this one.
    have hle := hc.config_le _ hs
    have hlt : f.config.version < (f.config.update config).version := Nat.lt_succ_self _
    exact absurd hle (Nat.not_le_of_gt hlt)
  config_le src hs := Nat.le_succ_of_le (hc.config_le src hs)
  dns_le := hc.dns_le

/-- What is published anew has not been seen. -/
theorem Current.publish (hc : f.Current) {cell cell' : Cell DnsSnapshot}
    (hcell : f.dns = some cell) (h : cell.Later cell') :
    { f with dns := some cell' }.Current := by
  rcases h with rfl | hlt
  · have hsame : { f with dns := some cell' } = f := by rw [← hcell]
    rw [hsame]
    exact hc
  · refine ⟨hc.valid, fun hs => ?_, hc.config_le, fun src v c hs hv hc' => ?_⟩
    · have hle := hc.dns_le _ cell'.version cell hs rfl hcell
      exact absurd hlt (Nat.not_lt_of_le hle)
    · cases hc'
      exact Nat.le_trans (hc.dns_le src v cell hs hv hcell) (Nat.le_of_lt hlt)

/-- The number of calls that a server is busy with. -/
def load (f : Fleet α) (serial : Nat) : Nat :=
  ((f.servers[serial]?).map fun h => h.limiter.inFlight).getD 0

/-- Servers are set up or take over new settings. Nothing that was sent, and nothing
that is under way, is concerned. -/
structure Grows (f f' : Fleet α) : Prop where
  config : f'.config = f.config
  dns : f'.dns = f.dns
  seen : f'.seen = f.seen
  members : f'.members = f.members
  sent : f'.sent = f.sent
  now : f'.outside.now = f.outside.now
  calls : f'.outside.calls = f.outside.calls
  ids : ∀ (n : Nat) (id : HostId), (f.servers[n]?).map Server.id = some id →
    (f'.servers[n]?).map Server.id = some id
  load : ∀ n, f'.load n = f.load n

theorem Grows.refl (f : Fleet α) : f.Grows f :=
  ⟨rfl, rfl, rfl, rfl, rfl, rfl, rfl, fun _ _ h => h, fun _ => rfl⟩

theorem Grows.trans (h : f.Grows f') (h' : f'.Grows f'') : f.Grows f'' :=
  ⟨h'.config.trans h.config, h'.dns.trans h.dns, h'.seen.trans h.seen,
    h'.members.trans h.members, h'.sent.trans h.sent, h'.now.trans h.now,
    h'.calls.trans h.calls, fun n id hid => h'.ids n id (h.ids n id hid),
    fun n => (h'.load n).trans (h.load n)⟩

/-- Hosts in use keep their identities while others are set up. -/
theorem Grows.ids_eq (h : f.Grows f') (hv : ∀ n : Nat, n ∈ f.members → (f.servers[n]?).isSome)
    {n : Nat} (hn : n ∈ f.members) :
    (f'.servers[n]?).map Server.id = (f.servers[n]?).map Server.id := by
  obtain ⟨server, hget⟩ := Option.isSome_iff_exists.mp (hv n hn)
  have hid : (f.servers[n]?).map Server.id = some server.id := by
    rw [hget]
    rfl
  rw [h.ids n server.id hid, hid]

theorem Grows.valid (h : f.Grows f') (hv : ∀ n : Nat, n ∈ f.members → (f.servers[n]?).isSome) :
    ∀ n : Nat, n ∈ f'.members → (f'.servers[n]?).isSome := by
  intro n hn
  have hn' : n ∈ f.members := h.members ▸ hn
  have hsome := congrArg Option.isSome (h.ids_eq hv hn')
  rw [Option.isSome_map, Option.isSome_map] at hsome
  rw [hsome]
  exact hv n hn'

theorem Grows.mem_ids (h : f.Grows f') (hv : ∀ n : Nat, n ∈ f.members → (f.servers[n]?).isSome)
    {id : HostId} : id ∈ f'.ids ↔ id ∈ f.ids := by
  rw [Fleet.mem_ids, Fleet.mem_ids, h.members]
  constructor
  · rintro ⟨n, hn, hid⟩
    exact ⟨n, hn, by rw [← h.ids_eq hv hn, hid]⟩
  · rintro ⟨n, hn, hid⟩
    exact ⟨n, hn, by rw [h.ids_eq hv hn, hid]⟩

/-- If the hosts in use are the servers at some placements, they are as these say. -/
theorem mem_ids_of_placed {ps : List Placement}
    (h : f.members.map (fun n => (f.servers[n]?).map Server.id) = ps.map fun p => some p.id) :
    (∀ n : Nat, n ∈ f.members → (f.servers[n]?).isSome) ∧
      ∀ id, id ∈ f.ids ↔ id ∈ ps.map Placement.id := by
  have hplaced : ∀ n : Nat, n ∈ f.members → ∃ p ∈ ps,
      (f.servers[n]?).map Server.id = some p.id := by
    intro n hn
    have hmem := List.mem_map_of_mem (f := fun n : Nat => (f.servers[n]?).map Server.id) hn
    rw [h] at hmem
    obtain ⟨p, hp, heq⟩ := List.mem_map.mp hmem
    exact ⟨p, hp, heq.symm⟩
  refine ⟨fun n hn => ?_, fun id => ?_⟩
  · obtain ⟨p, -, hid⟩ := hplaced n hn
    rw [← Option.isSome_map (f := Server.id), hid]
    rfl
  · rw [mem_ids]
    constructor
    · rintro ⟨n, hn, hid⟩
      obtain ⟨p, hp, hpid⟩ := hplaced n hn
      have heq : some p.id = some id := hpid.symm.trans hid
      cases heq
      exact List.mem_map_of_mem hp
    · intro hid
      obtain ⟨p, hp, rfl⟩ := List.mem_map.mp hid
      have hmem : some p.id ∈ ps.map fun p => some p.id := List.mem_map_of_mem hp
      rw [← h] at hmem
      obtain ⟨n, hn, heq⟩ := List.mem_map.mp hmem
      exact ⟨n, hn, heq⟩

/-- A limiter that is busy with as many calls does not change the load. -/
theorem load_setLimiter {serial : Nat} {h : Server α} (hget : f.servers[serial]? = some h)
    {l : Limiter α} (hl : l.inFlight = h.limiter.inFlight) (n : Nat) :
    (f.setLimiter serial l).load n = f.load n := by
  rw [load, load, getElem?_setLimiter]
  split
  · next heq =>
    subst heq
    rw [hget]
    simp [hl]
  · rfl

variable [Scalar α]

theorem reconfigure_grows (f : Fleet α) (serial : Nat) : f.Grows (f.reconfigure serial) := by
  unfold reconfigure
  split
  · next h hget =>
    have hstays := f.setLimiter_stays serial (h.limiter.configure f.config.value.limit).1
    refine ⟨rfl, rfl, rfl, rfl, rfl, rfl, ?_, fun n id hid => ?_, fun n => ?_⟩
    · exact Outside.calls_emit (by simp [Silent, Event.call?])
    · exact (hstays.ids n).trans hid
    · exact load_setLimiter (l := (h.limiter.configure f.config.value.limit).1) hget rfl n
  · exact .refl f

omit [Scalar α] in
theorem create_grows (f : Fleet α) (p : Placement) :
    f.Grows (f.create p).2 ∧
      ((f.create p).2.servers[(f.create p).1]?).map Server.id = some p.id := by
  have hpush : ∀ n, (f.create p).2.servers[n]? =
      if n = f.servers.size then
        some ⟨p.id, p.target, p.address, .new p.id.text f.config.value.limit f.outside.now⟩
      else f.servers[n]? := fun n => Array.getElem?_push
  refine ⟨⟨rfl, rfl, rfl, rfl, rfl, rfl, ?_, fun n id hid => ?_, fun n => ?_⟩, ?_⟩
  · exact Outside.calls_emit (by simp [Silent, Event.call?])
  · rw [hpush, if_neg]
    · exact hid
    · rintro rfl
      rw [Array.getElem?_eq_none (Nat.le_refl _)] at hid
      cases hid
  · rw [load, load, hpush]
    split
    · next heq =>
      -- A new server is not busy, and neither is one that is not there.
      subst heq
      rw [Array.getElem?_eq_none (Nat.le_refl _)]
      rfl
    · rfl
  · rw [hpush]
    show Option.map Server.id (if f.servers.size = f.servers.size then _ else _) = _
    rw [if_pos rfl]
    rfl

/-- The server at a placement has its identity. -/
theorem place_grows (f : Fleet α) (p : Placement) :
    f.Grows (f.place p).2 ∧
      ((f.place p).2.servers[(f.place p).1]?).map Server.id = some p.id := by
  unfold place
  split
  · next serial h hfind =>
    obtain ⟨-, hget, hid⟩ := find?_spec hfind
    have hgrows := f.reconfigure_grows serial
    exact ⟨hgrows, hgrows.ids serial p.id (by rw [hget, ← hid]; rfl)⟩
  · exact f.create_grows p

theorem placeAll_grows (ps : List Placement) (f : Fleet α) :
    f.Grows (f.placeAll ps).2 ∧
      (f.placeAll ps).1.map (fun n => ((f.placeAll ps).2.servers[n]?).map Server.id) =
        ps.map fun p => some p.id := by
  induction ps generalizing f with
  | nil => exact ⟨.refl f, rfl⟩
  | cons p ps ih =>
    obtain ⟨hfirst, hid⟩ := f.place_grows p
    obtain ⟨hrest, hids⟩ := ih (f.place p).2
    refine ⟨hfirst.trans hrest, ?_⟩
    -- Later placements leave the identity of the first server alone.
    have hkept := hrest.ids _ _ hid
    show Option.map Server.id _ :: List.map _ _ = _
    rw [List.map_cons]
    exact congrArg₂ List.cons hkept hids

omit [Scalar α] in
theorem nodup_firsts (ps : List Placement) :
    ((Placement.firsts ps).map Placement.id).Nodup := by
  induction ps with
  | nil => exact List.nodup_nil
  | cons p ps ih =>
    rw [Placement.firsts, List.map_cons, List.nodup_cons]
    refine ⟨fun hmem => ?_, ?_⟩
    · obtain ⟨p', hp', hid⟩ := List.mem_map.mp hmem
      have hne := (List.mem_filter.mp hp').2
      simp [hid] at hne
    · exact ih.sublist ((List.filter_sublist ..).map _)

/-- Nothing that was sent and nothing that is under way is concerned. -/
structure Carries (f f' : Fleet α) : Prop where
  config : f'.config = f.config
  dns : f'.dns = f.dns
  sent : f'.sent = f.sent
  now : f'.outside.now = f.outside.now
  calls : f'.outside.calls = f.outside.calls
  load : ∀ n, f'.load n = f.load n

omit [Scalar α] in
theorem Carries.refl (f : Fleet α) : f.Carries f := ⟨rfl, rfl, rfl, rfl, rfl, fun _ => rfl⟩

theorem rebuild_carries (f : Fleet α) : f.Carries f.rebuild := by
  let f₁ : Fleet α := { f with blacklist := f.blacklist.configure f.config.value.blacklist }
  obtain ⟨hgrows, -⟩ := placeAll_grows (Placement.all f.config.value (f.dns.map (·.value))) f₁
  unfold rebuild
  dsimp only
  split <;>
    exact ⟨hgrows.config, hgrows.dns, hgrows.sent, hgrows.now, hgrows.calls, hgrows.load⟩

/-- The hosts in use are those that there should be. -/
structure Matches (f : Fleet α) : Prop where
  valid : ∀ n : Nat, n ∈ f.members → (f.servers[n]?).isSome
  ids : ∀ id, id ∈ f.ids ↔ id ∈ f.due

theorem rebuild_matches (hv : ∀ n : Nat, n ∈ f.members → (f.servers[n]?).isSome) :
    f.rebuild.Matches := by
  let f₁ : Fleet α := { f with blacklist := f.blacklist.configure f.config.value.blacklist }
  let placements := Placement.all f.config.value (f.dns.map (·.value))
  obtain ⟨hgrows, hserials⟩ := f₁.placeAll_grows placements
  have hdue : f.rebuild.due = f.due := by
    rw [due, due, f.rebuild_carries.config, f.rebuild_carries.dns]
  suffices h : (∀ n : Nat, n ∈ f.rebuild.members → (f.rebuild.servers[n]?).isSome) ∧
      ∀ id, id ∈ f.rebuild.ids ↔ id ∈ f.due from ⟨h.1, fun id => by rw [hdue]; exact h.2 id⟩
  clear hdue
  have hrebuild : f.rebuild = (if f.due.length = f.ids.length && f.due.all f.ids.contains then
      (f₁.placeAll placements).2
    else
      { (f₁.placeAll placements).2 with
        blacklist := (f₁.placeAll placements).2.blacklist.retain
          (f₁.placeAll placements).2.outside.now f.due
        members := (f₁.placeAll placements).1
        version := (f₁.placeAll placements).2.version + 1 }) := rfl
  rw [hrebuild]
  split
  · next hsame =>
    -- Everything that there should be is in use already, and nothing else is.
    rw [Bool.and_eq_true, decide_eq_true_iff, List.all_eq_true] at hsame
    obtain ⟨hlength, hall⟩ := hsame
    have hnodup : f.due.Nodup := nodup_firsts _
    have hsub : f.due ⊆ f.ids := fun id hid => by simpa using hall id hid
    have hperm : f.due.Perm f.ids :=
      (List.subperm_of_subset hnodup hsub).perm_of_length_le (Nat.le_of_eq hlength.symm)
    exact ⟨hgrows.valid hv, fun id => (hgrows.mem_ids hv).trans hperm.mem_iff.symm⟩
  · -- The hosts in use are the servers at the placements.
    exact mem_ids_of_placed hserials

theorem refresh_carries (f : Fleet α) : f.Carries f.refresh := by
  unfold refresh
  split
  · exact .refl f
  · have h := f.rebuild_carries
    exact ⟨h.config, h.dns, h.sent, h.now, h.calls, h.load⟩

/-- A fleet that is up to date stays as it is. -/
theorem refresh_of_seen (h : f.seen = some f.sources) : f.refresh = f := by
  unfold refresh
  rw [if_pos h]

theorem sources_refresh (f : Fleet α) : f.refresh.sources = f.sources := by
  rw [sources, f.refresh_carries.config, f.refresh_carries.dns]
  rfl

/-- A fleet that was brought up to date has seen its sources. -/
theorem seen_refresh (f : Fleet α) : f.refresh.seen = some f.refresh.sources := by
  rw [sources_refresh]
  unfold refresh
  split
  · next hseen => exact hseen
  · rfl

/-- A fleet that was brought up to date has the hosts that there should be. -/
theorem refresh_matches (hc : f.Current) : f.refresh.Matches := by
  unfold refresh
  split
  · next hseen => exact ⟨hc.valid, hc.fresh hseen⟩
  · have h := rebuild_matches hc.valid
    exact ⟨h.valid, h.ids⟩

theorem refresh_current (hc : f.Current) : f.refresh.Current where
  valid := (refresh_matches hc).valid
  fresh _ := (refresh_matches hc).ids
  config_le src hs := by
    rw [seen_refresh, Option.some.injEq] at hs
    rw [← hs]
    exact Nat.le_refl _
  dns_le src v cell hs hv hcell := by
    rw [seen_refresh, Option.some.injEq] at hs
    rw [← hs, sources, hcell] at hv
    cases hv
    exact Nat.le_refl _

end Fleet

end RpcPipeline
