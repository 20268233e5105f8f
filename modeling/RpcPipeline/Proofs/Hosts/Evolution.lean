import RpcPipeline.Proofs.Hosts.Acts
import RpcPipeline.Proofs.Number.Exact

/-!
# `RpcPipeline.Proofs.Hosts.Evolution`: how the hosts in use change

Whenever the hosts in use are looked at, they are brought up to date with the settings and with
what names were resolved to. A host whose identity stays is the same server afterwards: it is
still busy with its calls, what was learnt about its latency is kept, and so is its exclusion.
Only its settings are the present ones, and its limit is brought within their bounds. Servers
are set up for the identities that enter, once for each, and for no others.

* `Fleet.Evolves`: what looking at the hosts does, in full.
* `Governed.evolves`: it does so in every fleet that is governed by valid settings.
* `Fleet.run_evolves`: in particular after anything that can happen to a fleet.
-/

set_option autoImplicit false

namespace RpcPipeline

variable {α : Type} [Scalar α]

namespace Fleet

variable {f f' : Fleet α}

/-- What looking at the hosts in use does. -/
structure Evolves (f f' : Fleet α) : Prop where
  /-- No identity is in use twice, and those in use follow from settings and names alone. -/
  nodup : f'.ids.Nodup
  ids : ∀ id, id ∈ f'.ids ↔
    id ∈ (Placement.all f.config.value (f.dns.map (·.value))).map Placement.id
  /-- With the same identities as before, the hosts in use are the very same servers. -/
  unchanged : (∀ id, id ∈ f'.ids ↔ id ∈ f.ids) → f'.version = f.version ∧ f'.members = f.members
  changed : ¬(∀ id, id ∈ f'.ids ↔ id ∈ f.ids) → f'.version = f.version + 1
  /-- A host that stays is the same server, with the present settings. -/
  kept : ∀ (n : Nat) (h : Server α), (n, h) ∈ f.hosts → h.id ∈ f'.ids →
    (n, { h with limiter := { h.limiter with
      config := f.config.value.limit
      limit := Scalar.clamp h.limiter.limit f.config.value.limit.minLimit
        f.config.value.limit.maxLimit } }) ∈ f'.hosts
  blacklist : ∀ id, id ∈ f.ids → id ∈ f'.ids →
    Blacklist.Agrees f.outside.now id f.blacklist f'.blacklist
  /-- A host that enters is a new server at one of the placements. -/
  entered : ∀ (n : Nat) (h : Server α), (n, h) ∈ f'.hosts → h.id ∉ f.ids →
    f.servers.size ≤ n ∧ ∃ p ∈ f.fresh, h = f.build p
  /-- What is reported as set up are these servers, in the order of their placements. -/
  creations : f'.outside.creations =
    ((f.entering f.fresh).map Placement.creation).reverse ++ f.outside.creations
  /-- There is one for each identity that enters, and none for any other one. -/
  once : ∀ id, ((f.entering f.fresh).map Placement.id).count id =
    if id ∈ f'.ids ∧ id ∉ f.ids then 1 else 0
  limits : ∀ (n : Nat) (h : Server α), (n, h) ∈ f'.hosts →
    h.limiter.config = f.config.value.limit ∧
      f.config.value.limit.minLimit ≤ h.limiter.limit ∧
      h.limiter.limit ≤ f.config.value.limit.maxLimit

omit [Scalar α] in
/-- The identities that enter are those that there should be and that are not in use yet. -/
theorem count_entering (f : Fleet α) (id : HostId) :
    ((f.entering f.fresh).map Placement.id).count id =
      if id ∈ f.due ∧ id ∉ f.ids then 1 else 0 := by
  have hnodup : ((f.entering f.fresh).map Placement.id).Nodup :=
    f.due_nodup.sublist (List.filter_sublist.map Placement.id)
  have hmem : id ∈ (f.entering f.fresh).map Placement.id ↔ id ∈ f.due ∧ id ∉ f.ids := by
    simp only [entering, due_eq, List.mem_map, List.mem_filter, decide_eq_true_iff]
    constructor
    · rintro ⟨p, ⟨hp, hnot⟩, rfl⟩
      exact ⟨⟨p, hp, rfl⟩, hnot⟩
    · rintro ⟨⟨p, hp, rfl⟩, hnot⟩
      exact ⟨p, ⟨hp, hnot⟩, rfl⟩
  rw [hnodup.count, if_congr hmem rfl rfl]

/-- Setting the hosts in use does not concern what is kept about a host that stays. -/
theorem Rebuilds.agrees (h : f.Rebuilds f') (hs : f.blacklist.Sorted) {id : HostId}
    (hdue : id ∈ f.due) : Blacklist.Agrees f.outside.now id f.blacklist f'.blacklist := by
  have hheeding := f.blacklist.configure_agrees f.config.value.blacklist f.outside.now id
  cases h with
  | same _ hplaces =>
    rw [hplaces.blacklist]
    exact hheeding
  | changed _ hplaces =>
    -- What is forgotten now concerns hosts that have left, or has expired.
    have hnow := hplaces.grows.now
    refine hheeding.trans ?_
    dsimp only
    rw [hplaces.blacklist, hnow]
    exact (hs.configure f.config.value.blacklist).retain_agrees f.outside.now hdue

variable [Scalar.Ordered α]

theorem Rebuilds.evolves (h : f.Rebuilds f') (hg : f.Governed) : f.Evolves f' := by
  have ho := hg.orderly
  obtain ⟨hnodup, hids⟩ := h.mem_ids ho
  have hsettled : (∀ id, id ∈ f'.ids ↔ id ∈ f.ids) ↔ f.Settled :=
    ⟨fun hsame id => (hsame id).symm.trans (hids id),
      fun hsame id => (hids id).trans (hsame id).symm⟩
  refine
    { nodup := hnodup
      ids := hids
      unchanged := fun hsame => (h.members_of_settled (hsettled.mp hsame)).symm
      changed := fun hother => h.version_of_not_settled fun hsame => hother (hsettled.mpr hsame)
      kept := fun n server hmem hid => h.kept ho.nodup hmem ((hids _).mp hid)
      blacklist := fun id _ hid => h.agrees hg.blacklist ((hids id).mp hid)
      entered := fun n server hmem hnot => ?_
      creations := h.creations
      once := fun id => ?_
      limits := fun n server hmem => ?_ }
  · rcases h.hosts ho.current.valid ho.nodup hmem with ⟨server₀, hmem₀, rfl⟩ | ⟨p, hp, -, hle, heq⟩
    · -- A server that was in use before did not enter.
      exact absurd (List.mem_map_of_mem hmem₀) hnot
    · exact ⟨hle, p, hp, heq⟩
  · rw [count_entering]
    exact if_congr (and_congr_left' (hids id).symm) rfl rfl
  · obtain ⟨hconfig, hbounded⟩ := h.limits hg hmem
    rw [← hconfig]
    exact ⟨rfl, hbounded.le_limit, hbounded.limit_le⟩

/-- A fleet that has seen its sources has nothing to change. -/
theorem Governed.evolves_self (h : f.Governed) (hseen : f.seen = some f.sources) :
    f.Evolves f := by
  have hids := h.orderly.current.fresh hseen
  have hentering : f.entering f.fresh = [] := by
    refine List.filter_eq_nil_iff.mpr fun p hp => ?_
    have hin : p.id ∈ f.ids := (hids p.id).mpr (List.mem_map_of_mem hp)
    simpa using hin
  have hlimits : ∀ (n : Nat) (server : Server α), (n, server) ∈ f.hosts →
      server.limiter.config = f.config.value.limit ∧ server.limiter.Bounded := by
    intro n server hmem
    obtain ⟨hmember, hget⟩ := mem_hosts.mp hmem
    exact ⟨h.configured hseen n server hmember hget, h.bounded n server hget⟩
  refine
    { nodup := h.orderly.nodup
      ids := hids
      unchanged := fun _ => ⟨rfl, rfl⟩
      changed := fun hother => absurd (fun _ => Iff.rfl) hother
      kept := fun n server hmem _ => ?_
      blacklist := fun id _ _ => .refl _ id _
      entered := fun n server hmem hnot => absurd (List.mem_map_of_mem hmem) hnot
      creations := ?_
      once := fun id => ?_
      limits := fun n server hmem => ?_ }
  · -- The limit is within the present bounds already.
    obtain ⟨hconfig, hbounded⟩ := hlimits n server hmem
    rw [← hconfig, hbounded.clamp_eq]
    exact hmem
  · rw [hentering]
    rfl
  · rw [hentering, if_neg fun hboth => hboth.2 hboth.1]
    rfl
  · obtain ⟨hconfig, hbounded⟩ := hlimits n server hmem
    rw [← hconfig]
    exact ⟨rfl, hbounded.le_limit, hbounded.limit_le⟩

theorem Governed.evolves (h : f.Governed) : f.Evolves f.refresh := by
  by_cases hseen : f.seen = some f.sources
  · rw [refresh_of_seen hseen]
    exact h.evolves_self hseen
  · obtain ⟨f', hrebuilds, hrefresh⟩ :=
      refresh_rebuilds h.orderly.current.valid h.orderly.nodup hseen
    -- That the sources have been seen concerns none of this.
    have hevolves := hrebuilds.evolves h
    rw [hrefresh]
    exact
      { nodup := hevolves.nodup
        ids := hevolves.ids
        unchanged := hevolves.unchanged
        changed := hevolves.changed
        kept := hevolves.kept
        blacklist := hevolves.blacklist
        entered := hevolves.entered
        creations := hevolves.creations
        once := hevolves.once
        limits := hevolves.limits }

/-! ### Every run -/

omit [Scalar.Ordered α] in
/-- Nothing but looking at the hosts changes which ones are in use. -/
theorem act_members (f : Fleet α) {a : Act α} (ha : a ≠ .look) :
    (f.act a).members = f.members ∧ (f.act a).ids = f.ids ∧ (f.act a).version = f.version := by
  have hsteps := f.act_steps a
  generalize f.act a = f' at hsteps
  cases hsteps with
  | look => exact absurd rfl ha
  | update config => exact ⟨rfl, rfl, rfl⟩
  | publish snapshot => exact ⟨rfl, rfl, rfl⟩
  | use _ huses => exact ⟨huses.stays.members, huses.same_ids, huses.version⟩

/-- Let a fleet start with valid settings. Settings may be replaced by valid ones, addresses may
be published, hosts may be looked at, used, excluded and pardoned, all in any order. Whenever
the hosts are looked at, they are brought up to date as `Evolves` says. In between, those in
use stay, and so does their version. -/
theorem run_evolves {config : Cell (ClientConfig α)} (hconfig : config.value.validate = .ok ())
    (outside : Outside α) (dns : Option (Cell DnsSnapshot)) (settings : BlacklistConfig α)
    (random : RandomStream) {acts : List (Act α)} (hacts : ∀ a ∈ acts, a.Valid) :
    ((new outside config dns (.new settings random)).run acts).Evolves
        (((new outside config dns (.new settings random)).run acts).act .look) ∧
      ∀ (f : Fleet α) (a : Act α), a ≠ .look →
        (f.act a).members = f.members ∧ (f.act a).ids = f.ids ∧
          (f.act a).version = f.version := by
  have hgoverned := (new_governed hconfig outside dns settings random).run hacts
  exact ⟨hgoverned.evolves, fun f a ha => f.act_members ha⟩

/-- Settings with some hosts, each of which starts with room for two calls. -/
def roomy (uris : List String) : ClientConfig Rat :=
  { ClientConfig.standard with
    uris := uris, limit := { LimitConfig.standard with initialLimit := 2 } }

/-- A host is sent a call. Then another host is put before it, and the limit may be no more than
three halves. -/
def joined : List (Act Rat) :=
  [.look, .offer 0 "catalog.list",
    .update { roomy ["https://b.example", "https://a.example"] with
      limit := { LimitConfig.standard with initialLimit := 1, maxLimit := 3 / 2 } }]

theorem run_evolves_joined :
    ∃ f : Fleet Rat, f = (new .start (.new (roomy ["https://a.example"])) none
        (.new BlacklistConfig.standard (.ofSeed 0))).run joined ∧
      f.Evolves (f.act .look) ∧ f.version = 1 ∧ (f.act .look).version = 2 ∧
      f.ids.map HostId.text = ["https://a.example:443"] ∧
      (f.act .look).hosts.map (fun (n, h) => (n, h.id.text, h.limiter.inFlight, h.limiter.limit)) =
        [(1, "https://b.example:443", 0, 1), (0, "https://a.example:443", 1, 3 / 2)] := by
  have hconfig : (Cell.new (roomy ["https://a.example"])).value.validate = .ok () :=
    eq_ok_of_isOk (by decide +kernel)
  have hacts : ∀ a ∈ joined, a.Valid := by
    intro a ha
    simp only [joined, List.mem_cons, List.not_mem_nil, or_false] at ha
    rcases ha with rfl | rfl | rfl
    · trivial
    · trivial
    · exact eq_ok_of_isOk (by decide +kernel)
  have hevolves :=
    (run_evolves hconfig .start none BlacklistConfig.standard (.ofSeed 0) hacts).1
  exact ⟨_, rfl, hevolves, by decide +kernel, by decide +kernel, by decide +kernel,
    by decide +kernel⟩

end Fleet

end RpcPipeline
