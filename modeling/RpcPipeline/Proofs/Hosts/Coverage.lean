import RpcPipeline.Proofs.Config.Validation
import RpcPipeline.Proofs.Hosts.Lineup

/-!
# `RpcPipeline.Proofs.Hosts.Coverage`: every URI has its hosts

Each URI that can be read asks for one host at least, even if its name was resolved to nothing.
A host may be left out because another one has the same identity already, and it may stay from
before, when other URIs asked for it. Either way the host in use has the same base address,
since an identity tells the base address.

* `Fleet.Covers`: a URI is read, and its hosts are in use.
* `Fleet.run_target_isRead`: every host in use was asked for by some URI.
* `Fleet.run_covers`: a fleet that was brought up to date covers all URIs that can be read.
-/

set_option autoImplicit false

namespace RpcPipeline

/-! ### Placements -/

namespace Placement

/-- A target has a placement, whatever names were resolved to. -/
theorem addresses_ne_nil (t : TargetUri) (dns : Option DnsSnapshot) : addresses t dns ≠ [] := by
  unfold addresses
  split
  · exact List.cons_ne_nil _ _
  · split
    · exact List.cons_ne_nil _ _
    · exact List.cons_ne_nil _ _

theorem firsts_subset (ps : List Placement) : firsts ps ⊆ ps := by
  induction ps with
  | nil => exact List.Subset.refl _
  | cons p ps ih =>
    exact List.cons_subset_cons p fun q hq => ih (List.mem_filter.mp hq).1

/-- Leaving out placements leaves out no identity. -/
theorem ids_subset_firsts (ps : List Placement) : ps.map id ⊆ (firsts ps).map id := by
  induction ps with
  | nil => exact List.Subset.refl _
  | cons p ps ih =>
    intro i hi
    rw [firsts, List.map_cons, List.mem_cons]
    by_cases hfirst : i = p.id
    · exact .inl hfirst
    · -- Some later placement has the identity, and only those with the first one are left out.
      have hlater : i ∈ ps.map id := (List.mem_cons.mp hi).resolve_left hfirst
      obtain ⟨q, hq, rfl⟩ := List.mem_map.mp (ih hlater)
      exact .inr (List.mem_map_of_mem (List.mem_filter.mpr ⟨hq, decide_eq_true hfirst⟩))

/-- A placement is asked for by a URI. -/
theorem isRead_of_mem_all {α : Type} {config : ClientConfig α} {dns : Option DnsSnapshot}
    {p : Placement} (h : p ∈ all config dns) : p.target.IsRead := by
  obtain ⟨uri, -, hp⟩ := List.mem_flatMap.mp (firsts_subset _ h)
  unfold ofUri at hp
  split at hp
  · next t hparse =>
    obtain ⟨a, -, rfl⟩ := List.mem_map.mp hp
    exact ⟨uri, _, hparse⟩
  · cases hp

/-- The hosts at all addresses of a URI that is read are among those that there should be. -/
theorem mem_ids_all {α : Type} {config : ClientConfig α} {dns : Option DnsSnapshot} {uri : String}
    {t : TargetUri} (huri : uri ∈ config.uris)
    (hparse : TargetUri.parse uri config.dns.defaultPort = .ok t) {a : Option SocketAddress}
    (ha : a ∈ addresses t dns) : HostId.ofTarget t a ∈ (all config dns).map id := by
  refine ids_subset_firsts _ (List.mem_map.mpr ⟨⟨t, a⟩, ?_, rfl⟩)
  refine List.mem_flatMap.mpr ⟨uri, huri, ?_⟩
  rw [ofUri, hparse]
  exact List.mem_map_of_mem ha

end Placement

namespace Fleet

variable {α : Type} {f : Fleet α}

/-- A URI is read as a target, the hosts at all addresses of the target are in use, and so is a
host with its base address. -/
structure Covers (f : Fleet α) (uri : String) (t : TargetUri) : Prop where
  read : TargetUri.parse uri f.config.value.dns.defaultPort = .ok t
  ids : ∀ a ∈ Placement.addresses t (f.dns.map (·.value)), HostId.ofTarget t a ∈ f.ids
  host : ∃ serial h, (serial, h) ∈ f.hosts ∧ h.target.base = t.base

variable [Scalar α]

theorem isRead_of_mem_looks {acts : List (Act α)} {due : List Placement} {p : Placement}
    (hdue : due ∈ f.looks acts) (hp : p ∈ due) : p.target.IsRead := by
  induction acts generalizing f with
  | nil => cases hdue
  | cons a acts ih =>
    rw [looks_cons] at hdue
    rcases List.mem_append.mp hdue with hnow | hlater
    · cases a with
      | look =>
        rw [List.mem_singleton.mp hnow] at hp
        exact Placement.isRead_of_mem_all hp
      | _ => cases hnow
    · exact ih hlater

/-- A host in use was asked for by some URI, at the time when it was set up. -/
theorem run_target_isRead (outside : Outside α) (config : Cell (ClientConfig α))
    (dns : Option (Cell DnsSnapshot)) (blacklist : Blacklist α) (acts : List (Act α))
    {serial : Nat} {h : Server α}
    (hmem : (serial, h) ∈ ((new outside config dns blacklist).run acts).hosts) :
    h.target.IsRead := by
  have hlineup : h.placement ∈ ((new outside config dns blacklist).run acts).lineup :=
    List.mem_map.mpr ⟨(serial, h), hmem, rfl⟩
  obtain ⟨due, hdue, hp⟩ := (run_lineup outside config dns blacklist acts).asked _ hlineup
  exact isRead_of_mem_looks hdue hp

/-- A fleet that is brought up to date covers every URI that can be read. -/
theorem run_covers (outside : Outside α) (config : Cell (ClientConfig α))
    (dns : Option (Cell DnsSnapshot)) (blacklist : Blacklist α) (acts : List (Act α))
    {uri : String} {t : TargetUri} :
    let f := (new outside config dns blacklist).run acts
    uri ∈ f.config.value.uris →
      TargetUri.parse uri f.config.value.dns.defaultPort = .ok t → f.refresh.Covers uri t := by
  intro f huri hparse
  have horderly : f.Orderly := (new_orderly outside config dns blacklist).run acts
  have hcarries := f.refresh_carries
  have hids : ∀ a ∈ Placement.addresses t (f.dns.map (·.value)),
      HostId.ofTarget t a ∈ f.refresh.ids := by
    intro a ha
    have hdue : f.refresh.due = f.due := by rw [due, due, hcarries.config, hcarries.dns]
    rw [(refresh_matches horderly.current).ids, hdue]
    exact Placement.mem_ids_all huri hparse ha
  have hlook : (new outside config dns blacklist).run (acts ++ [.look]) = f.refresh :=
    List.foldl_append ..
  refine ⟨?_, ?_, ?_⟩
  · rw [hcarries.config]
    exact hparse
  · rw [hcarries.dns]
    exact hids
  · obtain ⟨a, ha⟩ := List.exists_mem_of_ne_nil _
      (Placement.addresses_ne_nil t (f.dns.map (·.value)))
    obtain ⟨⟨serial, h⟩, hmem, hid⟩ := List.mem_map.mp (hids a ha)
    refine ⟨serial, h, hmem, ?_⟩
    -- The host may stand for another URI, but its identity tells its base address.
    have hnamed : h.id = HostId.ofTarget h.target h.address :=
      horderly.refresh.named serial h (mem_hosts.mp hmem).2
    have hread : h.target.IsRead := by
      rw [← hlook] at hmem
      exact run_target_isRead outside config dns blacklist _ hmem
    exact hread.base_eq ⟨uri, _, hparse⟩ (hnamed.symm.trans hid)

end Fleet

end RpcPipeline
