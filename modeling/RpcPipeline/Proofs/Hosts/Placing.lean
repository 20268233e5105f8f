import Mathlib.Data.List.Forall2
import Mathlib.Data.List.Nodup
import RpcPipeline.Proofs.Except
import RpcPipeline.Proofs.Hosts.Fleet

/-!
# `RpcPipeline.Proofs.Hosts.Placing`: the servers at the placements

When a fleet is rebuilt, it goes through the placements that there should be. For a placement
whose identity is in use already it takes the server that has it, and for any other one it
sets up a new server. `Fleet.Places` says what comes of that: which servers are touched, which
ones are added, and what is reported.

* `placeAll_places`: going through placements without duplicates.
* `Fleet.Rebuilds`, `rebuild_rebuilds`: the same for a whole rebuild, which either keeps the
  hosts in use or puts others in their place.
* `refresh_rebuilds`: bringing a fleet up to date rebuilds it, or does nothing.
-/

set_option autoImplicit false

namespace RpcPipeline

variable {α : Type}

/-- The server that an event reports as set up. -/
def Event.created? : Event α → Option (String × Option SocketAddress)
  | .created base address => some (base, address)
  | _ => none

/-- All servers that were ever set up, as reported, the latest first. -/
def Outside.creations (o : Outside α) : List (String × Option SocketAddress) :=
  o.log.filterMap Event.created?

/-- A placement, as it is reported when a server is set up there. -/
def Placement.creation (p : Placement) : String × Option SocketAddress := (p.target.base, p.address)

/-- Where a server is. -/
def Server.placement (h : Server α) : Placement := ⟨h.target, h.address⟩

/-- A server with other settings. -/
def Server.adopt [Scalar α] (h : Server α) (config : LimitConfig α) : Server α :=
  { h with limiter := (h.limiter.configure config).1 }

namespace Fleet

variable {f f' : Fleet α}

/-- The server that is set up at a placement. -/
def build (f : Fleet α) (p : Placement) : Server α :=
  ⟨p.id, p.target, p.address, .new p.id.text f.config.value.limit f.outside.now⟩

/-- The serial number of the host in use with an identity. -/
def serial? (f : Fleet α) (id : HostId) : Option Nat := (f.find? id).map Prod.fst

/-- The placements whose identities are not in use. -/
def entering (f : Fleet α) (ps : List Placement) : List Placement :=
  ps.filter fun p => p.id ∉ f.ids

/-! ### Hosts by their identities -/

theorem ids_eq_filterMap (f : Fleet α) :
    f.ids = f.members.filterMap fun n => (f.servers[n]?).map Server.id := by
  rw [ids, hosts, List.map_filterMap]
  refine List.filterMap_congr fun n _ => ?_
  cases f.servers[n]? <;> rfl

/-- If everything in a list yields something, nothing is left out. -/
theorem filterMap_eq_map {β γ δ : Type} {l : List β} {l' : List γ} {k : β → Option δ}
    {g : γ → δ} (h : l.map k = l'.map fun c => some (g c)) : l.filterMap k = l'.map g := by
  have hid : l.filterMap k = (l.map k).filterMap id := by rw [List.filterMap_map]; rfl
  rw [hid, h, List.filterMap_map]
  exact congrFun List.filterMap_eq_map l'

/-- Among hosts with distinct identities each one is found by its own. -/
theorem find?_of_mem (hd : f.ids.Nodup) {n : Nat} {h : Server α} (hmem : (n, h) ∈ f.hosts) :
    f.find? h.id = some (n, h) := by
  have hsome : (f.find? h.id).isSome := List.find?_isSome.mpr ⟨_, hmem, decide_eq_true rfl⟩
  obtain ⟨⟨m, server⟩, hfind⟩ := Option.isSome_iff_exists.mp hsome
  obtain ⟨hmember, hget, hid⟩ := find?_spec hfind
  -- What is found has the identity as well, and no two hosts in use share one.
  have hsame : (m, server) = (n, h) :=
    List.inj_on_of_nodup_map hd (mem_hosts.mpr ⟨hmember, hget⟩) hmem hid
  rw [hfind, hsame]

theorem serial?_eq_none {id : HostId} : f.serial? id = none ↔ id ∉ f.ids := by
  rw [serial?, Option.map_eq_none_iff, find?, List.find?_eq_none, ids, List.mem_map]
  constructor
  · rintro hnone ⟨⟨n, h⟩, hmem, hid⟩
    exact hnone _ hmem (decide_eq_true hid)
  · intro hnot x hmem heq
    exact hnot ⟨x, hmem, of_decide_eq_true heq⟩

/-- Among hosts with distinct identities, the one that is found by an identity is the one that
has it. -/
theorem serial?_eq_some (hd : f.ids.Nodup) {id : HostId} {n : Nat} :
    f.serial? id = some n ↔ n ∈ f.members ∧ (f.servers[n]?).map Server.id = some id := by
  constructor
  · intro h
    obtain ⟨⟨m, server⟩, hfind, hserial⟩ := Option.map_eq_some_iff.mp h
    cases hserial
    obtain ⟨hmember, hget, hid⟩ := find?_spec hfind
    rw [hget, ← hid]
    exact ⟨hmember, rfl⟩
  · rintro ⟨hmember, hget⟩
    obtain ⟨server, hserver, rfl⟩ := Option.map_eq_some_iff.mp hget
    rw [serial?, find?_of_mem hd (mem_hosts.mpr ⟨hmember, hserver⟩)]
    rfl

/-- Servers that are set up besides do not concern the identities in use. -/
theorem Grows.same_ids (h : f.Grows f') (hv : ∀ n : Nat, n ∈ f.members → (f.servers[n]?).isSome) :
    f'.ids = f.ids := by
  rw [ids_eq_filterMap, ids_eq_filterMap, h.members]
  exact List.filterMap_congr fun n hn => h.ids_eq hv hn

theorem Grows.serial? (h : f.Grows f')
    (hv : ∀ n : Nat, n ∈ f.members → (f.servers[n]?).isSome) (hd : f.ids.Nodup) (id : HostId) :
    f'.serial? id = f.serial? id := by
  have hd' : f'.ids.Nodup := (h.same_ids hv).symm ▸ hd
  refine Option.ext fun n => ?_
  rw [serial?_eq_some hd', serial?_eq_some hd, h.members]
  exact and_congr_right fun hn => by rw [h.ids_eq hv hn]

/-! ### Placing -/

variable [Scalar α]

/-- What comes of going through placements. -/
structure Places (f : Fleet α) (ps : List Placement) (serials : List Nat) (f' : Fleet α) :
    Prop where
  grows : f.Grows f'
  blacklist : f'.blacklist = f.blacklist
  version : f'.version = f.version
  ended : f'.ended = f.ended
  /-- A server that was there takes over the settings if it is in use and there is a placement
  with its identity. Otherwise it stays as it is. -/
  old : ∀ (n : Nat) (h : Server α), f.servers[n]? = some h →
    f'.servers[n]? = some (if n ∈ f.members ∧ h.id ∈ ps.map Placement.id then
      h.adopt f.config.value.limit else h)
  /-- The servers at the placements, in order, are those that were found or new ones. -/
  serials : List.Forall₂ (fun p n => f.serial? p.id = some n ∨
    f.serial? p.id = none ∧ f.servers.size ≤ n ∧ f'.servers[n]? = some (f.build p)) ps serials
  size : f'.servers.size = f.servers.size + (f.entering ps).length
  new : ∀ i : Nat, f'.servers[f.servers.size + i]? = ((f.entering ps)[i]?).map f.build
  creations : f'.outside.creations =
    ((f.entering ps).map Placement.creation).reverse ++ f.outside.creations

omit [Scalar α] in
/-- Reporting something else is not setting up a server. -/
theorem creations_emit {o : Outside α} {events : List (Event α)}
    (h : ∀ e ∈ events, e.created? = none) : (o.emit events).creations = o.creations := by
  have hnone : events.reverse.filterMap Event.created? = [] :=
    List.filterMap_eq_nil_iff.mpr fun e he => h e (List.mem_reverse.mp he)
  rw [Outside.creations, Outside.emit, List.filterMap_append, hnone]
  rfl

/-- If a host in use is handed the settings, any other one stays as it is. -/
theorem getElem?_adopted (hd : f.ids.Nodup) {n : Nat} {h : Server α} (hmem : (n, h) ∈ f.hosts)
    {m : Nat} {h' : Server α} (hget' : f.servers[m]? = some h') :
    (f.setLimiter n (h.limiter.configure f.config.value.limit).1).servers[m]? =
      some (if m ∈ f.members ∧ h'.id = h.id then h'.adopt f.config.value.limit else h') := by
  obtain ⟨hmember, hget⟩ := mem_hosts.mp hmem
  rw [getElem?_setLimiter]
  by_cases heq : n = m
  · subst heq
    rw [hget] at hget'
    cases hget'
    rw [if_pos rfl, if_pos ⟨hmember, rfl⟩, hget]
    rfl
  · -- Any other host in use has another identity.
    have hnot : ¬(m ∈ f.members ∧ h'.id = h.id) := by
      rintro ⟨hm, hid⟩
      have hsame : (m, h') = (n, h) :=
        List.inj_on_of_nodup_map hd (mem_hosts.mpr ⟨hm, hget'⟩) hmem hid
      exact heq (congrArg Prod.fst hsame).symm
    rw [if_neg heq, if_neg hnot, hget']

/-- A placement whose identity is in use. -/
theorem place_found {p : Placement} {n : Nat} {h : Server α} (hd : f.ids.Nodup)
    (hmem : (n, h) ∈ f.hosts) (hid : h.id = p.id) :
    Places f [p] [n] (f.place p).2 ∧ (f.place p).1 = n := by
  have hfind : f.find? p.id = some (n, h) := hid ▸ find?_of_mem hd hmem
  have hserial : f.serial? p.id = some n := by
    rw [serial?, hfind]
    rfl
  -- The server that is found only takes over the settings.
  let tuned := f.setLimiter n (h.limiter.configure f.config.value.limit).1
  have hplace : f.place p = (n, tuned.emit (h.limiter.configure f.config.value.limit).2) := by
    rw [place, hfind]
    simp only [reconfigure, (mem_hosts.mp hmem).2, tuned]
  have hgrows := (f.place_grows p).1
  rw [hplace] at hgrows ⊢
  have hentering : f.entering [p] = [] := by
    have hin : p.id ∈ f.ids := List.mem_map.mpr ⟨(n, h), hmem, hid⟩
    simp [entering, hin]
  have hsize : tuned.servers.size = f.servers.size := Array.size_modify
  refine ⟨⟨hgrows, rfl, rfl, rfl, fun m h' hget' => ?_, ?_, ?_, fun i => ?_, ?_⟩, rfl⟩
  · simp only [List.map_singleton, List.mem_singleton, ← hid]
    exact getElem?_adopted hd hmem hget'
  · exact .cons (.inl hserial) .nil
  · rw [hentering]
    exact hsize
  · rw [hentering]
    exact Array.getElem?_eq_none (hsize.symm ▸ Nat.le_add_right _ _)
  · rw [hentering]
    exact creations_emit fun e he => by
      rw [List.mem_singleton.mp he]
      rfl

/-- A placement whose identity is not in use. -/
theorem place_new {p : Placement} (hid : p.id ∉ f.ids) :
    Places f [p] [f.servers.size] (f.place p).2 ∧ (f.place p).1 = f.servers.size := by
  have hserial := serial?_eq_none.mpr hid
  have hfind : f.find? p.id = none := Option.map_eq_none_iff.mp hserial
  have hplace : f.place p = f.create p := by rw [place, hfind]
  have hgrows := (f.place_grows p).1
  rw [hplace] at hgrows ⊢
  -- The server that is set up comes after all others.
  have hpush : ∀ n, (f.create p).2.servers[n]? =
      if n = f.servers.size then some (f.build p) else f.servers[n]? :=
    fun n => Array.getElem?_push
  have hentering : f.entering [p] = [p] := by simp [entering, hid]
  refine ⟨⟨hgrows, rfl, rfl, rfl, fun m h' hget' => ?_, ?_, ?_, fun i => ?_, ?_⟩, rfl⟩
  · have hne : m ≠ f.servers.size := by
      rintro rfl
      rw [Array.getElem?_eq_none (Nat.le_refl _)] at hget'
      cases hget'
    have hnot : ¬(m ∈ f.members ∧ h'.id ∈ [p].map Placement.id) := by
      rintro ⟨hm, hin⟩
      have hid' : h'.id = p.id := List.mem_singleton.mp hin
      exact hid (hid' ▸ mem_ids.mpr ⟨m, hm, by rw [hget']; rfl⟩)
    rw [hpush, if_neg hne, if_neg hnot, hget']
  · exact .cons (.inr ⟨hserial, Nat.le_refl _, by rw [hpush, if_pos rfl]⟩) .nil
  · rw [hentering]
    exact Array.size_push ..
  · rw [hpush, hentering]
    cases i with
    | zero => rw [if_pos (Nat.add_zero _)]; rfl
    | succ i =>
      rw [if_neg (by omega)]
      exact Array.getElem?_eq_none (Nat.le_add_right _ _)
  · rw [hentering]
    rfl

/-- A placement before others with other identities. -/
theorem Places.append {p : Placement} {ps : List Placement} {n : Nat} {serials : List Nat}
    {f₁ : Fleet α} (hfirst : Places f [p] [n] f₁) (hrest : Places f₁ ps serials f')
    (hv : ∀ n : Nat, n ∈ f.members → (f.servers[n]?).isSome) (hd : f.ids.Nodup)
    (hp : p.id ∉ ps.map Placement.id) : Places f (p :: ps) (n :: serials) f' := by
  have hids : f₁.ids = f.ids := hfirst.grows.same_ids hv
  have hentering : f.entering (p :: ps) = f.entering [p] ++ f₁.entering ps := by
    rw [entering, entering, entering, hids, ← List.filter_append]
    rfl
  have hlimit : f₁.config.value.limit = f.config.value.limit := by rw [hfirst.grows.config]
  have hbuild : f₁.build = f.build := by
    funext q
    rw [build, build, hfirst.grows.config, hfirst.grows.now]
  refine ⟨hfirst.grows.trans hrest.grows, hrest.blacklist.trans hfirst.blacklist,
    hrest.version.trans hfirst.version, hrest.ended.trans hfirst.ended, fun m h hget => ?_, ?_,
    ?_, fun i => ?_, ?_⟩
  · have hget₁ := hfirst.old m h hget
    have hget' := hrest.old m _ hget₁
    rw [hget', hfirst.grows.members, hlimit]
    -- The settings are handed over once at most, since no other placement has this identity.
    by_cases hm : m ∈ f.members
    · by_cases hid : h.id = p.id
      · have hnot : h.id ∉ ps.map Placement.id := hid ▸ hp
        simp [hm, hid, hp, Server.adopt]
      · by_cases hin : h.id ∈ ps.map Placement.id <;> simp [hm, hid, hin]
    · simp [hm]
  · have hsize : f.servers.size ≤ f₁.servers.size := by
      rw [hfirst.size]
      exact Nat.le_add_right _ _
    refine .cons ?_ (hrest.serials.imp fun q m hq => ?_)
    · obtain ⟨hplaced, -⟩ := List.forall₂_cons.mp hfirst.serials
      refine hplaced.imp_right fun ⟨hnone, hle, hget⟩ => ⟨hnone, hle, ?_⟩
      -- The new server is at none of the later placements.
      rw [hrest.old n _ hget, if_neg fun h => hp h.2]
    · rw [hfirst.grows.serial? hv hd, hbuild] at hq
      exact hq.imp_right fun ⟨hnone, hle, hget⟩ => ⟨hnone, Nat.le_trans hsize hle, hget⟩
  · rw [hrest.size, hfirst.size, hentering, List.length_append, Nat.add_assoc]
  · rw [hentering]
    by_cases hi : i < (f.entering [p]).length
    · rw [List.getElem?_append_left hi]
      -- What was added first is not touched again.
      obtain ⟨q, hq⟩ : ∃ q, (f.entering [p])[i]? = some q := ⟨_, List.getElem?_eq_getElem hi⟩
      have hmem : q ∈ [p] := (List.mem_filter.mp (List.mem_of_getElem? hq)).1
      have hget := hfirst.new i
      rw [hq, Option.map_some, List.mem_singleton.mp hmem] at hget ⊢
      rw [hrest.old _ _ hget, if_neg fun h => hp h.2]
    · have hnew := hrest.new (i - (f.entering [p]).length)
      rw [hfirst.size, hbuild, Nat.add_assoc, Nat.add_sub_cancel' (Nat.le_of_not_lt hi)] at hnew
      rw [List.getElem?_append_right (Nat.le_of_not_lt hi), hnew]
  · rw [hrest.creations, hfirst.creations, hentering, List.map_append, List.reverse_append,
      List.append_assoc]

/-- Going through placements without duplicates. -/
theorem placeAll_places (ps : List Placement) (hps : (ps.map Placement.id).Nodup)
    (hv : ∀ n : Nat, n ∈ f.members → (f.servers[n]?).isSome) (hd : f.ids.Nodup) :
    Places f ps (f.placeAll ps).1 (f.placeAll ps).2 := by
  induction ps generalizing f with
  | nil =>
    refine ⟨.refl f, rfl, rfl, rfl, fun n h hget => ?_, .nil, rfl, fun i => ?_, rfl⟩
    · rw [if_neg (by simp)]
      exact hget
    · exact Array.getElem?_eq_none (Nat.le_add_right _ _)
  | cons p ps ih =>
    obtain ⟨hpid, hps⟩ := List.nodup_cons.mp hps
    -- The first one is placed, which changes neither who is in use nor what that server is.
    obtain ⟨n, hfirst, hserial⟩ : ∃ n, Places f [p] [n] (f.place p).2 ∧ (f.place p).1 = n := by
      by_cases hid : p.id ∈ f.ids
      · obtain ⟨⟨n, h⟩, hmem, heq⟩ := List.mem_map.mp hid
        exact ⟨n, place_found hd hmem heq⟩
      · exact ⟨_, place_new hid⟩
    have hids : (f.place p).2.ids = f.ids := hfirst.grows.same_ids hv
    have hrest := ih hps (hfirst.grows.valid hv) (hids.symm ▸ hd)
    have hall := hfirst.append hrest hv hd hpid
    rw [← hserial] at hall
    exact hall

theorem Places.servers {ps : List Placement} {serials : List Nat} (h : Places f ps serials f')
    {n : Nat} {server : Server α} (hget : f'.servers[n]? = some server) :
    (∃ server₀, f.servers[n]? = some server₀ ∧
      (server = server₀ ∨ server = server₀.adopt f.config.value.limit)) ∨
      ∃ p ∈ ps, server = f.build p := by
  -- Serial numbers are given in order, so those from the former size on are new.
  by_cases hn : n < f.servers.size
  · have hget₀ := Array.getElem?_eq_getElem hn
    have hkept := h.old n _ hget₀
    rw [hget, Option.some.injEq] at hkept
    refine .inl ⟨_, hget₀, ?_⟩
    split at hkept
    · exact .inr hkept
    · exact .inl hkept
  · have hadded := h.new (n - f.servers.size)
    rw [Nat.add_sub_cancel' (Nat.le_of_not_lt hn), hget] at hadded
    obtain ⟨p, hp, hbuild⟩ := Option.map_eq_some_iff.mp hadded.symm
    exact .inr ⟨p, (List.mem_filter.mp (List.mem_of_getElem? hp)).1, hbuild.symm⟩

/-- The servers that are added have distinct identities, none of which was in use. -/
theorem Places.added {ps : List Placement} {serials : List Nat} (h : Places f ps serials f')
    (hps : (ps.map Placement.id).Nodup) {n : Nat} {server : Server α}
    (hle : f.servers.size ≤ n) (hget : f'.servers[n]? = some server) :
    server.id ∉ f.ids ∧ ∀ (m : Nat) (server' : Server α), f.servers.size ≤ m →
      f'.servers[m]? = some server' → server'.id = server.id → m = n := by
  -- A new server is told apart by the place of its identity among those that enter.
  have hplacement : ∀ (m : Nat) (server : Server α), f.servers.size ≤ m →
      f'.servers[m]? = some server → server.id ∉ f.ids ∧
        ((f.entering ps).map Placement.id)[m - f.servers.size]? = some server.id := by
    intro m server hle hget
    have hnew := h.new (m - f.servers.size)
    rw [Nat.add_sub_cancel' hle, hget] at hnew
    obtain ⟨p, hp, rfl⟩ := Option.map_eq_some_iff.mp hnew.symm
    have hnot := (List.mem_filter.mp (List.mem_of_getElem? hp)).2
    refine ⟨of_decide_eq_true hnot, ?_⟩
    rw [List.getElem?_map, hp]
    rfl
  have hnodup : ((f.entering ps).map Placement.id).Nodup :=
    hps.sublist (List.filter_sublist.map Placement.id)
  obtain ⟨hnot, hn⟩ := hplacement n server hle hget
  refine ⟨hnot, fun m server' hle' hget' hid => ?_⟩
  obtain ⟨-, hm⟩ := hplacement m server' hle' hget'
  rw [hid, ← hn] at hm
  have hlt := (List.getElem?_eq_some_iff.mp hn).1
  have hindex := (List.getElem?_inj hlt hnodup).mp hm.symm
  omega

/-- The server at a placement after going through the placements: the one that was found, with
the present settings, or a new one. -/
inductive Placed (f f' : Fleet α) (p : Placement) (n : Nat) : Prop where
  | found {h : Server α} (hmem : (n, h) ∈ f.hosts) (hid : h.id = p.id)
      (hget : f'.servers[n]? = some (h.adopt f.config.value.limit))
  | new (hid : p.id ∉ f.ids) (hle : f.servers.size ≤ n)
      (hget : f'.servers[n]? = some (f.build p))

theorem Places.placed {ps : List Placement} {serials : List Nat} (h : Places f ps serials f')
    (hd : f.ids.Nodup) : List.Forall₂ (fun p n => p ∈ ps ∧ Placed f f' p n) ps serials := by
  have hserials := (List.forall₂_and_left ps serials).mpr ⟨fun p (hp : p ∈ ps) => hp, h.serials⟩
  refine hserials.imp fun p n ⟨hp, hserial⟩ => ⟨hp, ?_⟩
  rcases hserial with hfound | ⟨hnone, hle, hget⟩
  · obtain ⟨hmember, hid⟩ := (serial?_eq_some hd).mp hfound
    obtain ⟨server, hserver, hid⟩ := Option.map_eq_some_iff.mp hid
    have hin : server.id ∈ ps.map Placement.id := hid ▸ List.mem_map_of_mem hp
    refine .found (mem_hosts.mpr ⟨hmember, hserver⟩) hid ?_
    rw [h.old n server hserver, if_pos ⟨hmember, hin⟩]
  · exact .new (serial?_eq_none.mp hnone) hle hget

/-- Whatever a server says about its placement can be read off the placements. -/
theorem Places.map_serials {β : Type} {ps : List Placement} {serials : List Nat}
    (h : Places f ps serials f') (hd : f.ids.Nodup) {k : Nat → β} {g : Placement → β}
    (heq : ∀ p n, Placed f f' p n → k n = g p) : serials.map k = ps.map g := by
  have hplaced : List.Forall₂ (fun p n => g p = k n) ps serials :=
    (h.placed hd).imp fun p n ⟨_, hplaced⟩ => (heq p n hplaced).symm
  have hmaps : List.Forall₂ (· = ·) (ps.map g) (serials.map k) :=
    List.forall₂_map_left_iff.mpr (List.forall₂_map_right_iff.mpr hplaced)
  rw [List.forall₂_eq_eq_eq] at hmaps
  exact hmaps.symm

theorem Placed.id {p : Placement} {n : Nat} (h : Placed f f' p n) :
    (f'.servers[n]?).map Server.id = some p.id := by
  cases h with
  | found _ hid hget =>
    rw [hget, ← hid]
    rfl
  | new _ _ hget =>
    rw [hget]
    rfl

/-! ### Rebuilding -/

omit [Scalar α] in
/-- The placements that there should be. -/
def fresh (f : Fleet α) : List Placement :=
  Placement.all f.config.value (f.dns.map (·.value))

omit [Scalar α] in
theorem due_eq (f : Fleet α) : f.due = f.fresh.map Placement.id := rfl

omit [Scalar α] in
theorem due_nodup (f : Fleet α) : f.due.Nodup := nodup_firsts _

omit [Scalar α] in
/-- The identities in use are those that there should be, in whatever order. -/
def Settled (f : Fleet α) : Prop := ∀ id, id ∈ f.ids ↔ id ∈ f.due

omit [Scalar α] in
/-- The fleet with the present settings of its exclusions. -/
def heeding (f : Fleet α) : Fleet α :=
  { f with blacklist := f.blacklist.configure f.config.value.blacklist }

/-- What a rebuild does. -/
inductive Rebuilds (f : Fleet α) : Fleet α → Prop where
  | same {serials : List Nat} {f' : Fleet α} (hsettled : f.Settled)
      (hplaces : Places f.heeding f.fresh serials f') : Rebuilds f f'
  | changed {serials : List Nat} {f' : Fleet α} (hchanged : ¬f.Settled)
      (hplaces : Places f.heeding f.fresh serials f') :
      Rebuilds f { f' with
        blacklist := f'.blacklist.retain f'.outside.now f.due
        members := serials
        version := f'.version + 1 }

omit [Scalar α] in
/-- Lists without duplicates are compared as sets by their lengths and by what they contain. -/
theorem settled_iff (hd : f.ids.Nodup) :
    (f.due.length = f.ids.length ∧ ∀ id ∈ f.due, id ∈ f.ids) ↔ f.Settled := by
  constructor
  · rintro ⟨hlength, hsub⟩ id
    have hperm : f.due.Perm f.ids :=
      (List.subperm_of_subset f.due_nodup hsub).perm_of_length_le (Nat.le_of_eq hlength.symm)
    exact hperm.mem_iff.symm
  · intro hsettled
    have hperm : f.due.Perm f.ids :=
      (List.perm_ext_iff_of_nodup f.due_nodup hd).mpr fun id => (hsettled id).symm
    exact ⟨hperm.length_eq, fun id hid => (hsettled id).mpr hid⟩

theorem rebuild_rebuilds (hv : ∀ n : Nat, n ∈ f.members → (f.servers[n]?).isSome)
    (hd : f.ids.Nodup) : f.Rebuilds f.rebuild := by
  have hplaces : Places f.heeding f.fresh (f.heeding.placeAll f.fresh).1
      (f.heeding.placeAll f.fresh).2 := placeAll_places f.fresh f.due_nodup hv hd
  have hrebuild : f.rebuild = (if f.due.length = f.ids.length && f.due.all f.ids.contains then
      (f.heeding.placeAll f.fresh).2
    else
      { (f.heeding.placeAll f.fresh).2 with
        blacklist := (f.heeding.placeAll f.fresh).2.blacklist.retain
          (f.heeding.placeAll f.fresh).2.outside.now f.due
        members := (f.heeding.placeAll f.fresh).1
        version := (f.heeding.placeAll f.fresh).2.version + 1 }) := rfl
  have htest : (f.due.length = f.ids.length && f.due.all f.ids.contains) = true ↔ f.Settled := by
    rw [← settled_iff hd, Bool.and_eq_true, decide_eq_true_iff, List.all_eq_true]
    simp only [List.contains_iff_mem]
  rw [hrebuild]
  split
  · next hsame => exact .same (htest.mp hsame) hplaces
  · next hother => exact .changed (fun h => hother (htest.mpr h)) hplaces

namespace Rebuilds

/-- The identities in use are those that there should be. If they were so before, they are in
the order in which they were before, and otherwise in the order of the placements. -/
theorem ids (h : f.Rebuilds f') (hv : ∀ n : Nat, n ∈ f.members → (f.servers[n]?).isSome)
    (hd : f.ids.Nodup) :
    (f.Settled → f'.ids = f.ids) ∧ (¬f.Settled → f'.ids = f.due) := by
  cases h with
  | same hsettled hplaces =>
    exact ⟨fun _ => hplaces.grows.same_ids hv, fun hnot => absurd hsettled hnot⟩
  | @changed serials f' hchanged hplaces =>
    refine ⟨fun hsettled => absurd hsettled hchanged, fun _ => ?_⟩
    rw [ids_eq_filterMap]
    exact filterMap_eq_map (hplaces.map_serials hd fun p n hplaced => hplaced.id)

theorem members_of_settled (h : f.Rebuilds f') (hsettled : f.Settled) :
    f'.members = f.members ∧ f'.version = f.version := by
  cases h with
  | same _ hplaces => exact ⟨hplaces.grows.members, hplaces.version⟩
  | changed hchanged _ => exact absurd hsettled hchanged

theorem version_of_not_settled (h : f.Rebuilds f') (hchanged : ¬f.Settled) :
    f'.version = f.version + 1 := by
  cases h with
  | same hsettled _ => exact absurd hsettled hchanged
  | changed _ hplaces => exact congrArg (· + 1) hplaces.version

/-- The servers and the history are as going through the placements has left them. -/
theorem places (h : f.Rebuilds f') : ∃ (serials : List Nat) (f₁ : Fleet α),
    Places f.heeding f.fresh serials f₁ ∧ f'.servers = f₁.servers ∧ f'.ended = f₁.ended := by
  cases h with
  | same _ hplaces => exact ⟨_, _, hplaces, rfl, rfl⟩
  | changed _ hplaces => exact ⟨_, _, hplaces, rfl, rfl⟩

/-- A host that stays is carried over with the present settings. -/
theorem kept (h : f.Rebuilds f') (hd : f.ids.Nodup) {n : Nat} {server : Server α}
    (hmem : (n, server) ∈ f.hosts) (hdue : server.id ∈ f.due) :
    (n, server.adopt f.config.value.limit) ∈ f'.hosts := by
  obtain ⟨hmember, hget⟩ := mem_hosts.mp hmem
  cases h with
  | same _ hplaces =>
    have hget' := hplaces.old n server hget
    rw [if_pos ⟨hmember, hdue⟩] at hget'
    exact mem_hosts.mpr ⟨hplaces.grows.members ▸ hmember, hget'⟩
  | changed _ hplaces =>
    have hget' := hplaces.old n server hget
    rw [if_pos ⟨hmember, hdue⟩] at hget'
    obtain ⟨p, hp, hid⟩ := List.mem_map.mp hdue
    obtain ⟨m, hm, -, hplaced⟩ := exists_of_forall₂ (hplaces.placed hd).flip hp
    -- The placement with this identity has found this very server.
    have hsame : m = n := by
      cases hplaced with
      | @found server' hmem' hid' _ =>
        have heq : (m, server') = (n, server) :=
          List.inj_on_of_nodup_map hd hmem' hmem (hid'.trans hid)
        exact congrArg Prod.fst heq
      | new hnot _ _ => exact absurd (hid ▸ List.mem_map_of_mem hmem) hnot
    exact mem_hosts.mpr ⟨hsame ▸ hm, hget'⟩

/-- Each host in use afterwards was in use before, or it is a new one. -/
theorem hosts (h : f.Rebuilds f') (hv : ∀ n : Nat, n ∈ f.members → (f.servers[n]?).isSome)
    (hd : f.ids.Nodup) {n : Nat} {server : Server α} (hmem : (n, server) ∈ f'.hosts) :
    (∃ server₀, (n, server₀) ∈ f.hosts ∧ server = server₀.adopt f.config.value.limit) ∨
      ∃ p ∈ f.fresh, p.id ∉ f.ids ∧ f.servers.size ≤ n ∧ server = f.build p := by
  obtain ⟨hmember, hget⟩ := mem_hosts.mp hmem
  cases h with
  | same hsettled hplaces =>
    -- Nobody came or left, so the host was in use and there is a placement for it.
    have hmember₀ : n ∈ f.members := hplaces.grows.members ▸ hmember
    obtain ⟨server₀, hget₀⟩ := Option.isSome_iff_exists.mp (hv n hmember₀)
    have hmem₀ : (n, server₀) ∈ f.hosts := mem_hosts.mpr ⟨hmember₀, hget₀⟩
    have hdue : server₀.id ∈ f.due := (hsettled _).mp (List.mem_map_of_mem hmem₀)
    have hadopt := hplaces.old n server₀ hget₀
    rw [if_pos ⟨hmember₀, hdue⟩] at hadopt
    have heq : server₀.adopt f.config.value.limit = server :=
      Option.some.inj (hadopt.symm.trans hget)
    exact .inl ⟨server₀, hmem₀, heq.symm⟩
  | changed _ hplaces =>
    obtain ⟨p, -, hp, hplaced⟩ := exists_of_forall₂ (hplaces.placed hd) hmember
    cases hplaced with
    | @found server₀ hmem₀ hid hget₀ =>
      have heq : server₀.adopt f.config.value.limit = server :=
        Option.some.inj (hget₀.symm.trans hget)
      exact .inl ⟨server₀, hmem₀, heq.symm⟩
    | new hid hle hget₀ =>
      have heq : f.build p = server := Option.some.inj (hget₀.symm.trans hget)
      exact .inr ⟨p, hp, hid, hle, heq.symm⟩

/-- Each server afterwards was there before, with its own or with the present settings, or it
is a new one. -/
theorem servers (h : f.Rebuilds f') {n : Nat} {server : Server α}
    (hget : f'.servers[n]? = some server) :
    (∃ server₀, f.servers[n]? = some server₀ ∧
      (server = server₀ ∨ server = server₀.adopt f.config.value.limit)) ∨
      ∃ p ∈ f.fresh, server = f.build p := by
  cases h with
  | same _ hplaces => exact hplaces.servers hget
  | changed _ hplaces => exact hplaces.servers hget

theorem creations (h : f.Rebuilds f') : f'.outside.creations =
    ((f.entering f.fresh).map Placement.creation).reverse ++ f.outside.creations := by
  cases h with
  | same _ hplaces => exact hplaces.creations
  | changed _ hplaces => exact hplaces.creations

end Rebuilds

/-- Looking at the hosts rebuilds the fleet, unless it has seen its sources already. -/
theorem refresh_rebuilds (hv : ∀ n : Nat, n ∈ f.members → (f.servers[n]?).isSome)
    (hd : f.ids.Nodup) (hnews : f.seen ≠ some f.sources) :
    ∃ f', f.Rebuilds f' ∧ f.refresh = { f' with seen := some f.sources } :=
  ⟨f.rebuild, rebuild_rebuilds hv hd, if_neg hnews⟩

end Fleet

end RpcPipeline
