import RpcPipeline.Proofs.Hosts.Blacklist
import RpcPipeline.Proofs.Hosts.Calls
import RpcPipeline.Proofs.Hosts.Limits
import RpcPipeline.Proofs.Hosts.Placing

/-!
# `RpcPipeline.Proofs.Hosts.Acts`: everything that can happen to a fleet

The settings of a fleet are replaced and names are resolved while it is in use. Now and then
its hosts are looked at, which brings it up to date. In between calls are offered to hosts,
polled and dropped, hosts are excluded or pardoned, and whatever lies outside changes. All of
this can happen in any order.

* `Fleet.Act`, `Fleet.act`, `Fleet.run`: what can happen.
* `Fleet.Uses`, `Fleet.Steps`: everything but looking at the hosts and replacing a source only
  uses the hosts.
* `Fleet.Orderly`: what holds between any two acts, whatever the settings are.
* `Fleet.Governed`: what holds besides, as long as all settings are valid.
* `Orderly.run`, `Governed.run`: it holds all along.
* `Fleet.Versioned`, `Fleet.id_run`: what a version tells, and that servers keep their identities.
-/

set_option autoImplicit false

namespace RpcPipeline

variable {α : Type}

namespace Fleet

/-- Something that happens to a fleet. -/
inductive Act (α : Type) where
  /-- The hosts in use are looked at. -/
  | look
  | update (config : ClientConfig α)
  /-- Addresses of names are published, if names are resolved at all. -/
  | publish (snapshot : DnsSnapshot)
  | offer (serial : Nat) (endpoint : String)
  | poll (call : HostedCall)
  | drop (call : HostedCall)
  | exclude (id : HostId) (reason : BlacklistReason)
  /-- All exclusions are forgotten. -/
  | pardon
  | outside (change : Outside α → Outside α)

variable [Scalar α]

/-- New settings are valid. -/
def Act.Valid : Act α → Prop
  | .update config => config.validate = .ok ()
  | _ => True

omit [Scalar α] in
/-- Replaces the settings. -/
def update (f : Fleet α) (config : ClientConfig α) : Fleet α :=
  { f with config := f.config.update config }

omit [Scalar α] in
/-- Publishes addresses, if names are resolved at all. -/
def publish (f : Fleet α) (snapshot : DnsSnapshot) : Fleet α :=
  { f with dns := f.dns.map (·.update snapshot) }

/-- What an act does to a fleet. -/
def act (f : Fleet α) : Act α → Fleet α
  | .look => f.refresh
  | .update config => f.update config
  | .publish snapshot => f.publish snapshot
  | .offer serial endpoint => (f.offer serial endpoint).2
  | .poll call => (f.poll call).2.2
  | .drop call => f.drop call
  | .exclude id reason => (f.exclude id reason).2
  | .pardon => { f with blacklist := f.blacklist.clear }
  | .outside change => { f with outside := change f.outside }

/-- Acts one after the other. -/
def run (f : Fleet α) (acts : List (Act α)) : Fleet α := acts.foldl act f

end Fleet

/-! ### Calls and exclusions -/

variable [Scalar α]

/-- The first limiter has become the second by use: its settings are the same, and its limit
has not left the bounds, if numbers are ordered. -/
structure Limiter.Used (l l' : Limiter α) : Prop where
  config : l'.config = l.config
  bounded : Scalar.Ordered α → l.Bounded → l'.Bounded

/-- The first server has become the second by use. -/
structure Server.Used (h h' : Server α) : Prop where
  id : h'.id = h.id
  placement : h'.placement = h.placement
  limiter : h.limiter.Used h'.limiter

theorem Limiter.Used.refl (l : Limiter α) : l.Used l := ⟨rfl, fun _ => id⟩

theorem Server.Used.refl (h : Server α) : h.Used h := ⟨rfl, rfl, .refl _⟩

theorem Server.Used.trans {h h' h'' : Server α} (hu : h.Used h') (hu' : h'.Used h'') :
    h.Used h'' :=
  ⟨hu'.id.trans hu.id, hu'.placement.trans hu.placement,
    hu'.limiter.config.trans hu.limiter.config,
    fun ho hb => hu'.limiter.bounded ho (hu.limiter.bounded ho hb)⟩

namespace Fleet

variable {f f' f'' : Fleet α}

/-- The hosts are used: those in use, their placements and their settings stay. -/
structure Uses (f f' : Fleet α) : Prop where
  stays : f.Stays f'
  version : f'.version = f.version
  servers : ∀ (n : Nat) (h' : Server α), f'.servers[n]? = some h' →
    ∃ h, f.servers[n]? = some h ∧ h.Used h'
  blacklist : f.blacklist.Sorted → f'.blacklist.Sorted

/-- What does not concern the servers. -/
theorem Uses.apart (hstays : f.Stays f') (hversion : f'.version = f.version)
    (hservers : f'.servers = f.servers) (hblacklist : f.blacklist.Sorted → f'.blacklist.Sorted) :
    f.Uses f' where
  stays := hstays
  version := hversion
  servers n h' hget := by
    rw [hservers] at hget
    exact ⟨h', hget, .refl h'⟩
  blacklist := hblacklist

theorem Uses.refl (f : Fleet α) : f.Uses f := .apart (.refl f) rfl rfl id

theorem Uses.trans (h : f.Uses f') (h' : f'.Uses f'') : f.Uses f'' where
  stays := h.stays.trans h'.stays
  version := h'.version.trans h.version
  servers n server hget := by
    obtain ⟨server', hget', hused'⟩ := h'.servers n server hget
    obtain ⟨server'', hget'', hused⟩ := h.servers n server' hget'
    exact ⟨server'', hget'', hused.trans hused'⟩
  blacklist := h'.blacklist ∘ h.blacklist

theorem setLimiter_uses {serial : Nat} {h : Server α} (hget : f.servers[serial]? = some h)
    {l : Limiter α} (hl : h.limiter.Used l) : f.Uses (f.setLimiter serial l) where
  stays := f.setLimiter_stays serial l
  version := rfl
  servers n h' hget' := by
    rw [getElem?_setLimiter] at hget'
    split at hget'
    · next heq =>
      subst heq
      rw [hget, Option.map_some] at hget'
      cases hget'
      exact ⟨h, hget, rfl, rfl, hl⟩
    · exact ⟨h', hget', .refl h'⟩
  blacklist := id

/-- Whatever comes of an offer, the hosts are used. -/
theorem Offers.uses {serial : Nat} {endpoint : String} {answer : Option HostedCall}
    (hoffers : f.Offers serial endpoint answer f') : f.Uses f' := by
  cases hoffers with
  | missing => exact .refl f
  | excluded => exact .refl f
  | full => exact .apart ⟨rfl, rfl, rfl, rfl, fun _ => rfl⟩ rfl rfl id
  | @sent h call o hget hincluded hfree hnow hcalls =>
    -- One more call is under way. The limit does not move.
    have hl : h.limiter.Used { h.limiter with inFlight := h.limiter.inFlight + 1 } :=
      ⟨rfl, fun _ hb => ⟨hb.sane, hb.le_limit, hb.limit_le⟩⟩
    have huses := setLimiter_uses hget hl
    exact huses.trans (.apart ⟨rfl, rfl, rfl, rfl, fun _ => rfl⟩ rfl rfl id)

theorem record_uses (f : Fleet α) (id : HostId) (outcome : Outcome) :
    f.Uses (f.record id outcome) :=
  .apart ⟨rfl, rfl, rfl, rfl, fun _ => rfl⟩ rfl rfl fun h => h.record f.outside.now id outcome

theorem exclude_uses (f : Fleet α) (id : HostId) (reason : BlacklistReason) :
    f.Uses (f.exclude id reason).2 :=
  .apart ⟨rfl, rfl, rfl, rfl, fun _ => rfl⟩ rfl rfl fun h => h.exclude f.outside.now id reason

theorem drop_uses (f : Fleet α) (c : HostedCall) : f.Uses (f.drop c) := by
  unfold drop
  split
  · exact .refl f
  · next h hget =>
    have huses := setLimiter_uses (l := h.limiter.release.1) hget
      ⟨rfl, fun _ => Limiter.release_bounded⟩
    exact huses.trans (.apart ⟨rfl, rfl, rfl, rfl, fun _ => rfl⟩ rfl rfl id)

theorem poll_uses (f : Fleet α) (c : HostedCall) : f.Uses (f.poll c).2.2 := by
  unfold poll
  cases hget : f.servers[c.serial]? with
  | none => exact .refl f
  | some h =>
    rcases hpoll : f.outside.poll c.call.call with ⟨_ | result, call⟩
    · -- A call that is still under way leaves its limiter as it is.
      simp only [Limiter.poll, hpoll]
      have huses := setLimiter_uses hget (.refl h.limiter)
      exact huses.trans (.apart ⟨rfl, rfl, rfl, rfl, fun _ => rfl⟩ rfl rfl id)
    · simp only [Limiter.poll, hpoll]
      -- The limiter learns from the result, then the end is noted, then the exclusions learn.
      let outcome := Outcome.classify result
      let completed := h.limiter.complete f.outside.now c.call.started outcome
      have hl : h.limiter.Used completed.1 :=
        ⟨h.limiter.learn_config _ outcome _, fun _ hb => hb.complete _ _ outcome⟩
      have huses := setLimiter_uses hget hl
      have hnoted : (f.setLimiter c.serial completed.1).Uses
          ({ f.setLimiter c.serial completed.1 with
            outside := f.outside.emit completed.2 }.noteEnd c.serial h.id) :=
        .apart ⟨rfl, rfl, rfl, rfl, fun _ => rfl⟩ rfl rfl id
      exact (huses.trans hnoted).trans (record_uses _ h.id outcome)

/-- What an act comes to. Most of them only use the hosts. -/
inductive Steps (f : Fleet α) : Act α → Fleet α → Prop where
  | look : Steps f .look f.refresh
  | update (config : ClientConfig α) : Steps f (.update config) (f.update config)
  | publish (snapshot : DnsSnapshot) : Steps f (.publish snapshot) (f.publish snapshot)
  | use {a : Act α} {f' : Fleet α} (ha : a ≠ .look) (huses : f.Uses f') : Steps f a f'

theorem act_steps (f : Fleet α) (a : Act α) : f.Steps a (f.act a) := by
  cases a with
  | look => exact .look
  | update config => exact .update config
  | publish snapshot => exact .publish snapshot
  | offer serial endpoint => exact .use nofun (f.offer_offers serial endpoint).uses
  | poll call => exact .use nofun (f.poll_uses call)
  | drop call => exact .use nofun (f.drop_uses call)
  | exclude id reason => exact .use nofun (f.exclude_uses id reason)
  | pardon =>
    exact .use nofun (.apart ⟨rfl, rfl, rfl, rfl, fun _ => rfl⟩ rfl rfl fun _ =>
      f.blacklist.clear_sorted)
  | outside change => exact .use nofun (.apart ⟨rfl, rfl, rfl, rfl, fun _ => rfl⟩ rfl rfl id)

theorem Uses.same_ids (h : f.Uses f') : f'.ids = f.ids := by
  rw [ids_eq_filterMap, ids_eq_filterMap, h.stays.members]
  exact List.filterMap_congr fun n _ => h.stays.ids n

/-! ### The hosts in use -/

/-- What holds between any two acts: the hosts in use are known, have distinct identities, and
are those that there should be if the present sources have been seen. -/
structure Orderly (f : Fleet α) : Prop where
  current : f.Current
  nodup : f.ids.Nodup
  /-- A server has the identity of its placement. -/
  named : ∀ (n : Nat) (h : Server α), f.servers[n]? = some h → h.id = h.placement.id

omit [Scalar α] in
theorem new_orderly (outside : Outside α) (config : Cell (ClientConfig α))
    (dns : Option (Cell DnsSnapshot)) (blacklist : Blacklist α) :
    (new outside config dns blacklist).Orderly where
  current := new_current _ _ _ _
  nodup := List.nodup_nil
  named n h hget := by cases hget

/-- Using hosts keeps all of it. -/
theorem Orderly.uses (h : f.Orderly) (hu : f.Uses f') : f'.Orderly where
  current := h.current.stays hu.stays
  nodup := by
    rw [hu.same_ids]
    exact h.nodup
  named n server hget := by
    obtain ⟨server₀, hget₀, hused⟩ := hu.servers n server hget
    rw [hused.id, hused.placement]
    exact h.named n server₀ hget₀

omit [Scalar α] in
/-- New settings have not been seen. -/
theorem Current.update_unseen (h : f.Current) (config : ClientConfig α) :
    (f.update config).seen ≠ some (f.update config).sources := by
  intro hseen
  have hle := h.config_le _ hseen
  exact absurd hle (Nat.not_le_of_gt (Nat.lt_succ_self f.config.version))

omit [Scalar α] in
/-- What is published has not been seen, unless names are not resolved and nothing happens. -/
theorem Current.publish_unseen (h : f.Current) (snapshot : DnsSnapshot) :
    f.publish snapshot = f ∨
      (f.publish snapshot).Current ∧
        (f.publish snapshot).seen ≠ some (f.publish snapshot).sources := by
  unfold Fleet.publish
  cases hdns : f.dns with
  | none =>
    left
    rw [Option.map_none, ← hdns]
  | some cell =>
    right
    -- The version is a new one, and none that was seen is newer than the present one.
    have hlt : cell.version < (cell.update snapshot).version := Nat.lt_succ_self _
    refine ⟨h.publish hdns (.inr hlt), fun hseen => ?_⟩
    have hle := h.dns_le _ _ cell hseen rfl hdns
    exact absurd hle (Nat.not_le_of_gt hlt)

omit [Scalar α] in
theorem Orderly.update (h : f.Orderly) (config : ClientConfig α) : (f.update config).Orderly :=
  ⟨h.current.update config, h.nodup, h.named⟩

omit [Scalar α] in
theorem Orderly.publish (h : f.Orderly) (snapshot : DnsSnapshot) :
    (f.publish snapshot).Orderly := by
  rcases h.current.publish_unseen snapshot with hsame | ⟨hcurrent, -⟩
  · rw [hsame]
    exact h
  · exact ⟨hcurrent, h.nodup, h.named⟩

/-- After a rebuild the identities in use are those that there should be. -/
theorem Rebuilds.mem_ids (h : f.Rebuilds f') (ho : f.Orderly) :
    f'.ids.Nodup ∧ ∀ id, id ∈ f'.ids ↔ id ∈ f.due := by
  obtain ⟨hsame, hother⟩ := h.ids ho.current.valid ho.nodup
  by_cases hsettled : f.Settled
  · rw [hsame hsettled]
    exact ⟨ho.nodup, hsettled⟩
  · rw [hother hsettled]
    exact ⟨f.due_nodup, fun _ => Iff.rfl⟩

theorem Orderly.refresh (h : f.Orderly) : f.refresh.Orderly := by
  by_cases hseen : f.seen = some f.sources
  · rw [refresh_of_seen hseen]
    exact h
  · obtain ⟨f', hrebuilds, hrefresh⟩ := refresh_rebuilds h.current.valid h.nodup hseen
    have hcurrent := refresh_current h.current
    rw [hrefresh] at hcurrent ⊢
    -- No server is ever removed, and a new one has the identity of its placement.
    refine ⟨hcurrent, (hrebuilds.mem_ids h).1, fun n server hget => ?_⟩
    rcases hrebuilds.servers hget with ⟨server₀, hget₀, rfl | rfl⟩ | ⟨p, -, rfl⟩
    · exact h.named n server hget₀
    · exact h.named n server₀ hget₀
    · rfl

theorem Orderly.act (h : f.Orderly) (a : Act α) : (f.act a).Orderly := by
  have hsteps := f.act_steps a
  generalize f.act a = f' at hsteps
  cases hsteps with
  | look => exact h.refresh
  | update config => exact h.update config
  | publish snapshot => exact h.publish snapshot
  | use _ huses => exact h.uses huses

theorem Orderly.run (h : f.Orderly) (acts : List (Act α)) : (f.run acts).Orderly := by
  induction acts generalizing f with
  | nil => exact h
  | cons a acts ih => exact ih (h.act a)

/-! ### Versions and identities -/

omit [Scalar α] in
/-- The hosts in use have other identities only if the fleet has a later version. -/
def Versioned (f f' : Fleet α) : Prop :=
  f'.version = f.version ∧ f'.ids = f.ids ∨ f.version < f'.version

omit [Scalar α] in
theorem Versioned.trans (h : f.Versioned f') (h' : f'.Versioned f'') : f.Versioned f'' := by
  rcases h with ⟨hversion, hids⟩ | hlt
  · rcases h' with ⟨hversion', hids'⟩ | hlt'
    · exact .inl ⟨hversion'.trans hversion, hids'.trans hids⟩
    · exact .inr (hversion ▸ hlt')
  · rcases h' with ⟨hversion', -⟩ | hlt'
    · exact .inr (hversion' ▸ hlt)
    · exact .inr (Nat.lt_trans hlt hlt')

theorem Orderly.refresh_versioned (h : f.Orderly) : f.Versioned f.refresh := by
  by_cases hseen : f.seen = some f.sources
  · rw [refresh_of_seen hseen]
    exact .inl ⟨rfl, rfl⟩
  · obtain ⟨f', hrebuilds, hrefresh⟩ := refresh_rebuilds h.current.valid h.nodup hseen
    rw [hrefresh]
    by_cases hsettled : f.Settled
    · have hids := (hrebuilds.ids h.current.valid h.nodup).1 hsettled
      exact .inl ⟨(hrebuilds.members_of_settled hsettled).2, hids⟩
    · exact .inr (Nat.lt_of_succ_le (Nat.le_of_eq (hrebuilds.version_of_not_settled hsettled).symm))

theorem Orderly.act_versioned (h : f.Orderly) (a : Act α) : f.Versioned (f.act a) := by
  have hsteps := f.act_steps a
  generalize f.act a = f' at hsteps
  cases hsteps with
  | look => exact h.refresh_versioned
  | update config => exact .inl ⟨rfl, rfl⟩
  | publish snapshot => exact .inl ⟨rfl, rfl⟩
  | use _ huses => exact .inl ⟨huses.version, huses.same_ids⟩

theorem Orderly.run_versioned (h : f.Orderly) (acts : List (Act α)) : f.Versioned (f.run acts) := by
  induction acts generalizing f with
  | nil => exact .inl ⟨rfl, rfl⟩
  | cons a acts ih => exact (h.act_versioned a).trans (ih (h.act a))

theorem id_refresh {n : Nat} {id : HostId} (h : (f.servers[n]?).map Server.id = some id) :
    (f.refresh.servers[n]?).map Server.id = some id := by
  unfold refresh
  split
  · exact h
  · have hgrows := (placeAll_grows f.fresh f.heeding).1.ids n id h
    show (f.rebuild.servers[n]?).map Server.id = some id
    unfold rebuild
    dsimp only
    split <;> exact hgrows

theorem id_act {n : Nat} {id : HostId} (h : (f.servers[n]?).map Server.id = some id) (a : Act α) :
    ((f.act a).servers[n]?).map Server.id = some id := by
  have hsteps := f.act_steps a
  generalize f.act a = f' at hsteps
  cases hsteps with
  | look => exact id_refresh h
  | update config => exact h
  | publish snapshot => exact h
  | use _ huses => exact (huses.stays.ids n).trans h

/-- A server has the identity that it was set up with for good, in use or not. -/
theorem id_run {n : Nat} {id : HostId} (h : (f.servers[n]?).map Server.id = some id)
    (acts : List (Act α)) : ((f.run acts).servers[n]?).map Server.id = some id := by
  induction acts generalizing f with
  | nil => exact h
  | cons a acts ih => exact ih (id_act h a)

/-! ### Their limits -/

/-- What holds besides if all settings are valid and nothing but the hosts themselves changes
what is kept about them: limits are within the bounds of the settings that they were handed. -/
structure Governed (f : Fleet α) : Prop where
  orderly : f.Orderly
  blacklist : f.blacklist.Sorted
  sane : f.config.value.limit.Sane
  bounded : ∀ (n : Nat) (h : Server α), f.servers[n]? = some h → h.limiter.Bounded
  /-- A fleet that has seen its present sources has handed over the settings. -/
  configured : f.seen = some f.sources → ∀ (n : Nat) (h : Server α), n ∈ f.members →
    f.servers[n]? = some h → h.limiter.config = f.config.value.limit

theorem limit_sane {c : ClientConfig α} (h : c.validate = .ok ()) :
    c.limit.Sane := by
  simp only [ClientConfig.validate, then_eq_ok] at h
  -- The limit comes after the URIs, the name, the choice of a host and retries.
  obtain ⟨-, -, -, -, hlimit, -⟩ := h
  exact LimitConfig.sane_of_validate hlimit

theorem new_governed {config : Cell (ClientConfig α)} (hconfig : config.value.validate = .ok ())
    (outside : Outside α) (dns : Option (Cell DnsSnapshot)) (settings : BlacklistConfig α)
    (random : RandomStream) : (new outside config dns (.new settings random)).Governed where
  orderly := new_orderly _ _ _ _
  blacklist := Blacklist.new_sorted _ _
  sane := limit_sane hconfig
  bounded n h hget := by cases hget
  configured h := by cases h

/-- New settings have not been handed over yet, and need not be. -/
theorem Governed.update (h : f.Governed) {config : ClientConfig α}
    (hconfig : config.validate = .ok ()) : (f.update config).Governed where
  orderly := h.orderly.update config
  blacklist := h.blacklist
  sane := limit_sane hconfig
  bounded := h.bounded
  configured hseen := absurd hseen (h.orderly.current.update_unseen config)

theorem Governed.publish (h : f.Governed) (snapshot : DnsSnapshot) :
    (f.publish snapshot).Governed := by
  rcases h.orderly.current.publish_unseen snapshot with hsame | ⟨-, hunseen⟩
  · rw [hsame]
    exact h
  · exact ⟨h.orderly.publish snapshot, h.blacklist, h.sane, h.bounded,
      fun hseen => absurd hseen hunseen⟩

variable [ho : Scalar.Ordered α]

theorem Governed.uses (h : f.Governed) (hu : f.Uses f') : f'.Governed where
  orderly := h.orderly.uses hu
  blacklist := hu.blacklist h.blacklist
  sane := by
    rw [hu.stays.config]
    exact h.sane
  bounded n server hget := by
    obtain ⟨server₀, hget₀, hused⟩ := hu.servers n server hget
    exact hused.limiter.bounded ho (h.bounded n server₀ hget₀)
  configured hseen n server hn hget := by
    -- Neither the settings nor the hosts in use are others than before.
    obtain ⟨server₀, hget₀, hused⟩ := hu.servers n server hget
    rw [hu.stays.seen, hu.stays.sources] at hseen
    rw [hused.limiter.config, hu.stays.config]
    exact h.configured hseen n server₀ (hu.stays.members ▸ hn) hget₀

omit ho in
theorem Rebuilds.sorted (h : f.Rebuilds f') (hs : f.blacklist.Sorted) :
    f'.blacklist.Sorted := by
  have hheeding : f.heeding.blacklist.Sorted := hs.configure f.config.value.blacklist
  cases h with
  | same _ hplaces =>
    rw [hplaces.blacklist]
    exact hheeding
  | changed _ hplaces =>
    refine Blacklist.Sorted.retain ?_ _ _
    rw [hplaces.blacklist]
    exact hheeding

/-- After a rebuild each host in use has the present settings. -/
theorem Rebuilds.limits (hr : f.Rebuilds f') (h : f.Governed) {n : Nat} {server : Server α}
    (hmem : (n, server) ∈ f'.hosts) :
    server.limiter.config = f.config.value.limit ∧ server.limiter.Bounded := by
  rcases hr.hosts h.orderly.current.valid h.orderly.nodup hmem with
    ⟨server₀, hmem₀, rfl⟩ | ⟨p, -, -, -, rfl⟩
  · have hbounded := h.bounded n server₀ (mem_hosts.mp hmem₀).2
    exact ⟨rfl, hbounded.configure h.sane⟩
  · exact ⟨rfl, Limiter.new_bounded h.sane _ _⟩

/-- Looking at the hosts hands over the present settings to all that are in use then. -/
theorem Governed.refresh (h : f.Governed) : f.refresh.Governed := by
  have hcarries := f.refresh_carries
  by_cases hseen : f.seen = some f.sources
  · rw [refresh_of_seen hseen]
    exact h
  · obtain ⟨f', hrebuilds, hrefresh⟩ :=
      refresh_rebuilds h.orderly.current.valid h.orderly.nodup hseen
    have horderly := h.orderly.refresh
    rw [hrefresh] at horderly hcarries ⊢
    have hconfig : f'.config = f.config := hcarries.config
    -- All servers stay within bounds, but only those in use are handed the present settings.
    refine ⟨horderly, hrebuilds.sorted h.blacklist, ?_, fun n server hget => ?_,
      fun _ n server hn hget => ?_⟩
    · show f'.config.value.limit.Sane
      rw [hconfig]
      exact h.sane
    · rcases hrebuilds.servers hget with ⟨server₀, hget₀, rfl | rfl⟩ | ⟨p, -, rfl⟩
      · exact h.bounded n server hget₀
      · exact (h.bounded n server₀ hget₀).configure h.sane
      · exact Limiter.new_bounded h.sane _ _
    · show server.limiter.config = f'.config.value.limit
      rw [hconfig]
      exact (hrebuilds.limits h (mem_hosts.mpr ⟨hn, hget⟩)).1

theorem Governed.act (h : f.Governed) {a : Act α} (ha : a.Valid) : (f.act a).Governed := by
  have hsteps := f.act_steps a
  generalize f.act a = f' at hsteps
  cases hsteps with
  | look => exact h.refresh
  | update config => exact h.update ha
  | publish snapshot => exact h.publish snapshot
  | use _ huses => exact h.uses huses

theorem Governed.run (h : f.Governed) {acts : List (Act α)} (hacts : ∀ a ∈ acts, a.Valid) :
    (f.run acts).Governed := by
  induction acts generalizing f with
  | nil => exact h
  | cons a acts ih =>
    have hnext := h.act (hacts a List.mem_cons_self)
    exact ih hnext fun a' ha' => hacts a' (List.mem_cons_of_mem _ ha')

end Fleet

end RpcPipeline
