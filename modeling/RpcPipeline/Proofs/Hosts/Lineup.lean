import RpcPipeline.Proofs.Hosts.Acts
import RpcPipeline.Proofs.Number.Exact

/-!
# `RpcPipeline.Proofs.Hosts.Lineup`: what the hosts in use owe to the past

The hosts in use follow from the settings and the resolved names only as far as their
identities go. Their order and their targets also depend on what was in use before. If an
update lists the same identities as before, the list stays as it is, in the order that it has
and with the targets that it has. If an update lists other identities, the list gets the new
order, but a host that stays keeps its target, even if the URI has another path now.

`Placement.carry` is this rule for one update. The list at any moment is what the rule makes of
all updates that were looked at, one after the other. Two lineups with different pasts can
therefore differ although settings and names are the same. They agree if the past has always
said the same about an identity, and has always listed the same identities in the same order.

* `Placement.carry`, `carry_perm`: the rule, and that it is right about identities.
* `Placement.foldl_carry_of_consistent`: pasts that leave no trace.
* `Orderly.lineup_refresh`, `lineup_act`: a fleet follows the rule.
* `Fleet.run_lineup`: the lineup after anything that can happen.
* `Fleet.lineup_depends_on_past`: permuted URIs and a changed path leave the lineup as it was.
-/

set_option autoImplicit false

namespace RpcPipeline

/-! ### The rule -/

namespace Placement

/-- The placements after an update that asks for `due`, where those before it were `before`. -/
def carry (before due : List Placement) : List Placement :=
  if (∀ p ∈ due, p.id ∈ before.map id) ∧ ∀ p ∈ before, p.id ∈ due.map id then before
  else due.map fun p => (before.find? fun q => q.id = p.id).getD p

/-- Two lists of placements list the same identities. -/
def SameIds (ps qs : List Placement) : Prop := ∀ i, i ∈ ps.map id ↔ i ∈ qs.map id

/-- Two lists of placements say the same about an identity that both list, and have the same
order if they list the same identities. -/
structure Consistent (ps qs : List Placement) : Prop where
  placement : ∀ p ∈ ps, ∀ q ∈ qs, p.id = q.id → p = q
  order : SameIds ps qs → ps = qs

variable {before due ps qs : List Placement}

theorem sameIds_iff : SameIds before due ↔
    (∀ p ∈ due, p.id ∈ before.map id) ∧ ∀ p ∈ before, p.id ∈ due.map id := by
  constructor
  · intro h
    exact ⟨fun p hp => (h p.id).mpr (List.mem_map_of_mem hp),
      fun p hp => (h p.id).mp (List.mem_map_of_mem hp)⟩
  · rintro ⟨hdue, hbefore⟩ i
    constructor
    · intro hi
      obtain ⟨p, hp, rfl⟩ := List.mem_map.mp hi
      exact hbefore p hp
    · intro hi
      obtain ⟨p, hp, rfl⟩ := List.mem_map.mp hi
      exact hdue p hp

theorem carry_of_sameIds (h : SameIds before due) : carry before due = before :=
  if_pos (sameIds_iff.mp h)

theorem carry_of_not_sameIds (h : ¬SameIds before due) :
    carry before due = due.map fun p => (before.find? fun q => q.id = p.id).getD p :=
  if_neg fun hsame => h (sameIds_iff.mpr hsame)

/-- What is carried over has the identity that is asked for. -/
theorem id_carried (before : List Placement) (p : Placement) :
    ((before.find? fun q => q.id = p.id).getD p).id = p.id := by
  cases hfind : before.find? fun q => q.id = p.id with
  | none => rfl
  | some q =>
    have hid := List.find?_some hfind
    exact of_decide_eq_true hid

/-- The rule is right about identities: those that are asked for are listed, and no others. -/
theorem carry_perm (hbefore : (before.map id).Nodup) (hdue : (due.map id).Nodup) :
    ((carry before due).map id).Perm (due.map id) := by
  by_cases hsame : SameIds before due
  · rw [carry_of_sameIds hsame]
    exact (List.perm_ext_iff_of_nodup hbefore hdue).mpr hsame
  · rw [carry_of_not_sameIds hsame, List.map_map]
    exact List.Perm.of_eq (List.map_congr_left fun p _ => id_carried before p)

/-- Without a past the list is as it is asked for. -/
theorem carry_nil (due : List Placement) : carry [] due = due := by
  by_cases hsame : SameIds [] due
  · cases due with
    | nil => rfl
    | cons p ps => exact absurd ((hsame p.id).mpr List.mem_cons_self) List.not_mem_nil
  · rw [carry_of_not_sameIds hsame]
    exact List.map_id _

theorem carry_of_consistent (h : Consistent before due) : carry before due = due := by
  by_cases hsame : SameIds before due
  · rw [carry_of_sameIds hsame]
    exact h.order hsame
  · rw [carry_of_not_sameIds hsame]
    refine (List.map_congr_left fun p hp => ?_).trans (List.map_id _)
    cases hfind : before.find? fun q => q.id = p.id with
    | none => rfl
    | some q =>
      have hid := List.find?_some hfind
      exact h.placement q (List.mem_of_find?_eq_some hfind) p hp (of_decide_eq_true hid)

/-- If each update is consistent with the one before it, none leaves a trace but the last. -/
theorem foldl_carry_of_consistent {past : List (List Placement)} {last : List Placement}
    (h : (past ++ [last]).IsChain Consistent) : (past ++ [last]).foldl carry [] = last := by
  -- From the first update on, the list is always the one that was asked for last.
  have hfold : ∀ (past : List (List Placement)) (before : List Placement),
      (before :: (past ++ [last])).IsChain Consistent →
        (past ++ [last]).foldl carry before = last := by
    intro past
    induction past with
    | nil =>
      intro before h
      exact carry_of_consistent (List.isChain_cons_cons.mp h).1
    | cons due past ih =>
      intro before h
      obtain ⟨hfirst, hrest⟩ := List.isChain_cons_cons.mp h
      rw [List.cons_append, List.foldl_cons, carry_of_consistent hfirst]
      exact ih due hrest
  cases past with
  | nil => exact carry_nil last
  | cons due past =>
    rw [List.cons_append, List.foldl_cons, carry_nil]
    exact hfold past due h

end Placement

/-! ### Fleets -/

namespace Fleet

variable {α : Type} {f f' : Fleet α}

/-- Where the hosts in use are, in order. -/
def lineup (f : Fleet α) : List Placement := f.hosts.map fun (_, h) => h.placement

theorem lineup_eq_filterMap (f : Fleet α) :
    f.lineup = f.members.filterMap fun n => (f.servers[n]?).map Server.placement := by
  rw [lineup, hosts, List.map_filterMap]
  refine List.filterMap_congr fun n _ => ?_
  cases f.servers[n]? <;> rfl

variable [Scalar α]

/-- The placements that there should be, at each moment when the hosts are looked at. -/
def looks (f : Fleet α) : List (Act α) → List (List Placement)
  | [] => []
  | .look :: acts => f.fresh :: (f.act .look).looks acts
  | a :: acts => (f.act a).looks acts

omit [Scalar α] in
/-- The identities of the hosts in use are those of their placements. -/
theorem Orderly.ids_eq_lineup (h : f.Orderly) : f.ids = f.lineup.map Placement.id := by
  rw [ids, lineup, List.map_map]
  exact List.map_congr_left fun x hmem => h.named x.1 x.2 (mem_hosts.mp hmem).2

omit [Scalar α] in
theorem Orderly.settled_iff (h : f.Orderly) : f.Settled ↔ Placement.SameIds f.lineup f.fresh := by
  rw [Placement.SameIds, ← h.ids_eq_lineup]
  exact Iff.rfl

omit [Scalar α] in
/-- The host in use with an identity is at the place that the lineup gives for it. -/
theorem Orderly.find?_lineup (h : f.Orderly) (id : HostId) :
    (f.lineup.find? fun q => q.id = id) = (f.find? id).map fun x => x.2.placement := by
  rw [lineup, List.find?_map, find?]
  refine congrArg _ (List.find?_congr fun x hmem => ?_)
  have hnamed := h.named x.1 x.2 (mem_hosts.mp hmem).2
  exact congrArg (fun i => decide (i = id)) hnamed.symm

theorem Orderly.lineup_refresh (h : f.Orderly) :
    f.refresh.lineup = Placement.carry f.lineup f.fresh := by
  by_cases hseen : f.seen = some f.sources
  · have hsettled : f.Settled := h.current.fresh hseen
    rw [refresh_of_seen hseen, Placement.carry_of_sameIds (h.settled_iff.mp hsettled)]
  · obtain ⟨f', hrebuilds, hrefresh⟩ := refresh_rebuilds h.current.valid h.nodup hseen
    have hlineup : f.refresh.lineup = f'.lineup := by
      rw [hrefresh]
      rfl
    rw [hlineup]
    cases hrebuilds with
    | @same serials f' hsettled hplaces =>
      rw [Placement.carry_of_sameIds (h.settled_iff.mp hsettled), lineup_eq_filterMap,
        lineup_eq_filterMap, hplaces.grows.members]
      -- A server that takes over settings stays where it is.
      refine List.filterMap_congr fun n hn => ?_
      obtain ⟨server, hget⟩ := Option.isSome_iff_exists.mp (h.current.valid n hn)
      rw [hplaces.old n server hget, show f.servers[n]? = some server from hget]
      split <;> rfl
    | @changed serials f' hchanged hplaces =>
      rw [Placement.carry_of_not_sameIds fun hsame => hchanged (h.settled_iff.mpr hsame),
        lineup_eq_filterMap]
      -- Whether a placement is carried over is decided by who was found for it.
      refine filterMap_eq_map (hplaces.map_serials h.nodup fun p n hplaced => ?_)
      dsimp only
      rw [h.find?_lineup]
      cases hplaced with
      | @found server hmem hid hget =>
        have hfind : f.find? p.id = some (n, server) := hid ▸ find?_of_mem h.nodup hmem
        rw [hget, hfind]
        rfl
      | new hid _ hget =>
        have hfind : f.find? p.id = none := Option.map_eq_none_iff.mp (serial?_eq_none.mpr hid)
        rw [hget, hfind]
        rfl

/-- Using hosts does not move them. -/
theorem Uses.same_lineup (h : f.Uses f') : f'.lineup = f.lineup := by
  rw [lineup_eq_filterMap, lineup_eq_filterMap, h.stays.members]
  refine List.filterMap_congr fun n _ => ?_
  have hids := h.stays.ids n
  cases hget' : f'.servers[n]? with
  | none =>
    rw [hget', Option.map_none] at hids
    rw [Option.map_eq_none_iff.mp hids.symm]
  | some server' =>
    obtain ⟨server, hget, hused⟩ := h.servers n server' hget'
    rw [hget, Option.map_some, Option.map_some, hused.placement]

/-- One act: looking at the hosts applies the rule, and nothing else moves them. -/
theorem Orderly.lineup_act (h : f.Orderly) (a : Act α) :
    (f.act a).lineup = (f.looks [a]).foldl Placement.carry f.lineup := by
  have hother : ∀ {a : Act α}, a ≠ .look → f.looks [a] = [] := by
    intro a ha
    cases a <;> first | exact absurd rfl ha | rfl
  have hsteps := f.act_steps a
  generalize f.act a = f' at hsteps
  cases hsteps with
  | look => exact h.lineup_refresh
  | update config => rfl
  | publish snapshot => rfl
  | use ha huses =>
    rw [hother ha]
    exact huses.same_lineup

theorem looks_cons (f : Fleet α) (a : Act α) (acts : List (Act α)) :
    f.looks (a :: acts) = f.looks [a] ++ (f.act a).looks acts := by
  cases a <;> rfl

theorem looks_append (f : Fleet α) (acts more : List (Act α)) :
    f.looks (acts ++ more) = f.looks acts ++ (f.run acts).looks more := by
  induction acts generalizing f with
  | nil => rfl
  | cons a acts ih =>
    rw [List.cons_append, looks_cons, ih, looks_cons f a acts, List.append_assoc]
    rfl

/-- The lineup after some acts is what the rule makes of all updates that were looked at. -/
theorem Orderly.lineup_run (h : f.Orderly) (acts : List (Act α)) :
    (f.run acts).lineup = (f.looks acts).foldl Placement.carry f.lineup := by
  induction acts generalizing f with
  | nil => rfl
  | cons a acts ih =>
    rw [looks_cons, List.foldl_append, ← h.lineup_act a]
    exact ih (h.act a)

/-! ### Every run -/

/-- What the lineup after some acts owes to the past. -/
structure Recalls (f : Fleet α) (acts : List (Act α)) : Prop where
  ids : (f.run acts).ids = (f.run acts).lineup.map Placement.id
  /-- The lineup is what the rule makes of all updates that were looked at. -/
  lineup : (f.run acts).lineup = (f.looks acts).foldl Placement.carry []
  /-- As soon as the hosts are looked at, their identities are those that follow from the
  present settings and names alone, possibly in another order. -/
  perm : ((f.run (acts ++ [.look])).lineup.map Placement.id).Perm
    ((f.run acts).fresh.map Placement.id)
  /-- Where a host is was asked for by an update that was looked at. -/
  asked : ∀ p ∈ (f.run acts).lineup, ∃ due ∈ f.looks acts, p ∈ due
  /-- If each update was consistent with the one before it, nothing is owed to the past. -/
  consistent : (f.looks (acts ++ [.look])).IsChain Placement.Consistent →
    (f.run (acts ++ [.look])).lineup = (f.run acts).fresh
  /-- Nothing is owed to a past that there was not. -/
  anew : ∀ (outside : Outside α) (blacklist : Blacklist α),
    ((new outside (f.run acts).config (f.run acts).dns blacklist).act .look).lineup =
      (f.run acts).fresh

omit [Scalar α] in
/-- What the rule carries over was asked for before, and the rest is asked for now. -/
theorem mem_foldl_carry {p : Placement} {dues : List (List Placement)} {before : List Placement}
    (hp : p ∈ dues.foldl Placement.carry before) : p ∈ before ∨ ∃ due ∈ dues, p ∈ due := by
  -- One update either leaves the list alone, or puts into it what it held or what is asked for.
  induction dues generalizing before with
  | nil => exact .inl hp
  | cons due dues ih =>
    rcases ih hp with hcarried | ⟨due', hdue', hp'⟩
    · by_cases hsame : Placement.SameIds before due
      · rw [Placement.carry_of_sameIds hsame] at hcarried
        exact .inl hcarried
      · rw [Placement.carry_of_not_sameIds hsame] at hcarried
        obtain ⟨q, hq, rfl⟩ := List.mem_map.mp hcarried
        cases hfind : before.find? fun r => r.id = q.id with
        | none => exact .inr ⟨due, List.mem_cons_self, hq⟩
        | some r => exact .inl (List.mem_of_find?_eq_some hfind)
    · exact .inr ⟨due', List.mem_cons_of_mem _ hdue', hp'⟩

/-- The lineup of a fleet depends on the settings, on the names and on nothing else, except for
the order in which hosts were first listed and for where they were then. Whatever happens, the
past matters only through the updates that were looked at, one after the other. -/
theorem run_lineup (outside : Outside α) (config : Cell (ClientConfig α))
    (dns : Option (Cell DnsSnapshot)) (blacklist : Blacklist α) (acts : List (Act α)) :
    (new outside config dns blacklist).Recalls acts := by
  have hnew := new_orderly outside config dns blacklist
  generalize hf : new outside config dns blacklist = f at hnew
  have hstart : f.lineup = [] := by rw [← hf]; rfl
  have horderly := hnew.run acts
  have hlineup := hnew.lineup_run acts
  have hlook : f.run (acts ++ [.look]) = (f.run acts).refresh := List.foldl_append ..
  rw [hstart] at hlineup
  refine
    { ids := horderly.ids_eq_lineup
      lineup := hlineup
      perm := ?_
      asked := fun p hp => ?_
      consistent := fun hchain => ?_
      anew := fun outside blacklist => ?_ }
  · rw [hlook, horderly.lineup_refresh]
    exact Placement.carry_perm (horderly.ids_eq_lineup ▸ horderly.nodup) (f.run acts).due_nodup
  · rw [hlineup] at hp
    exact (mem_foldl_carry hp).resolve_left List.not_mem_nil
  · have hlast : f.looks (acts ++ [.look]) = f.looks acts ++ [(f.run acts).fresh] :=
      f.looks_append acts [.look]
    have hall := hnew.lineup_run (acts ++ [.look])
    rw [hlast] at hchain hall
    -- The last of these updates asks for what there should be now.
    rw [hall, hstart]
    exact Placement.foldl_carry_of_consistent hchain
  · have hanew := (new_orderly outside (f.run acts).config (f.run acts).dns
      blacklist).lineup_refresh
    exact hanew.trans (Placement.carry_nil _)

/-- A fleet whose hosts were looked at under some URIs, and that has other URIs now. -/
def relisted (before now : List String) : Fleet Rat :=
  (new .start (.new { ClientConfig.standard with uris := before }) none
    (.new .standard (.ofSeed 0))).run
      [.look, .update { ClientConfig.standard with uris := now }]

/-- URIs in another order leave the hosts in the order in which they were, and a URI with
another path leaves its host where it was. A fleet without past would follow the URIs. -/
theorem lineup_depends_on_past :
    let swapped := relisted ["https://a.example", "https://b.example"]
      ["https://b.example", "https://a.example"]
    let moved := relisted ["https://a.example/v1"] ["https://a.example/v2"]
    (swapped.act .look).lineup ≠ swapped.fresh ∧ (moved.act .look).lineup ≠ moved.fresh ∧
      (swapped.act .look).lineup.map (·.target.host) = ["a.example", "b.example"] ∧
      swapped.fresh.map (·.target.host) = ["b.example", "a.example"] ∧
      (moved.act .look).lineup.map (·.target.url.rest) = ["/v1"] ∧
      moved.fresh.map (·.target.url.rest) = ["/v2"] := by
  decide +kernel

end Fleet

end RpcPipeline
