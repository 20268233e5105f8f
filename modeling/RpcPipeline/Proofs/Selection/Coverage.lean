import RpcPipeline.Proofs.Hosts.Coverage
import RpcPipeline.Proofs.Selection.Stickiness

/-!
# `RpcPipeline.Proofs.Selection.Coverage`: with valid settings there are hosts

Whatever happens to a selection, some acts happen to its fleet (`Selection.run_fleet`), so what
holds of a fleet after all acts holds of the fleet of a selection. With valid settings each URI
has a host in use as soon as the hosts are looked at, and every offer begins with that. So if
there are URIs at all, no call is told that there are no hosts.

* `Selection.Covered`: every URI has a host, and no call finds none.
* `Selection.run_covered`: so it is with valid settings, and which settings are valid is decided
  by whether their URIs can be read.
-/

set_option autoImplicit false

namespace RpcPipeline

variable {α : Type} [Scalar α]

namespace Selection

variable {s : Selection α}

/-! ### What happens to the fleet -/

theorem sendTo_fleet (s : Selection α) (settings : SelectionConfig α) (e : Endpoint)
    (serial : Nat) :
    (s.sendTo settings e serial).2.fleet = s.fleet.act (.offer serial e.label) := rfl

theorem sendToFirst_fleet (s : Selection α) (settings : SelectionConfig α) (e : Endpoint)
    (serials : List Nat) :
    ∃ acts, (s.sendToFirst settings e serials).2.fleet = s.fleet.run acts := by
  induction serials generalizing s with
  | nil => exact ⟨[], rfl⟩
  | cons serial rest ih =>
    have hfirst := s.sendTo_fleet settings e serial
    unfold sendToFirst
    rcases heq : s.sendTo settings e serial with ⟨_ | call, s₁⟩
    · rw [heq] at hfirst
      obtain ⟨acts, hrest⟩ := ih s₁
      exact ⟨.offer serial e.label :: acts, hrest.trans (congrArg (Fleet.run · acts) hfirst)⟩
    · rw [heq] at hfirst
      exact ⟨[.offer serial e.label], hfirst⟩

/-- An offer looks at the hosts and goes to some of them. -/
theorem offer_fleet (s : Selection α) (e : Endpoint) (r : Request) :
    ∃ acts, (s.offer e r).2.fleet = s.fleet.run (.look :: acts) := by
  unfold offer
  dsimp only
  split
  · exact ⟨[], rfl⟩
  · let settings := s.fleet.config.value.selection
    let s₁ := ((s.onFleet Fleet.refresh).adopt settings).track
    -- The settings and the strategy are looked after before the offer, which is nothing to
    -- the fleet.
    have hfleet : s₁.fleet = s.fleet.refresh := s.ready_fleet settings
    split
    · next serial h _ =>
      refine ⟨[.offer serial e.label], ?_⟩
      show (s₁.sendTo settings e serial).2.fleet = _
      rw [sendTo_fleet, hfleet]
      rfl
    · obtain ⟨acts, hrest⟩ := (s₁.choices settings).2.sendToFirst_fleet settings e
        (s₁.choices settings).1
      refine ⟨acts, hrest.trans ?_⟩
      rw [choices_fleet, hfleet]
      rfl

theorem poll_fleet (s : Selection α) (c : SelectedCall α) :
    ∃ acts, (s.poll c).2.2.fleet = s.fleet.run acts := by
  cases c with
  | noHosts service => exact ⟨[], rfl⟩
  | hosted call epoch settings =>
    refine ⟨[.poll call], ?_⟩
    show _ = (s.fleet.poll call).2.2
    unfold Selection.poll
    dsimp only
    split
    · next hpoll => rw [hpoll]
    · next hpoll =>
      rw [hpoll]
      split
      · split <;> rfl
      · rfl

/-- Whatever happens to a selection, some acts happen to its fleet. -/
theorem act_fleet (s : Selection α) (a : Act α) :
    ∃ acts, (s.act a).fleet = s.fleet.run acts := by
  cases a with
  | offer e r =>
    obtain ⟨acts, hoffer⟩ := s.offer_fleet e r
    exact ⟨_, hoffer⟩
  | poll c => exact s.poll_fleet c
  | drop c =>
    cases c with
    | noHosts service => exact ⟨[], rfl⟩
    | hosted call epoch settings => exact ⟨[.drop call], rfl⟩
  | hosts a => exact ⟨[a], rfl⟩

theorem run_fleet (s : Selection α) (acts : List (Act α)) :
    ∃ done, (s.run acts).fleet = s.fleet.run done := by
  induction acts generalizing s with
  | nil => exact ⟨[], rfl⟩
  | cons a acts ih =>
    obtain ⟨first, hfirst⟩ := s.act_fleet a
    obtain ⟨rest, hrest⟩ := ih (s.act a)
    refine ⟨first ++ rest, ?_⟩
    show ((s.act a).run acts).fleet = _
    rw [hrest, hfirst]
    exact (List.foldl_append ..).symm

/-! ### What is promised -/

/-- Every URI that is configured is read and has its hosts in use as soon as they are looked at,
and if there is one, no call is told that there are no hosts. -/
structure Covered (s : Selection α) : Prop where
  uris : ∀ uri ∈ s.fleet.config.value.uris, ∃ t, s.fleet.refresh.Covers uri t
  hosts : s.fleet.config.value.uris ≠ [] →
    ∀ e r service, (s.offer e r).1 ≠ some (.noHosts service)

/-- Validation and the set of hosts agree on URIs. Settings are valid if the rest of them is and
each URI is read, with whatever port. And whatever has happened, if the present settings are
valid, each URI has its hosts and no call is told that there are none. -/
theorem run_covered :
    (∀ (c : ClientConfig α) (defaultPort : UInt16), c.validate = .ok () ↔
      (∀ uri ∈ c.uris, ∃ t, TargetUri.parse uri defaultPort = .ok t) ∧
        { c with uris := [] }.validate = .ok ()) ∧
      ∀ (outside : Outside α) (config : Cell (ClientConfig α)) (dns : Option (Cell DnsSnapshot))
        (blacklist : Blacklist α) (entropy : RandomStream) (acts : List (Act α)),
        let s := (new (.new outside config dns blacklist) entropy).run acts
        s.fleet.config.value.validate = .ok () → s.Covered := by
  refine ⟨fun c defaultPort => c.validate_eq_ok_iff defaultPort, ?_⟩
  intro outside config dns blacklist entropy acts s hvalid
  obtain ⟨done, hfleet⟩ : ∃ done, s.fleet = (Fleet.new outside config dns blacklist).run done :=
    run_fleet _ acts
  obtain ⟨hread, -⟩ := (s.fleet.config.value.validate_eq_ok_iff
    s.fleet.config.value.dns.defaultPort).mp hvalid
  have hcovers : ∀ uri ∈ s.fleet.config.value.uris, ∃ t, s.fleet.refresh.Covers uri t := by
    intro uri huri
    obtain ⟨t, hparse⟩ := hread uri huri
    rw [hfleet] at huri hparse ⊢
    exact ⟨t, Fleet.run_covers outside config dns blacklist done huri hparse⟩
  refine ⟨hcovers, fun hne e r service hanswer => ?_⟩
  obtain ⟨uri, huri⟩ := List.exists_mem_of_ne_nil _ hne
  obtain ⟨t, hcover⟩ := hcovers uri huri
  obtain ⟨serial, h, hmem, -⟩ := hcover.host
  -- The host of this URI is in use when the call is offered.
  have hmember := (Fleet.mem_hosts.mp hmem).1
  have hoffers := s.offer_offers e r
  rw [hanswer] at hoffers
  generalize (s.offer e r).2 = s' at hoffers
  cases hoffers with
  | noHosts hempty =>
    rw [hempty] at hmember
    cases hmember

/-- Three hosts, one of which is named and was resolved to nothing. -/
theorem run_covered_unresolved :
    let config : ClientConfig Rat :=
      { ClientConfig.standard with
        uris := ["https://a.example/api", "http://10.0.0.1", "grpc://[::1]"] }
    let s := (new (.new .start (.new config) (some (.new .empty)) (.new .standard (.ofSeed 0)))
      (.ofSeed 0)).run [.hosts (.publish (.ofList [("a.example", [])]))]
    s.fleet.config.value.validate = .ok () ∧ s.Covered ∧
      s.fleet.refresh.ids.map HostId.text =
        ["https://a.example:443", "http://10.0.0.1:80", "grpc://[::1]:443"] := by
  intro config s
  have hvalid : s.fleet.config.value.validate = .ok () := eq_ok_of_isOk (by decide +kernel)
  exact ⟨hvalid, run_covered.2 .start _ _ _ _ _ hvalid, by decide +kernel⟩

end Selection

end RpcPipeline
