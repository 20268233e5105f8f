import RpcPipeline.Proofs.Selection.Penalties

/-!
# `RpcPipeline.Proofs.Selection.Hints`: a call that asks for a host

A request may ask for one host. If the host is in use, no other host is asked: the call goes
there, or it is refused. The strategy has no part in that. It draws no random number, and a host
that is pinned stays pinned, whichever host the call goes to. Only if the call fails later on, and
the host that it went to is pinned then, the host is left.

If the settings name another strategy than the one in use, an offer to hosts in use takes over
the other one first, with or without a hint. Nothing is pinned from then on.

A hint at a host that is not in use counts for nothing.

* `Request.withoutHint`: the same request, as if it asked for no host.
* `Selector.Steady`: the choice of a host is as it was.
* `Selection.offer_congr`, `Selection.offer_hinted`: which offers a hint decides, and how.
* `Selection.pinned_poll`: what the end of a call does to the host that is pinned.
* `Selection.offer_routes`: what is promised about a call with a hint (`Selection.Routes`).
-/

set_option autoImplicit false

namespace RpcPipeline

/-! ### Requests -/

/-- The attachments without a hint have none. -/
theorem Attachments.hint?_without (as : Attachments) : hint? (as.without .hint) = none := by
  refine List.findSome?_eq_none_iff.mpr fun a ha => ?_
  have hkind := (List.mem_filter.mp ha).2
  cases a with
  | hint id => simp [Attachment.kind] at hkind
  | word n => rfl
  | octet n => rfl
  | text s => rfl

/-- The same request, as if it asked for no host. -/
def Request.withoutHint (r : Request) : Request :=
  { r with attachments := ⟨r.attachments.mark, r.attachments.value.without .hint⟩ }

variable {α : Type} [Scalar α]

/-! ### What a hint leaves alone -/

omit [Scalar α] in
/-- The host that is pinned and the random numbers to come are the same. -/
def Selector.Steady : Selector α → Selector α → Prop
  | balanced b, balanced b' => b'.random = b.random
  | pin p, pin p' => p' = p
  | balanced _, pin _ => False
  | pin _, balanced _ => False

omit [Scalar α] in
theorem Selector.Steady.pinned {selector selector' : Selector α} (h : selector.Steady selector') :
    selector'.pinned = selector.pinned := by
  cases selector with
  | balanced b =>
    cases selector' with
    | balanced b' => rfl
    | pin p' => cases h
  | pin p =>
    cases selector' with
    | balanced b' => cases h
    | pin p' =>
      cases h
      rfl

omit [Scalar α] in
theorem Selector.pinned_new (strategy : Strategy) (random : RandomStream) :
    (new strategy random : Selector α).pinned = none := by
  cases strategy <;> rfl

namespace Selection

variable {s : Selection α} {e : Endpoint} {r : Request} {id : HostId}

/-- Following the hosts draws no random number. -/
theorem track_steady (s : Selection α) : s.selector.Steady s.track.selector := by
  unfold track
  cases hselector : s.selector with
  | balanced b => exact b.track_random ..
  | pin p =>
    rw [hselector]
    rfl

theorem track_entropy (s : Selection α) : s.track.entropy = s.entropy := by
  unfold track
  split <;> rfl

/-! ### Offers -/

/-- What an offer sees of the request is the host in use that it asks for. -/
theorem offer_congr {r' : Request}
    (h : r.attachments.value.hint?.bind s.fleet.refresh.find? =
      r'.attachments.value.hint?.bind s.fleet.refresh.find?) :
    s.offer e r = s.offer e r' := by
  cases hmembers : s.fleet.refresh.members.isEmpty with
  | true => rw [offer_noHosts hmembers, offer_noHosts hmembers]
  | false =>
    rw [offer_eq hmembers, offer_eq hmembers]
    unfold offerReady
    rw [ready_fleet, h]

/-- A call that asks for a host in use is offered to this host only. -/
theorem offer_hinted {serial : Nat} {host : Server α}
    (hhint : r.attachments.value.hint? = some id)
    (hfind : s.fleet.refresh.find? id = some (serial, host)) :
    s.offer e r = ((s.onFleet Fleet.refresh).adopt s.fleet.config.value.selection).track.sendTo
      s.fleet.config.value.selection e serial := by
  have hmembers : s.fleet.refresh.members.isEmpty = false :=
    List.isEmpty_eq_false_iff.mpr (List.ne_nil_of_mem (Fleet.find?_spec hfind).1)
  rw [offer_eq hmembers]
  unfold offerReady
  rw [ready_fleet, hhint, Option.bind_some, hfind]

/-! ### The end of the call -/

/-- The end of a call unpins the host that the call went to, if the call has failed, and nothing
else. -/
theorem pinned_poll (s : Selection α) (c : SelectedCall α) :
    (s.poll c).2.2.pinned = s.pinned ∨
      ∃ call settings result id, c = .hosted call s.epoch settings ∧ (s.poll c).1 = some result ∧
        (Outcome.classify result).isFailure = true ∧
          (s.fleet.servers[call.serial]?).map Server.id = some id ∧ s.pinned = some id ∧
            (s.poll c).2.2.pinned = none := by
  have hlearns := s.poll_learns c
  show (s.poll c).2.2.selector.pinned = s.selector.pinned ∨ ∃ call settings result id, _ ∧ _ ∧ _ ∧
    _ ∧ s.selector.pinned = some id ∧ (s.poll c).2.2.selector.pinned = none
  generalize (s.poll c).2.2.selector = selector at hlearns
  cases hlearns with
  | rests => exact .inl rfl
  | @learns call settings result id hcall hresult hid =>
    cases hselector : s.selector with
    | balanced b =>
      rw [Selector.learn_balanced]
      exact .inl rfl
    | pin p =>
      rw [learn_pin]
      cases hfailed : (Outcome.classify result).isFailure with
      | false => exact .inl rfl
      | true =>
        rw [if_pos rfl]
        by_cases hpinned : p.pinned = some id
        · exact .inr ⟨call, settings, result, id, hcall, hresult, hfailed, hid, hpinned,
            (unpin_pinned hpinned).1⟩
        · rw [unpin_of_ne hpinned]
          exact .inl rfl

/-! ### What is promised -/

/-- What is promised about a call that asks for the host in use `id` with the number `serial`. -/
structure Routes (s : Selection α) (e : Endpoint) (r : Request) (id : HostId) (serial : Nat) :
    Prop where
  /-- The call is offered to this host, and nothing else happens to any host. -/
  offered : (s.offer e r).2.fleet = (s.fleet.refresh.offer serial e.label).2
  /-- It is refused, or it goes out to this host. -/
  dispatched : (s.offer e r).1 = none ∧ (s.offer e r).2.fleet.sent = s.fleet.sent ∨
    ∃ call c, (s.offer e r).1 =
        some (.hosted call (s.offer e r).2.epoch s.fleet.config.value.selection) ∧
      call.serial = serial ∧ (s.offer e r).2.fleet.sent = c :: s.fleet.sent ∧
        c.serial = serial ∧ c.id = id
  /-- The strategy in use neither pins a host nor draws a random number. -/
  kept : s.strategy = s.fleet.config.value.selection.strategy →
    s.selector.Steady (s.offer e r).2.selector ∧ (s.offer e r).2.epoch = s.epoch ∧
      (s.offer e r).2.entropy = s.entropy
  /-- Neither does a new strategy that takes its place because the settings name it. -/
  replaced : s.strategy ≠ s.fleet.config.value.selection.strategy →
    let draws := drawsFor s.fleet.config.value.selection s.entropy
    (Selector.new s.fleet.config.value.selection.strategy draws.1).Steady
        (s.offer e r).2.selector ∧
      (s.offer e r).2.pinned = none ∧ (s.offer e r).2.epoch = s.epoch + 1 ∧
        (s.offer e r).2.entropy = draws.2
  /-- Whatever happens until the call ends, its end unpins this host at most, and only by a
  failure. Dropping the call unpins nothing. -/
  later : ∀ acts call epoch settings, call.serial = serial →
    let t := (s.offer e r).2.run acts
    let c : SelectedCall α := .hosted call epoch settings
    ((t.poll c).2.2.pinned = t.pinned ∨
      (∃ result, (t.poll c).1 = some result ∧ (Outcome.classify result).isFailure = true) ∧
        t.pinned = some id ∧ (t.poll c).2.2.pinned = none) ∧
      (t.drop c).pinned = t.pinned

/-- The server that a call went to is that of the same host when the call ends. -/
theorem pinned_poll_own {serial : Nat} (hid : (s.fleet.servers[serial]?).map Server.id = some id)
    (acts : List (Act α)) {call : HostedCall} (hserial : call.serial = serial) (epoch : Nat)
    (settings : SelectionConfig α) :
    let t := s.run acts
    let c : SelectedCall α := .hosted call epoch settings
    (t.poll c).2.2.pinned = t.pinned ∨
      (∃ result, (t.poll c).1 = some result ∧ (Outcome.classify result).isFailure = true) ∧
        t.pinned = some id ∧ (t.poll c).2.2.pinned = none := by
  intro t c
  obtain ⟨done, hfleet⟩ := s.run_fleet acts
  have hown : (t.fleet.servers[serial]?).map Server.id = some id := by
    rw [hfleet]
    exact Fleet.id_run hid done
  rcases t.pinned_poll c with hsame | ⟨call', _, result, id', hcall, hresult, hfailed, hid', hpinned⟩
  · exact .inl hsame
  · have hcall' : call = call' := (SelectedCall.hosted.inj hcall).1
    rw [← hcall', hserial, hown] at hid'
    cases hid'
    exact .inr ⟨⟨result, hresult, hfailed⟩, hpinned⟩

theorem routes_of_find? {serial : Nat} {host : Server α}
    (hhint : r.attachments.value.hint? = some id)
    (hfind : s.fleet.refresh.find? id = some (serial, host)) : s.Routes e r id serial := by
  let settings := s.fleet.config.value.selection
  let ready := ((s.onFleet Fleet.refresh).adopt settings).track
  obtain ⟨-, hget, hid⟩ := Fleet.find?_spec hfind
  have hoffer : s.offer e r = ready.sendTo settings e serial := offer_hinted hhint hfind
  have hfleet : ready.fleet = s.fleet.refresh := s.ready_fleet settings
  have hsent : (s.offer e r).2.fleet = (s.fleet.refresh.offer serial e.label).2 := by
    rw [hoffer, ← hfleet]
    rfl
  have hown : ((s.offer e r).2.fleet.servers[serial]?).map Server.id = some id := by
    rw [hsent]
    refine Fleet.id_act ?_ (.offer serial e.label)
    rw [hget, ← hid]
    rfl
  have hsteady : ((s.onFleet Fleet.refresh).adopt settings).selector.Steady
      (s.offer e r).2.selector := by
    rw [hoffer]
    exact track_steady _
  have hepoch : (s.offer e r).2.epoch = ((s.onFleet Fleet.refresh).adopt settings).epoch := by
    rw [hoffer]
    exact track_epoch _
  have hentropy : (s.offer e r).2.entropy =
      ((s.onFleet Fleet.refresh).adopt settings).entropy := by
    rw [hoffer]
    exact track_entropy _
  refine
    { offered := hsent
      dispatched := ?_
      kept := fun hsame => ?_
      replaced := fun hother => ?_
      later := fun acts call epoch settings hserial =>
        ⟨pinned_poll_own hown acts hserial epoch settings, rfl⟩ }
  · have hanswer : (s.offer e r).1 = (s.fleet.refresh.offer serial e.label).1.map
        fun call => .hosted call (s.offer e r).2.epoch settings := by
      rw [hoffer, ← hfleet]
      rfl
    have hoffers := s.fleet.refresh.offer_offers serial e.label
    have hbefore := s.fleet.refresh_carries.sent
    rw [hanswer, hsent]
    generalize s.fleet.refresh.offer serial e.label = offered at hoffers
    obtain ⟨answer, fleet⟩ := offered
    cases hoffers with
    | missing => exact .inl ⟨rfl, hbefore⟩
    | excluded => exact .inl ⟨rfl, hbefore⟩
    | full => exact .inl ⟨rfl, hbefore⟩
    | @sent h call o hget' =>
      have hhost : h = host := Option.some.inj (hget'.symm.trans hget)
      subst hhost
      exact .inr ⟨_, _, rfl, rfl, congrArg (_ :: ·) hbefore, rfl, hid⟩
  · have hadopt := adopt_same (s := s.onFleet Fleet.refresh) hsame
    rw [hadopt] at hsteady hepoch hentropy
    exact ⟨hsteady, hepoch, hentropy⟩
  · have hadopt : (s.onFleet Fleet.refresh).adopt settings = _ := if_neg hother
    rw [hadopt] at hsteady hepoch hentropy
    refine ⟨hsteady, ?_, hepoch, hentropy⟩
    rw [pinned, hsteady.pinned]
    exact Selector.pinned_new _ _

/-- In every state, under every strategy and for every request that asks for a host: if the host
is in use, the call is offered to it only, as `Routes` says, and if it is not, everything is as if
the request had asked for none. -/
theorem offer_routes (s : Selection α) (e : Endpoint) {r : Request} {id : HostId}
    (hhint : r.attachments.value.hint? = some id) :
    (∀ serial host, s.fleet.refresh.find? id = some (serial, host) → s.Routes e r id serial) ∧
      (s.fleet.refresh.find? id = none → s.offer e r = s.offer e r.withoutHint) := by
  refine ⟨fun serial host hfind => routes_of_find? hhint hfind, fun hnone => offer_congr ?_⟩
  have hwithout : r.withoutHint.attachments.value.hint? = none :=
    Attachments.hint?_without r.attachments.value
  rw [hhint, hwithout, Option.bind_some, hnone]
  rfl

/-- A request that asks for a host. -/
def askingFor (id : HostId) : Request := .ofEdits [.attach (.hint id)]

/-- The first of the two hosts below. -/
def hostA : HostId := ⟨"https://a.example:443"⟩

/-- The second of the two hosts below. -/
def hostB : HostId := ⟨"https://b.example:443"⟩

/-- Settings with two hosts and some strategy. -/
def twoUnder (strategy : Strategy) : ClientConfig Rat :=
  { ClientConfig.standard with
    uris := ["https://a.example", "https://b.example"]
    selection := { SelectionConfig.standard with strategy := strategy, seed := some 7 } }

/-- A call was offered to two hosts, by which the first one was pinned. -/
def pinning : Selection Rat :=
  (new (.new .start (.new (twoUnder .pinUntilError)) none (.new .standard (.ofSeed 0)))
    (.ofSeed 0)).run [.offer browse (.blank 0)]

/-- A call that asks for the second host leaves the first one pinned. -/
theorem offer_routes_beside_pinned :
    (askingFor hostB).attachments.value.hint? = some hostB ∧
      pinning.Routes browse (askingFor hostB) hostB 1 ∧
        (pinning.offer browse (askingFor hostB)).2.pinned = some hostA := by
  have hhint : (askingFor hostB).attachments.value.hint? = some hostB := by decide
  have hserial : (pinning.fleet.refresh.find? hostB).map Prod.fst = some 1 := by decide +kernel
  obtain ⟨⟨serial, host⟩, hfind, rfl⟩ := Option.map_eq_some_iff.mp hserial
  exact ⟨hhint, (offer_routes pinning browse hhint).1 _ host hfind, by decide +kernel⟩

/-- Then the settings name the other strategy that pins. -/
def renamed : Selection Rat :=
  pinning.run [.hosts (.update (twoUnder .pinWithoutReshuffle))]

/-- A call that asks for the very host that is pinned goes there, but none is pinned afterwards:
the other strategy takes over. -/
theorem hint_unpins_by_renaming :
    (askingFor hostA).attachments.value.hint? = some hostA ∧
      (renamed.fleet.refresh.find? hostA).isSome = true ∧ renamed.pinned = some hostA ∧
        (renamed.offer browse (askingFor hostA)).1.isSome = true ∧
          (renamed.offer browse (askingFor hostA)).2.pinned = none := by
  decide +kernel

end Selection

end RpcPipeline
