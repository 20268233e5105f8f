import RpcPipeline.Pipeline.Pipeline
import RpcPipeline.Proofs.Queue.Backend
import RpcPipeline.Proofs.Selection.Offer

/-!
# `RpcPipeline.Proofs.Selection.Sound`: calls go only to hosts that may take them

The fleet keeps notes of every call that went out to a host and of how things stood at
that moment. `Selection.Sound` says that these notes are complete and that each call went
to a host that there should be and that was not excluded.

Selection is what lies behind the queue of a pipeline, and `backend_obeys` puts down what
each of its operations keeps.

* `Sending.Admissible`: a call went out that should have.
* `Selection.offer_admits`: what an offer sends.
* `Selection.backend_obeys`: what selection keeps behind a queue.
-/

set_option autoImplicit false

namespace RpcPipeline

variable {α : Type}

/-- When a call went out, its host was among those that there should be, and it was not
excluded. -/
structure Sending.Admissible (c : Sending α) : Prop where
  due : c.id ∈ (Placement.all c.config c.dns).map Placement.id
  included : c.blacklist.excludes c.now c.id = false

/-- The call as the hosts' side sees it. -/
def Sending.call (c : Sending α) : String × String := (c.hostname, c.endpoint)

/-- The call went out under the settings and with the names that a selection has, and at its
time. -/
structure Sending.Under (c : Sending α) (s : Selection α) : Prop where
  config : c.config = s.fleet.config.value
  dns : c.dns = s.fleet.dns.map (·.value)
  now : c.now = s.now

/-- A request that leaves the choice of the host to the strategy. -/
def Request.Unhinted (r : Request) : Prop := r.attachments.value.hint? = none

namespace Selection

variable [Scalar α] {s s' : Selection α}

/-! ### Polling, dropping and reporting -/

theorem poll_rests (s : Selection α) (c : SelectedCall α) :
    s.fleet.Rests (s.poll c).2.2.fleet ∧ (s.Fits → (s.poll c).2.2.Fits) ∧
      ((s.poll c).1 = none → (s.poll c).2.2 = s) := by
  unfold poll
  cases c with
  | noHosts service => exact ⟨.refl _, id, fun h => by cases h⟩
  | hosted call epoch settings =>
    obtain ⟨hrests, -, hpending⟩ := s.fleet.poll_rests call
    dsimp only
    rcases hpoll : s.fleet.poll call with ⟨_ | result, call', fleet⟩
    · rw [hpoll] at hrests hpending
      have hfleet : fleet = s.fleet := hpending rfl
      subst hfleet
      exact ⟨hrests, id, fun _ => rfl⟩
    · rw [hpoll] at hrests
      dsimp only
      split
      · next h _ =>
        split
        · exact ⟨hrests, fun hs => Selector.learn_fits hs _ _ _ _, fun hnone => by cases hnone⟩
        · exact ⟨hrests, id, fun hnone => by cases hnone⟩
      · exact ⟨hrests, id, fun hnone => by cases hnone⟩

omit [Scalar α] in
theorem drop_rests (s : Selection α) (c : SelectedCall α) :
    s.fleet.Rests (s.drop c).fleet ∧ (s.Fits → (s.drop c).Fits) := by
  cases c with
  | noHosts service => exact ⟨.refl _, id⟩
  | hosted call epoch settings => exact ⟨s.fleet.drop_rests call, id⟩

/-! ### What went out -/

/-- The hosts in use are those that there should be, and the calls that went out since
`before` are those in the notes, each of which went to a host that should have it. -/
structure Sound (before : List (String × String)) (s : Selection α) : Prop where
  fits : s.Fits
  current : s.fleet.Current
  admissible : ∀ c ∈ s.fleet.sent, c.Admissible
  calls_eq : s.fleet.outside.calls = s.fleet.sent.map Sending.call ++ before

variable {before : List (String × String)}

omit [Scalar α] in
/-- Whatever leaves the hosts alone and sends nothing keeps this. -/
theorem Sound.stays (h : s.Sound before) (hfits : s'.Fits) (hstays : s.fleet.Stays s'.fleet)
    (hsent : s'.fleet.sent = s.fleet.sent)
    (hcalls : s'.fleet.outside.calls = s.fleet.outside.calls) : s'.Sound before where
  fits := hfits
  current := h.current.stays hstays
  admissible := by
    rw [hsent]
    exact h.admissible
  calls_eq := by
    rw [hcalls, hsent]
    exact h.calls_eq

omit [Scalar α] in
theorem Sound.rests (h : s.Sound before) (hfits : s'.Fits) (hrests : s.fleet.Rests s'.fleet) :
    s'.Sound before :=
  h.stays hfits hrests.stays hrests.sent hrests.calls

/-- What an offer sends: nothing if the call is refused, and otherwise at most one call,
which goes to a host that there should be now and that is not excluded now. A refusal
takes no slot of any host. -/
structure Admits (s : Selection α) (answer : Option (SelectedCall α)) (s' : Selection α) :
    Prop where
  sent : ∃ sent : List (Sending α), s'.fleet.sent = sent ++ s.fleet.sent ∧
    s'.fleet.outside.calls = sent.map Sending.call ++ s.fleet.outside.calls ∧
    sent.length ≤ 1 ∧ (answer = none → sent = []) ∧
    ∀ c ∈ sent, c.Under s ∧ c.blacklist = s'.fleet.blacklist ∧
      (s.fleet.Current → c.Admissible)
  load : answer = none → ∀ serial, s'.fleet.load serial = s.fleet.load serial

theorem offer_admits (s : Selection α) (e : Endpoint) (r : Request) :
    s.Admits (s.offer e r).1 (s.offer e r).2 := by
  have hcarries := s.fleet.refresh_carries
  have hoffers := s.offer_offers e r
  generalize (s.offer e r).1 = answer at hoffers
  generalize (s.offer e r).2 = s' at hoffers
  cases hoffers with
  | noHosts =>
    exact ⟨⟨[], hcarries.sent, hcarries.calls, Nat.zero_le _, fun _ => rfl, by simp⟩,
      fun h => by cases h⟩
  | @refused s' events hsilent hfleet _ _ =>
    refine ⟨⟨[], ?_, ?_, Nat.zero_le _, fun _ => rfl, by simp⟩, fun _ serial => ?_⟩
    · rw [hfleet]
      exact hcarries.sent
    · rw [hfleet]
      exact (Outside.calls_emit hsilent).trans hcarries.calls
    · rw [hfleet]
      exact hcarries.load serial
  | @hosted s' events serial epoch call settings hsilent hserial hoffer _ =>
    generalize hf : s'.fleet = f at hoffer
    cases hoffer with
    | @sent h call o hget hincluded hfree hnow hcalls =>
      refine ⟨⟨[(s.fleet.refresh.emit events).sending serial h e.label], ?_, ?_, Nat.le_refl _,
        (fun hnone => by cases hnone), fun c hc => ?_⟩, fun hnone => by cases hnone⟩
      · rw [hf]
        exact congrArg (_ :: ·) hcarries.sent
      · rw [hf]
        refine hcalls.trans (congrArg (_ :: ·) ?_)
        exact (Outside.calls_emit hsilent).trans hcarries.calls
      · rw [List.mem_singleton.mp hc]
        refine ⟨⟨congrArg Cell.value hcarries.config,
          congrArg (Option.map Cell.value) hcarries.dns, hcarries.now⟩, ?_, fun hcurrent => ?_⟩
        · rw [hf]
          rfl
        · -- The fleet was brought up to date just before, and the host is one of it.
          have hget' : s.fleet.refresh.servers[serial]? = some h := hget
          have hid : h.id ∈ s.fleet.refresh.ids :=
            Fleet.mem_ids.mpr ⟨serial, hserial, by rw [hget']; rfl⟩
          exact ⟨((Fleet.refresh_matches hcurrent).ids h.id).mp hid, hincluded⟩

/-- Whatever comes of an offer, the hosts that there should be are in use from then on. -/
theorem Offers.stays {e : Endpoint} {r : Request} {answer : Option (SelectedCall α)}
    (h : Offers s e r answer s') :
    s.fleet.refresh.Stays s'.fleet ∧ s'.now = s.now ∧ (s.Fits → s'.Fits) := by
  have hnow := s.fleet.refresh_carries.now
  cases h with
  | noHosts => exact ⟨.refl _, hnow, id⟩
  | refused _ hfleet hfits _ =>
    refine ⟨?_, ?_, hfits⟩
    · rw [hfleet]
      exact ⟨rfl, rfl, rfl, rfl, fun _ => rfl⟩
    · rw [now, hfleet]
      exact hnow
  | hosted _ _ hoffer hfits =>
    obtain ⟨hstays, hsame⟩ := hoffer.stays
    exact ⟨⟨hstays.config, hstays.dns, hstays.seen, hstays.members, hstays.ids⟩,
      hsame.trans hnow, hfits⟩

theorem offer_sound (h : s.Sound before) (e : Endpoint) (r : Request) :
    (s.offer e r).2.Sound before := by
  obtain ⟨hstays, -, hfits⟩ := (s.offer_offers e r).stays
  obtain ⟨sent, hsent, hcalls, -, -, hadmissible⟩ := (s.offer_admits e r).sent
  refine ⟨hfits h.fits, (Fleet.refresh_current h.current).stays hstays, fun c hc => ?_, ?_⟩
  · rw [hsent] at hc
    rcases List.mem_append.mp hc with hc | hc
    · obtain ⟨-, -, hgood⟩ := hadmissible c hc
      exact hgood h.current
    · exact h.admissible c hc
  · rw [hcalls, h.calls_eq, hsent, List.map_append, List.append_assoc]

/-! ### Selection behind a queue -/

/-- No time has passed, neither the settings nor what names were resolved to were replaced,
and all calls that went out did so under them. -/
structure Meanwhile (s s' : Selection α) : Prop where
  config : s'.fleet.config = s.fleet.config
  dns : s'.fleet.dns = s.fleet.dns
  now : s'.now = s.now
  sent : ∃ sent, s'.fleet.sent = sent ++ s.fleet.sent ∧ ∀ c ∈ sent, c.Under s

namespace Meanwhile

variable {s'' : Selection α}

omit [Scalar α] in
theorem refl (s : Selection α) : s.Meanwhile s := ⟨rfl, rfl, rfl, [], rfl, by simp⟩

omit [Scalar α] in
theorem trans (h : s.Meanwhile s') (h' : s'.Meanwhile s'') : s.Meanwhile s'' := by
  obtain ⟨sent, hsent, hunder⟩ := h.sent
  obtain ⟨sent', hsent', hunder'⟩ := h'.sent
  refine ⟨h'.config.trans h.config, h'.dns.trans h.dns, h'.now.trans h.now, sent' ++ sent, ?_,
    fun c hc => ?_⟩
  · rw [hsent', hsent, List.append_assoc]
  · rcases List.mem_append.mp hc with hc | hc
    · -- What went out last did so under settings and names that were there from the beginning.
      obtain ⟨hconfig, hdns, hnow⟩ := hunder' c hc
      rw [h.config] at hconfig
      rw [h.dns] at hdns
      exact ⟨hconfig, hdns, hnow.trans h.now⟩
    · exact hunder c hc

omit [Scalar α] in
theorem of_rests (h : s.fleet.Rests s'.fleet) : s.Meanwhile s' :=
  ⟨h.stays.config, h.stays.dns, h.now, [], h.sent, by simp⟩

end Meanwhile

theorem offer_meanwhile (s : Selection α) (e : Endpoint) (r : Request) :
    s.Meanwhile (s.offer e r).2 := by
  obtain ⟨hstays, hnow, -⟩ := (s.offer_offers e r).stays
  obtain ⟨sent, hsent, -, -, -, hunder⟩ := (s.offer_admits e r).sent
  have hcarries := s.fleet.refresh_carries
  exact ⟨hstays.config.trans hcarries.config, hstays.dns.trans hcarries.dns, hnow,
    sent, hsent, fun c hc => (hunder c hc).1⟩

/-- What an operation keeps that begins at `s₀`. -/
structure Keeps (before : List (String × String)) (s₀ s : Selection α) : Prop where
  sound : s.Sound before
  meanwhile : s₀.Meanwhile s

/-- If balanced selection chooses the hosts, none could take a call. -/
def Exhausted (R : Request → Prop) (s : Selection α) : Prop :=
  (∀ r, R r → r.Unhinted) → s.fleet.config.value.selection.strategy = .balanced → s.fleet.Full

variable {s₀ : Selection α} {R : Request → Prop}

omit [Scalar α] in
theorem Keeps.rests (h : Keeps before s₀ s) (hfits : s.Fits → s'.Fits)
    (hrests : s.fleet.Rests s'.fleet) : Keeps before s₀ s' :=
  ⟨h.sound.rests (hfits h.sound.fits) hrests, h.meanwhile.trans (.of_rests hrests)⟩

theorem Keeps.offer (h : Keeps before s₀ s) (e : Endpoint) (r : Request) :
    Keeps before s₀ (s.offer e r).2 :=
  ⟨offer_sound h.sound e r, h.meanwhile.trans (s.offer_meanwhile e r)⟩

/-- Reports do not tell whether a host could take a call. -/
theorem Exhausted.emit (h : s.Exhausted R) (events : List (Event α)) :
    (s.onFleet (·.emit events)).Exhausted R :=
  fun hr hb => ⟨(h hr hb).seen, (h hr hb).hosts⟩

/-- A refusal by balanced selection shows that no host could take a call. -/
theorem offer_exhausted (h : s.Fits) (e : Endpoint) {r : Request} (hr : R r)
    (hnone : (s.offer e r).1 = none) : (s.offer e r).2.Exhausted R := by
  have hoffers := s.offer_offers e r
  rw [hnone] at hoffers
  intro hunhinted hbalanced
  generalize (s.offer e r).2 = s' at hoffers hbalanced
  cases hoffers with
  | refused _ hfleet _ hfull =>
    rw [hfleet] at hbalanced ⊢
    have hconfig := congrArg Cell.value s.fleet.refresh_carries.config
    have hbalanced' : s.fleet.config.value.selection.strategy = .balanced := by
      rw [← hconfig]
      exact hbalanced
    have hfull' := hfull h hbalanced' (hunhinted r hr)
    exact ⟨hfull'.seen, hfull'.hosts⟩

theorem backend_quiet : (backend : Backend (SelectedCall α) (Selection α)).Quiet :=
  fun _ _ _ _ => rfl

theorem backend_obeys (R : Request → Prop) (before : List (String × String))
    (s₀ : Selection α) : backend.Obeys R (Keeps before s₀) (Exhausted R) where
  quiet := backend_quiet
  offer e r q s hr hs := ⟨hs.offer e r, offer_exhausted hs.sound.fits e hr⟩
  poll c s hs := by
    obtain ⟨hrests, hfits, hpending⟩ := s.poll_rests c
    refine ⟨hs.rests hfits hrests, fun hnone hfull => ?_⟩
    have hsame : (backend.poll c s).2.2 = s := hpending hnone
    rw [hsame]
    exact hfull
  drop c s hs := by
    obtain ⟨hrests, hfits⟩ := s.drop_rests c
    exact hs.rests hfits hrests
  report n s hs := by
    have hsilent : Silent [(.queueDepth n : Event α)] := by simp [Silent, Event.call?]
    exact ⟨hs.rests id (s.fleet.emit_rests hsilent), fun h => h.emit _⟩

end Selection

end RpcPipeline
