import RpcPipeline.Proofs.Selection.Offer
import RpcPipeline.Proofs.Selection.Pinning

/-!
# `RpcPipeline.Proofs.Selection.PinnedOffer`: an offer to the host that is pinned

Under a strategy that pins a host, a call is offered to this host only, unless it has a hint. The
host takes the call, or refuses it because it has no free slot. Before that the host may have
been replaced: because it was pinned for as long as it may, or is no longer in use, or is
excluded.

* `Selection.PinOffers`, `offer_pinOffers`: what can come of an offer.
* `Selection.Dispatches`, `PinOffers.dispatches`: where the call goes.
* `PinOffers.keeps`, `PinOffers.replaces`: what becomes of the host that was pinned before.
-/

set_option autoImplicit false

namespace RpcPipeline

variable {α : Type} [Scalar α]

namespace Selection

omit [Scalar α] in
/-- The strategy pins a host. -/
def Pins (s : Selection α) : Prop := ∃ p, s.selector = .pin p

/-- The request leaves the choice of the host to the strategy: it has no hint, or hints at a host
that is not in use. -/
def Chooses (s : Selection α) (r : Request) : Prop :=
  r.attachments.value.hint?.bind s.fleet.refresh.find? = none

omit [Scalar α] in
/-- When the host was pinned, if the strategy pins one. -/
def pinnedAt? (s : Selection α) : Option Instant :=
  match s.selector with
  | .balanced _ => none
  | .pin p => p.pinnedAt

omit [Scalar α] in
/-- How long a host stays pinned at most. -/
def interval? (s : Selection α) : Option Nanos :=
  if s.strategy = .pinUntilError then s.fleet.config.value.selection.reshuffleInterval else none

omit [Scalar α] in
/-- The host has been pinned for as long as it may. There is such a time only under one of the
strategies. -/
def Due (s : Selection α) : Prop :=
  s.strategy = .pinUntilError ∧ ∃ interval since,
    s.fleet.config.value.selection.reshuffleInterval = some interval ∧
      s.pinnedAt? = some since ∧ interval ≤ s.now - since

/-- Nothing speaks against a host that is pinned, when the hosts are looked at now. -/
def Suits (s : Selection α) (id : HostId) : Prop :=
  id ∈ s.fleet.refresh.ids ∧ s.fleet.refresh.excludes id = false ∧ ¬ s.Due

/-- Some other host could be pinned, when the hosts are looked at now. -/
def HasOther (s : Selection α) (id : HostId) : Prop :=
  ∃ other ∈ s.fleet.refresh.ids, s.fleet.refresh.excludes other = false ∧ other ≠ id

variable {s s' : Selection α} {p p' : Pinning}

omit [Scalar α] in
theorem pinned_pin (hpin : s.selector = .pin p) : s.pinned = p.pinned := by
  rw [pinned, hpin]
  rfl

omit [Scalar α] in
theorem isDue_iff (hpin : s.selector = .pin p) : p.isDue s.now s.interval? = true ↔ s.Due := by
  have hat : s.pinnedAt? = p.pinnedAt := by rw [pinnedAt?, hpin]
  unfold Pinning.isDue interval? Due
  rw [hat]
  by_cases hstrategy : s.strategy = .pinUntilError
  · rw [if_pos hstrategy]
    cases s.fleet.config.value.selection.reshuffleInterval <;> cases p.pinnedAt <;>
      simp [hstrategy]
  · rw [if_neg hstrategy]
    simp [hstrategy]

/-- What a strategy that pins has to say about a host is what the selection says. -/
theorem suits_iff (hpin : s.selector = .pin p) {id : HostId} :
    (id ∈ s.fleet.refresh.ids ∧ s.fleet.refresh.excludes id = false ∧
      p.isDue s.now s.interval? = false) ↔ s.Suits id := by
  rw [Suits, ← isDue_iff hpin, Bool.not_eq_true]

theorem hasOther_iff {id : HostId} :
    Pinning.HasOther s.fleet.refresh.ids s.fleet.refresh.excludes (some id) ↔ s.HasOther id := by
  simp [Pinning.HasOther, HasOther]

/-! ### Offers -/

omit [Scalar α] in
/-- An offer to some hosts in turn changes nothing but the fleet. -/
theorem Sends.keeps [Scalar α] {e : Endpoint} {serials : List Nat}
    {answer : Option (SelectedCall α)} (h : Sends s e serials answer s') :
    s'.selector = s.selector ∧ s'.epoch = s.epoch := by
  cases h <;> exact ⟨rfl, rfl⟩

/-- The selection that has found `p'` for the next call. -/
def turned (s : Selection α) (p' : Pinning) : Selection α :=
  { s with fleet := s.fleet.refresh, selector := .pin p' }

/-- What can come of an offer under a strategy that pins and is not replaced. -/
inductive PinOffers (s : Selection α) (p : Pinning) (e : Endpoint) (r : Request) :
    Option (SelectedCall α) → Selection α → Prop where
  | noHosts (hempty : s.fleet.refresh.members = []) :
      PinOffers s p e r (some (.noHosts e.service)) (s.onFleet Fleet.refresh)
  | hinted {answer : Option (SelectedCall α)} {s' : Selection α} (hhint : ¬ s.Chooses r)
      (hselector : s'.selector = s.selector) : PinOffers s p e r answer s'
  | chosen {answer : Option (SelectedCall α)} {s' : Selection α} {chosen : Option HostId}
      {p' : Pinning} (hchooses : s.Chooses r)
      (hturns : p.Turns s.now s.interval? s.fleet.refresh.ids s.fleet.refresh.excludes chosen p')
      (hsends : Sends (s.turned p') e
        ((chosen.bind s.fleet.refresh.find?).map (·.1)).toList answer s') :
      PinOffers s p e r answer s'

theorem track_pin (hpin : s.selector = .pin p) : s.track = s := by
  unfold track
  split
  · next b hb =>
    rw [hpin] at hb
    cases hb
  · rfl

/-- A strategy that pins asks one host at most. -/
theorem choices_pin (hpin : s.selector = .pin p) (settings : SelectionConfig α) :
    s.choices settings =
      let interval := if s.strategy = .pinUntilError then settings.reshuffleInterval else none
      let turn := p.current s.now interval s.fleet.ids s.fleet.excludes
      (((turn.1.bind s.fleet.find?).map (·.1)).toList, { s with selector := .pin turn.2 }) := by
  unfold choices
  split
  · next b hb =>
    rw [hpin] at hb
    cases hb
  · next q hq =>
    rw [hpin] at hq
    cases hq
    rfl

omit [Scalar α] in
theorem adopt_same {settings : SelectionConfig α} (h : s.strategy = settings.strategy) :
    s.adopt settings = s := if_pos h

omit [Scalar α] in
theorem adopt_epoch {settings : SelectionConfig α} (h : s.strategy ≠ settings.strategy) :
    (s.adopt settings).epoch = s.epoch + 1 := by
  unfold adopt
  rw [if_neg h]

theorem track_epoch (s : Selection α) : s.track.epoch = s.epoch := by
  unfold track
  split <;> rfl

theorem choices_epoch (s : Selection α) (settings : SelectionConfig α) :
    (s.choices settings).2.epoch = s.epoch := by
  unfold choices
  split <;> rfl

/-- An offer to the hosts in use, once they are up to date and the strategy is that of the
settings. -/
def offerReady (t : Selection α) (settings : SelectionConfig α) (e : Endpoint) (r : Request) :
    Option (SelectedCall α) × Selection α :=
  match r.attachments.value.hint?.bind t.fleet.find? with
  | some (serial, _) => t.sendTo settings e serial
  | none => (t.choices settings).2.sendToFirst settings e (t.choices settings).1

/-- Without hosts, an offer does nothing but look for some. -/
theorem offer_noHosts (hmembers : s.fleet.refresh.members.isEmpty = true) (e : Endpoint)
    (r : Request) :
    s.offer e r = (some (.noHosts e.service), s.onFleet Fleet.refresh) :=
  if_pos hmembers

/-- What an offer does if there are hosts at all. -/
theorem offer_eq (hmembers : s.fleet.refresh.members.isEmpty = false) (e : Endpoint)
    (r : Request) :
    s.offer e r =
      ((s.onFleet Fleet.refresh).adopt s.fleet.config.value.selection).track.offerReady
        s.fleet.config.value.selection e r :=
  if_neg (by
    show ¬ s.fleet.refresh.members.isEmpty = true
    rw [hmembers]
    exact Bool.false_ne_true)

/-- A strategy that is replaced begins a new epoch. -/
theorem offer_epoch (hmembers : s.fleet.refresh.members.isEmpty = false) (e : Endpoint)
    (r : Request) :
    (s.offer e r).2.epoch =
      ((s.onFleet Fleet.refresh).adopt s.fleet.config.value.selection).epoch := by
  rw [offer_eq hmembers, offerReady]
  split
  · exact (sendTo_sends _ _ e _).keeps.2.trans (track_epoch _)
  · exact ((sendToFirst_sends _ _ e _).keeps.2.trans (choices_epoch _ _)).trans (track_epoch _)

theorem offer_pinOffers (hpin : s.selector = .pin p) {e : Endpoint} {r : Request}
    (hepoch : (s.offer e r).2.epoch = s.epoch) :
    s.PinOffers p e r (s.offer e r).1 (s.offer e r).2 := by
  cases hmembers : s.fleet.refresh.members.isEmpty with
  | true =>
    rw [offer_noHosts hmembers]
    exact .noHosts (List.isEmpty_iff.mp hmembers)
  | false =>
    have hstrategy : s.strategy = s.fleet.config.value.selection.strategy := by
      refine Classical.byContradiction fun hne => ?_
      rw [offer_epoch hmembers, adopt_epoch (s := s.onFleet Fleet.refresh) hne] at hepoch
      exact absurd hepoch (Nat.succ_ne_self s.epoch)
    have hready : ((s.onFleet Fleet.refresh).adopt s.fleet.config.value.selection).track =
        s.onFleet Fleet.refresh := by
      rw [adopt_same (s := s.onFleet Fleet.refresh) hstrategy,
        track_pin (s := s.onFleet Fleet.refresh) hpin]
    have hnow : (s.onFleet Fleet.refresh).now = s.now := s.fleet.refresh_carries.now
    rw [offer_eq hmembers, hready, offerReady]
    split
    · next serial h hhint =>
      refine .hinted (fun hchooses => ?_) (sendTo_sends _ _ e serial).keeps.1
      rw [Chooses] at hchooses
      exact absurd (hhint.symm.trans hchooses) (Option.some_ne_none _)
    · next hchooses =>
      rw [choices_pin (s := s.onFleet Fleet.refresh) hpin, hnow]
      exact .chosen hchooses (p.current_turns ..) (sendToFirst_sends _ _ e _)

/-! ### What goes out -/

/-- Whatever went out since `before` went to one host, and so did the call of the answer. -/
structure Dispatches (before : List (Sending α)) (answer : Option (SelectedCall α))
    (s' : Selection α) (id : Option HostId) : Prop where
  sent : ∃ sent, s'.fleet.sent = sent ++ before ∧ ∀ c ∈ sent, id = some c.id
  answer : ∀ call epoch settings, answer = some (.hosted call epoch settings) →
    ∃ h, s'.fleet.servers[call.serial]? = some h ∧ id = some h.id

/-- If one host is asked at most, then nothing goes out to any other. -/
theorem Sends.dispatches {e : Endpoint} {chosen : Option HostId}
    {answer : Option (SelectedCall α)}
    (h : Sends s e ((chosen.bind s.fleet.find?).map (·.1)).toList answer s') :
    Dispatches s.fleet.sent answer s' chosen := by
  cases h with
  | refused => exact ⟨⟨[], rfl, fun c hc => by cases hc⟩, fun _ _ _ hanswer => by cases hanswer⟩
  | @hosted events serial call fleet settings _ hserial hoffer =>
    rw [Option.mem_toList, Option.map_eq_some_iff] at hserial
    obtain ⟨⟨n, host⟩, hasked, rfl⟩ := hserial
    obtain ⟨id, rfl, hfind⟩ := Option.bind_eq_some_iff.mp hasked
    obtain ⟨-, hget, hid⟩ := Fleet.find?_spec hfind
    have hget' : (s.fleet.emit events).servers[n]? = some host := hget
    -- The host has other slots left than before, but the same name.
    have hids : (fleet.servers[n]?).map Server.id = some id := by
      rw [hoffer.stays.1.ids n, hget', ← hid]
      rfl
    obtain ⟨server, hserver, hname⟩ := Option.map_eq_some_iff.mp hids
    cases hoffer with
    | @sent host' _ o hget'' =>
      have hsame : host' = host := Option.some.inj (hget''.symm.trans hget')
      subst hsame
      refine ⟨⟨[_], rfl, fun c hc => ?_⟩, fun call epoch settings hanswer => ?_⟩
      · rw [List.mem_singleton.mp hc]
        exact congrArg some hid.symm
      · cases hanswer
        exact ⟨server, hserver, congrArg some hname.symm⟩

/-! ### Offers while a host is pinned -/

/-- A call goes to no other host than the one that is pinned right after it. -/
theorem PinOffers.dispatches {e : Endpoint} {r : Request} {answer : Option (SelectedCall α)}
    (h : s.PinOffers p e r answer s') (hchooses : s.Chooses r) :
    Dispatches s.fleet.sent answer s' s'.pinned := by
  have hsent := s.fleet.refresh_carries.sent
  cases h with
  | noHosts =>
    exact ⟨⟨[], hsent, fun c hc => by cases hc⟩, fun _ _ _ hanswer => by cases hanswer⟩
  | hinted hhint => exact absurd hchooses hhint
  | @chosen _ _ chosen p' _ hturns hsends =>
    have hdispatches := Sends.dispatches (s := s.turned p') hsends
    have hpinned : s'.pinned = p'.pinned := pinned_pin hsends.keeps.1
    cases chosen with
    | none =>
      -- No host was found, so nothing went out at all.
      obtain ⟨⟨sent, hall, hnone⟩, hanswer⟩ := hdispatches
      refine ⟨⟨sent, hall.trans (congrArg (sent ++ ·) hsent), fun c hc => ?_⟩, fun _ _ _ ha => ?_⟩
      · cases hnone c hc
      · obtain ⟨_, _, hfound⟩ := hanswer _ _ _ ha
        cases hfound
    | some id =>
      rw [hpinned, hturns.pinned, ← hsent]
      exact hdispatches

omit [Scalar α] in
theorem exists_find? {f : Fleet α} {id : HostId} (h : id ∈ f.ids) :
    ∃ serial host, f.find? id = some (serial, host) := by
  obtain ⟨x, hx, hid⟩ := List.mem_map.mp h
  have hsome : (f.find? id).isSome := List.find?_isSome.mpr ⟨x, hx, decide_eq_true hid⟩
  obtain ⟨⟨serial, host⟩, hfind⟩ := Option.isSome_iff_exists.mp hsome
  exact ⟨serial, host, hfind⟩

/-- A host is kept if nothing speaks against it. It is sent the call, unless it has no free
slot. -/
theorem PinOffers.keeps {e : Endpoint} {r : Request} {answer : Option (SelectedCall α)}
    {id : HostId} (h : s.PinOffers p e r answer s') (hpin : s.selector = .pin p)
    (hchooses : s.Chooses r) (hpinned : p.pinned = some id) (hsuits : s.Suits id) :
    s'.pinned = some id ∧
      ((∃ call epoch settings, answer = some (.hosted call epoch settings)) ∨
        answer = none ∧ s'.fleet.sent = s.fleet.sent ∧
          ∃ serial h, s.fleet.refresh.find? id = some (serial, h) ∧
            h.limiter.hasCapacity = false) := by
  obtain ⟨n, hn, -⟩ := Fleet.mem_ids.mp hsuits.1
  cases h with
  | noHosts hempty =>
    rw [hempty] at hn
    cases hn
  | hinted hhint => exact absurd hchooses hhint
  | chosen _ hturns hsends =>
    rcases hturns.of_pinned hpinned with ⟨rfl, rfl, -⟩ | ⟨hcause, -⟩
    · refine ⟨(pinned_pin hsends.keeps.1).trans hpinned, ?_⟩
      cases hsends with
      | hosted => exact .inl ⟨_, _, _, rfl⟩
      | refused hsilent hrefused =>
        refine .inr ⟨rfl, s.fleet.refresh_carries.sent, ?_⟩
        obtain ⟨serial, host, hfind⟩ := exists_find? hsuits.1
        obtain ⟨-, hget, hid⟩ := Fleet.find?_spec hfind
        have hincluded : s.fleet.refresh.excludes host.id = false := hid ▸ hsuits.2.1
        have hasked : serial ∈ (((some id).bind s.fleet.refresh.find?).map (·.1)).toList := by
          rw [Option.bind_some, hfind]
          exact List.mem_singleton.mpr rfl
        rcases hrefused serial hasked host hget with hexcluded | hfull
        · exact absurd (hincluded.symm.trans hexcluded) Bool.false_ne_true
        · exact ⟨serial, host, hfind, hfull⟩
    · exact absurd ((suits_iff hpin).mpr hsuits) hcause

/-- A host that has to be left makes room for another one, if there is another. -/
theorem PinOffers.replaces {e : Endpoint} {r : Request} {answer : Option (SelectedCall α)}
    {id : HostId} (h : s.PinOffers p e r answer s') (hpin : s.selector = .pin p)
    (hchooses : s.Chooses r) (hpinned : p.pinned = some id) (hleaves : ¬ s.Suits id)
    (hother : s.HasOther id) : ∃ next, next ≠ id ∧ s'.pinned = some next := by
  obtain ⟨other, hmember, hincluded, hne⟩ := hother
  obtain ⟨n, hn, -⟩ := Fleet.mem_ids.mp hmember
  cases h with
  | noHosts hempty =>
    rw [hempty] at hn
    cases hn
  | hinted hhint => exact absurd hchooses hhint
  | chosen _ hturns hsends =>
    rcases hturns.of_pinned hpinned with ⟨-, -, hsuits⟩ | ⟨-, hpicks⟩
    · exact absurd ((suits_iff hpin).mp hsuits) hleaves
    · cases hpicks with
      | nobody hexcluded =>
        rw [hexcluded other hmember] at hincluded
        cases hincluded
      | pins next random hmember' hincluded' hdrawn =>
        refine ⟨next, ?_, pinned_pin hsends.keeps.1⟩
        rintro rfl
        exact hdrawn (hasOther_iff.mpr ⟨other, hmember, hincluded, hne⟩) rfl

end Selection

end RpcPipeline
