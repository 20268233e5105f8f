import RpcPipeline.Proofs.Hosts.Calls
import RpcPipeline.Selection.Selection

/-!
# `RpcPipeline.Proofs.Selection.Offer`: what comes of offering a call to the hosts

Whatever the strategy is and whatever it has learnt, it asks only hosts in use, and a
call that is refused leaves nothing behind but reports (`Selection.Offers`). Balanced
selection asks all of them, so a call that it refuses shows that none could take one
(`Fleet.Full`).

* `choices_subset`, `choices_perm`: which hosts a strategy asks.
* `offer_offers`: what can come of an offer.
* `Fleet.Full`: what a refusal by balanced selection shows.
-/

set_option autoImplicit false

namespace RpcPipeline

variable {α : Type} [Scalar α]

/-- The fleet is up to date, and no host in use could take a call. -/
structure Fleet.Full (f : Fleet α) : Prop where
  seen : f.seen = some f.sources
  hosts : ∀ serial h, (serial, h) ∈ f.hosts →
    f.excludes h.id = true ∨ h.limiter.hasCapacity = false

/-! ### Strategies -/

namespace Ranking

/-- Drawing random numbers for hosts keeps the hosts. -/
theorem jitters_snd {β : Type} (random : RandomStream) (xs : List β) :
    (jitters random xs : List (α × β) × RandomStream).1.map Prod.snd = xs := by
  induction xs generalizing random with
  | nil => rfl
  | cons x xs ih => exact congrArg (x :: ·) (ih _)

/-- Hosts are tried in some order, each of them once. -/
theorem rank_perm {β : Type} (b : Ranking α) (now : Instant) (halfLife : Nanos) (id : β → HostId)
    (load : β → Nat) (hosts : List β) : (b.rank now halfLife id load hosts).1.Perm hosts := by
  let score : α × β → α × β := fun x => (b.score now halfLife (id x.2) (load x.2) x.1, x.2)
  have hsorted : ((((jitters b.random hosts).1.map score).mergeSort
      fun x y => Scalar.ranksBefore x.1 y.1).map Prod.snd).Perm
        (((jitters b.random hosts).1.map score).map Prod.snd) :=
    (List.mergeSort_perm _ _).map _
  refine hsorted.trans ?_
  rw [List.map_map]
  exact List.Perm.of_eq (jitters_snd b.random hosts)

end Ranking

namespace Selector

omit [Scalar α] in
/-- Whether it is the strategy of that name. -/
def Fits (strategy : Strategy) : Selector α → Prop
  | balanced _ => strategy = .balanced
  | pin _ => strategy ≠ .balanced

omit [Scalar α] in
theorem new_fits (strategy : Strategy) (random : RandomStream) :
    (new strategy random : Selector α).Fits strategy := by
  cases strategy with
  | balanced => rfl
  | pinUntilError => exact Strategy.noConfusion
  | pinWithoutReshuffle => exact Strategy.noConfusion

theorem learn_fits {sel : Selector α} {strategy : Strategy} (h : sel.Fits strategy)
    (now : Instant) (settings : SelectionConfig α) (id : HostId) (outcome : Outcome) :
    (sel.learn now settings id outcome).Fits strategy := by
  unfold learn
  cases sel with
  | balanced b => cases outcome <;> exact h
  | pin p =>
    dsimp only
    split <;> exact h

end Selector

namespace Selection

variable {s s' : Selection α}

/-- What a strategy remembers belongs to the strategy in use. -/
def Fits (s : Selection α) : Prop := s.selector.Fits s.strategy

omit [Scalar α] in
theorem new_fits (fleet : Fleet α) (entropy : RandomStream) : (new fleet entropy).Fits :=
  Selector.new_fits _ _

omit [Scalar α] in
@[simp] theorem adopt_fleet (s : Selection α) (settings : SelectionConfig α) :
    (s.adopt settings).fleet = s.fleet := by
  unfold adopt
  split <;> rfl

omit [Scalar α] in
theorem adopt_strategy (s : Selection α) (settings : SelectionConfig α) :
    (s.adopt settings).strategy = settings.strategy := by
  unfold adopt
  split
  · next heq => exact heq
  · rfl

omit [Scalar α] in
theorem adopt_fits (h : s.Fits) (settings : SelectionConfig α) : (s.adopt settings).Fits := by
  unfold adopt
  split
  · exact h
  · exact Selector.new_fits _ _

@[simp] theorem track_fleet (s : Selection α) : s.track.fleet = s.fleet := by
  unfold track
  split <;> rfl

/-- When the hosts are asked, the fleet is as it was after it had looked at the settings. -/
theorem ready_fleet (s : Selection α) (settings : SelectionConfig α) :
    ((s.onFleet Fleet.refresh).adopt settings).track.fleet = s.fleet.refresh := by
  rw [track_fleet, adopt_fleet]
  rfl

@[simp] theorem track_strategy (s : Selection α) : s.track.strategy = s.strategy := by
  unfold track
  split <;> rfl

theorem track_fits (h : s.Fits) : s.track.Fits := by
  unfold track
  split
  · next b heq =>
    rw [Fits, heq] at h
    exact h
  · exact h

/-- A strategy asks only hosts in use. -/
theorem choices_subset (s : Selection α) (settings : SelectionConfig α) :
    ∀ serial ∈ (s.choices settings).1, serial ∈ s.fleet.members := by
  intro serial hserial
  unfold choices at hserial
  split at hserial
  · next b _ =>
    obtain ⟨⟨n, h⟩, hmem, rfl⟩ := List.mem_map.mp hserial
    exact (Fleet.mem_hosts.mp ((b.rank_perm ..).mem_iff.mp hmem)).1
  · next p _ =>
    dsimp only at hserial
    rw [Option.mem_toList, Option.map_eq_some_iff] at hserial
    obtain ⟨⟨n, h⟩, hfind, rfl⟩ := hserial
    obtain ⟨id, -, hfound⟩ := Option.bind_eq_some_iff.mp hfind
    exact (Fleet.find?_spec hfound).1

/-- Balanced selection asks all hosts in use. -/
theorem choices_perm (h : s.Fits) (hstrategy : s.strategy = .balanced)
    (settings : SelectionConfig α) :
    (s.choices settings).1.Perm (s.fleet.hosts.map Prod.fst) := by
  unfold choices
  split
  · next b _ => exact (b.rank_perm ..).map _
  · next p heq =>
    rw [Fits, heq] at h
    exact absurd hstrategy h

@[simp] theorem choices_fleet (s : Selection α) (settings : SelectionConfig α) :
    (s.choices settings).2.fleet = s.fleet := by
  unfold choices
  split <;> rfl

theorem choices_fits (h : s.Fits) (settings : SelectionConfig α) :
    (s.choices settings).2.Fits := by
  unfold choices
  split
  · next b heq =>
    rw [Fits, heq] at h
    exact h
  · next p heq =>
    rw [Fits, heq] at h
    exact h

/-! ### Offers -/

/-- What can come of an offer to hosts in turn. -/
inductive Sends (s : Selection α) (e : Endpoint) (serials : List Nat) :
    Option (SelectedCall α) → Selection α → Prop where
  | refused {events : List (Event α)} (hsilent : Silent events)
      (hrefused : ∀ serial ∈ serials, ∀ h, s.fleet.servers[serial]? = some h →
        s.fleet.excludes h.id = true ∨ h.limiter.hasCapacity = false) :
      Sends s e serials none { s with fleet := s.fleet.emit events }
  | hosted {events : List (Event α)} {serial : Nat} {call : HostedCall} {fleet : Fleet α}
      {settings : SelectionConfig α} (hsilent : Silent events)
      (hserial : serial ∈ serials)
      (hoffer : Fleet.Offers (s.fleet.emit events) serial e.label (some call) fleet) :
      Sends s e serials (some (.hosted call s.epoch settings)) { s with fleet := fleet }

theorem sendTo_sends (s : Selection α) (settings : SelectionConfig α) (e : Endpoint)
    (serial : Nat) :
    Sends s e [serial] (s.sendTo settings e serial).1 (s.sendTo settings e serial).2 := by
  have hoffer := s.fleet.offer_offers serial e.label
  unfold sendTo
  rcases heq : s.fleet.offer serial e.label with ⟨_ | call, fleet⟩
  · rw [heq] at hoffer
    obtain ⟨events, hsilent, hfleet, hrefused⟩ := hoffer.refused
    have hfleet' : fleet = s.fleet.emit events := hfleet
    subst hfleet'
    exact .refused hsilent fun n hn => by rw [List.mem_singleton.mp hn]; exact hrefused
  · rw [heq] at hoffer
    exact .hosted silent_nil (List.mem_singleton.mpr rfl) hoffer

theorem sendToFirst_sends (s : Selection α) (settings : SelectionConfig α) (e : Endpoint)
    (serials : List Nat) :
    Sends s e serials (s.sendToFirst settings e serials).1
      (s.sendToFirst settings e serials).2 := by
  induction serials generalizing s with
  | nil => exact .refused silent_nil fun _ hn => by cases hn
  | cons serial rest ih =>
    have hfirst := s.sendTo_sends settings e serial
    unfold sendToFirst
    rcases heq : s.sendTo settings e serial with ⟨_ | call, s₁⟩
    · rw [heq] at hfirst
      cases hfirst with
      | @refused events hsilent hrefused =>
        -- A refusal is only reported, so the next host is offered the call as it would be first.
        have hrest := ih { s with fleet := s.fleet.emit events }
        rcases heq' : sendToFirst { s with fleet := s.fleet.emit events } settings e rest with
          ⟨answer, s₂⟩
        rw [heq'] at hrest
        dsimp only
        rw [heq']
        cases hrest with
        | @refused more hsilent' hrefused' =>
          rw [Fleet.emit_emit]
          refine .refused (hsilent.append hsilent') fun n hn => ?_
          rcases List.mem_cons.mp hn with rfl | hn
          · exact hrefused n (List.mem_singleton.mpr rfl)
          · exact hrefused' n hn
        | @hosted more n call fleet _ hsilent' hn hoffer =>
          rw [Fleet.emit_emit] at hoffer
          exact .hosted (hsilent.append hsilent') (List.mem_cons_of_mem _ hn) hoffer
    · rw [heq] at hfirst
      cases hfirst with
      | hosted hsilent hn hoffer =>
        exact .hosted hsilent (List.mem_singleton.mp hn ▸ List.mem_cons_self) hoffer

/-- What can come of an offer. -/
inductive Offers (s : Selection α) (e : Endpoint) (r : Request) :
    Option (SelectedCall α) → Selection α → Prop where
  | noHosts (hempty : s.fleet.refresh.members = []) :
      Offers s e r (some (.noHosts e.service)) (s.onFleet Fleet.refresh)
  | refused {s' : Selection α} {events : List (Event α)}
      (hsilent : Silent events)
      (hfleet : s'.fleet = s.fleet.refresh.emit events) (hfits : s.Fits → s'.Fits)
      (hfull : s.Fits → s.fleet.config.value.selection.strategy = .balanced →
        r.attachments.value.hint? = none → s.fleet.refresh.Full) :
      Offers s e r none s'
  | hosted {s' : Selection α} {events : List (Event α)} {serial epoch : Nat}
      {call : HostedCall} {settings : SelectionConfig α}
      (hsilent : Silent events) (hserial : serial ∈ s.fleet.refresh.members)
      (hoffer : Fleet.Offers (s.fleet.refresh.emit events) serial e.label (some call) s'.fleet)
      (hfits : s.Fits → s'.Fits) :
      Offers s e r (some (.hosted call epoch settings)) s'

/-- If the hosts that are asked are in use, and balanced selection asks all of them
unless there is a hint, this is how an offer goes on. -/
theorem Sends.offers {s s₁ s₂ : Selection α} {e : Endpoint} {r : Request} {serials : List Nat}
    {answer : Option (SelectedCall α)} (h : Sends s₁ e serials answer s₂)
    (hfleet : s₁.fleet = s.fleet.refresh) (hfits : s.Fits → s₁.Fits)
    (hmember : ∀ serial ∈ serials, serial ∈ s.fleet.refresh.members)
    (hall : s.Fits → s.fleet.config.value.selection.strategy = .balanced →
      r.attachments.value.hint? = none →
        ∀ serial h, (serial, h) ∈ s.fleet.refresh.hosts → serial ∈ serials) :
    Offers s e r answer s₂ := by
  cases h with
  | @refused events hsilent hrefused =>
    rw [hfleet] at hrefused
    refine .refused hsilent (by rw [← hfleet]) hfits fun hs hstrategy hhint => ?_
    refine ⟨s.fleet.seen_refresh, fun serial h hmem => ?_⟩
    have hget := (Fleet.mem_hosts.mp hmem).2
    exact hrefused serial (hall hs hstrategy hhint serial h hmem) h hget
  | hosted hsilent hserial hoffer =>
    rw [hfleet] at hoffer
    exact .hosted hsilent (hmember _ hserial) hoffer hfits

theorem offer_offers (s : Selection α) (e : Endpoint) (r : Request) :
    Offers s e r (s.offer e r).1 (s.offer e r).2 := by
  unfold offer
  dsimp only
  split
  · next hempty => exact .noHosts (List.isEmpty_iff.mp hempty)
  · let settings := s.fleet.config.value.selection
    let s₁ := ((s.onFleet Fleet.refresh).adopt settings).track
    have hfleet : s₁.fleet = s.fleet.refresh := s.ready_fleet settings
    have hstrategy : s₁.strategy = settings.strategy := by rw [track_strategy, adopt_strategy]
    have hfits : s.Fits → s₁.Fits := fun hs =>
      track_fits (adopt_fits (s := s.onFleet Fleet.refresh) hs settings)
    split
    · next serial h hfind =>
      obtain ⟨id, hhint, hfound⟩ := Option.bind_eq_some_iff.mp hfind
      refine (sendTo_sends s₁ settings e serial).offers hfleet hfits (fun n hn => ?_)
        fun _ _ hnone => ?_
      · rw [List.mem_singleton.mp hn, ← hfleet]
        exact (Fleet.find?_spec hfound).1
      · rw [hnone] at hhint
        cases hhint
    · refine (sendToFirst_sends _ settings e _).offers ((choices_fleet ..).trans hfleet)
        (fun hs => choices_fits (hfits hs) settings) (fun n hn => ?_) fun hs hb _ n h hmem => ?_
      · rw [← hfleet]
        exact choices_subset s₁ settings n hn
      · rw [(choices_perm (hfits hs) (hstrategy.trans hb) settings).mem_iff, hfleet]
        exact List.mem_map_of_mem hmem

end Selection

end RpcPipeline
