import RpcPipeline.Proofs.Hosts.Acts
import RpcPipeline.Proofs.Number.Exact
import RpcPipeline.Proofs.Selection.PinnedOffer

/-!
# `RpcPipeline.Proofs.Selection.Stickiness`: a strategy that pins stays with its host

Under a strategy that pins a host, calls are offered with and without a hint, end in any order,
and are dropped. In between the settings are replaced, names are resolved, hosts are excluded and
pardoned, and time passes. As long as the strategy itself is not replaced, which shows in the
epoch of the selection, the host that is pinned changes only for a reason.

* `Selection.Act`, `Selection.act`, `Selection.run`: what can happen.
* `Selection.Moves`, `act_moves`: what an act does to the host that is pinned.
* `Selection.Left`: a host was left, and none has been pinned since.
* `Selection.run_sticks`: what is promised after every run (`Selection.Sticks`).
-/

set_option autoImplicit false

namespace RpcPipeline

variable {α : Type} [Scalar α]

namespace Selection

/-- Something that happens to a selection. -/
inductive Act (α : Type) where
  | offer (e : Endpoint) (r : Request)
  | poll (c : SelectedCall α)
  | drop (c : SelectedCall α)
  /-- Something happens to the hosts, or around them. -/
  | hosts (a : Fleet.Act α)

/-- What an act does. -/
def act (s : Selection α) : Act α → Selection α
  | .offer e r => (s.offer e r).2
  | .poll c => (s.poll c).2.2
  | .drop c => s.drop c
  | .hosts a => s.onFleet (·.act a)

/-- Acts one after the other. -/
def run (s : Selection α) (acts : List (Act α)) : Selection α := acts.foldl act s

variable {s s' : Selection α} {p p' : Pinning}

/-! ### Acts -/

/-- A call of the present epoch to the host `id` ends, and it has failed. -/
def Fails (s : Selection α) (c : SelectedCall α) (id : HostId) : Prop :=
  ∃ call settings result h, c = .hosted call s.epoch settings ∧ (s.poll c).1 = some result ∧
    (Outcome.classify result).isFailure = true ∧ s.fleet.servers[call.serial]? = some h ∧ h.id = id

/-- What an act does to the host that is pinned, under a strategy that pins and is not
replaced. -/
inductive Moves (s : Selection α) (p : Pinning) : Act α → Selection α → Prop where
  | rests {a : Act α} {s' : Selection α} (hselector : s'.selector = .pin p) : Moves s p a s'
  | fails {c : SelectedCall α} {s' : Selection α} {id : HostId} (hfails : s.Fails c id)
      (hselector : s'.selector = .pin (p.unpin id)) : Moves s p (.poll c) s'
  | chooses {e : Endpoint} {r : Request} {s' : Selection α} {chosen : Option HostId}
      {p' : Pinning} (hchooses : s.Chooses r)
      (hturns : p.Turns s.now s.interval? s.fleet.refresh.ids s.fleet.refresh.excludes chosen p')
      (hselector : s'.selector = .pin p') : Moves s p (.offer e r) s'

theorem learn_pin (now : Instant) (settings : SelectionConfig α) (id : HostId)
    (outcome : Outcome) :
    (Selector.pin p : Selector α).learn now settings id outcome =
      .pin (if outcome.isFailure then p.unpin id else p) := by
  cases outcome <;> rfl

theorem poll_moves (hpin : s.selector = .pin p) (c : SelectedCall α) :
    s.Moves p (.poll c) (s.poll c).2.2 := by
  cases c with
  | noHosts service => exact .rests hpin
  | hosted call epoch settings =>
    obtain ⟨hrests, hserial, -⟩ := s.fleet.poll_rests call
    have hids := hrests.stays.ids call.serial
    rcases hpoll : s.fleet.poll call with ⟨_ | result, call', fleet⟩
    · refine .rests ?_
      simp only [Selection.poll, hpoll]
      exact hpin
    · rw [hpoll] at hids hserial
      cases hget : fleet.servers[call'.serial]? with
      | none =>
        refine .rests ?_
        simp only [Selection.poll, hpoll, hget]
        exact hpin
      | some h =>
        by_cases hepoch : epoch = s.epoch
        · have hpolled : (s.poll (.hosted call epoch settings)).1 = some result ∧
              (s.poll (.hosted call epoch settings)).2.2.selector =
                .pin (if (Outcome.classify result).isFailure then p.unpin h.id else p) := by
            simp only [Selection.poll, hpoll, hget, if_pos hepoch, hpin, learn_pin, and_self]
          cases hfailed : (Outcome.classify result).isFailure with
          | false =>
            rw [hfailed, if_neg Bool.false_ne_true] at hpolled
            exact .rests hpolled.2
          | true =>
            rw [hfailed, if_pos rfl] at hpolled
            -- Ending a call leaves the identities of servers alone.
            rw [← hserial, hget] at hids
            obtain ⟨server, hserver, hid⟩ := Option.map_eq_some_iff.mp hids.symm
            rw [hserial] at hserver
            exact .fails ⟨call, settings, result, server, by rw [hepoch], hpolled.1, hfailed,
              hserver, hid⟩ hpolled.2
        · refine .rests ?_
          simp only [Selection.poll, hpoll, hget, if_neg hepoch]
          exact hpin

theorem act_moves (hpin : s.selector = .pin p) {a : Act α} (hepoch : (s.act a).epoch = s.epoch) :
    s.Moves p a (s.act a) := by
  cases a with
  | offer e r =>
    have hoffers := offer_pinOffers hpin hepoch
    show s.Moves p (.offer e r) (s.offer e r).2
    generalize (s.offer e r).1 = answer at hoffers
    generalize (s.offer e r).2 = s' at hoffers
    cases hoffers with
    | noHosts => exact .rests hpin
    | hinted _ hselector => exact .rests (hselector.trans hpin)
    | chosen hchooses hturns hsends => exact .chooses hchooses hturns hsends.keeps.1
  | poll c => exact poll_moves hpin c
  | drop c => cases c <;> exact .rests hpin
  | hosts a => exact .rests hpin

/-! ### The host that is pinned -/

/-- Why the host that is pinned may be left by an act. -/
inductive Cause (s : Selection α) (id : HostId) : Act α → Prop where
  | failed {c : SelectedCall α} (hfails : s.Fails c id) : Cause s id (.poll c)
  | due {e : Endpoint} {r : Request} (hchooses : s.Chooses r) (hdue : s.Due) :
      Cause s id (.offer e r)
  | removed {e : Endpoint} {r : Request} (hchooses : s.Chooses r)
      (hremoved : id ∉ s.fleet.refresh.ids) : Cause s id (.offer e r)
  | excluded {e : Endpoint} {r : Request} (hchooses : s.Chooses r)
      (hexcluded : s.fleet.refresh.excludes id = true) : Cause s id (.offer e r)

/-- A host was pinned and was left, and no host has been pinned since. -/
inductive Left (id : HostId) : Selection α → Prop where
  | leaves {s : Selection α} (a : Act α) : s.pinned = some id → (s.act a).pinned = none →
      (s.act a).epoch = s.epoch → Left id (s.act a)
  | waits {s : Selection α} (a : Act α) : Left id s → (s.act a).pinned = none →
      (s.act a).epoch = s.epoch → Left id (s.act a)

omit [Scalar α] in
/-- Only a strategy that pins has a host that is pinned. -/
theorem exists_pin {id : HostId} (h : s.pinned = some id) :
    ∃ p, s.selector = .pin p ∧ p.pinned = some id := by
  unfold pinned at h
  cases hselector : s.selector with
  | balanced b =>
    rw [hselector] at h
    cases h
  | pin p =>
    rw [hselector] at h
    exact ⟨p, rfl, h⟩

theorem unpin_of_ne {id : HostId} (h : p.pinned ≠ some id) : p.unpin id = p := if_neg h

theorem unpin_pinned {id : HostId} (h : p.pinned = some id) :
    (p.unpin id).pinned = none ∧ (p.unpin id).avoid = some id := by
  unfold Pinning.unpin
  rw [if_pos h]
  exact ⟨rfl, rfl⟩

/-- A host that is pinned is left only for a reason. -/
theorem Moves.cause {a : Act α} {id : HostId} (h : s.Moves p a s') (hpin : s.selector = .pin p)
    (hpinned : p.pinned = some id) (hleft : s'.pinned ≠ some id) : s.Cause id a := by
  cases h with
  | rests hselector => exact absurd ((pinned_pin hselector).trans hpinned) hleft
  | @fails c s' other hfails hselector =>
    by_cases hother : p.pinned = some other
    · rw [hpinned] at hother
      cases hother
      exact .failed hfails
    · rw [unpin_of_ne hother] at hselector
      exact absurd ((pinned_pin hselector).trans hpinned) hleft
  | chooses hchooses hturns hselector =>
    rcases hturns.of_pinned hpinned with ⟨-, rfl, -⟩ | ⟨hcause, -⟩
    · exact absurd ((pinned_pin hselector).trans hpinned) hleft
    · by_cases hmember : id ∈ s.fleet.refresh.ids
      · cases hexcluded : s.fleet.refresh.excludes id with
        | true => exact .excluded hchooses hexcluded
        | false =>
          refine .due hchooses (Classical.byContradiction fun hdue => hcause ?_)
          exact (suits_iff hpin).mpr ⟨hmember, hexcluded, hdue⟩
      · exact .removed hchooses hmember

/-- A host that is left for none is the one to avoid. -/
theorem Moves.leaves {a : Act α} {id : HostId} (h : s.Moves p a s')
    (hpinned : p.pinned = some id) (hnone : s'.pinned = none) :
    ∃ p', s'.selector = .pin p' ∧ p'.pinned = none ∧ p'.avoid = some id := by
  cases h with
  | rests hselector =>
    rw [pinned_pin hselector, hpinned] at hnone
    cases hnone
  | @fails c s' other hfails hselector =>
    by_cases hother : p.pinned = some other
    · have hsame : some other = some id := hother.symm.trans hpinned
      cases hsame
      exact ⟨_, hselector, unpin_pinned hother⟩
    · rw [pinned_pin hselector, unpin_of_ne hother, hpinned] at hnone
      cases hnone
  | chooses hchooses hturns hselector =>
    -- Whoever chooses a host either pins one or finds none and leaves the pin where it is.
    rw [pinned_pin hselector] at hnone
    rcases hturns.of_pinned hpinned with ⟨-, rfl, -⟩ | ⟨-, hpicks⟩
    · rw [hpinned] at hnone
      cases hnone
    · rcases hpicks.cases_pinned with rfl | ⟨next, -, hnext, -⟩
      · rw [hpinned] at hnone
        cases hnone
      · rw [hnext] at hnone
        cases hnone

/-- Until a host is pinned again, the one to avoid stays the same. -/
theorem Moves.waits {a : Act α} {id : HostId} (h : s.Moves p a s') (hpinned : p.pinned = none)
    (havoid : p.avoid = some id) (hnone : s'.pinned = none) :
    ∃ p', s'.selector = .pin p' ∧ p'.pinned = none ∧ p'.avoid = some id := by
  cases h with
  | rests hselector => exact ⟨p, hselector, hpinned, havoid⟩
  | fails hfails hselector =>
    rw [unpin_of_ne (by rw [hpinned]; exact nofun)] at hselector
    exact ⟨p, hselector, hpinned, havoid⟩
  | chooses hchooses hturns hselector =>
    rw [pinned_pin hselector] at hnone
    rcases (hturns.of_none hpinned).cases_pinned with rfl | ⟨next, -, hnext, -⟩
    · exact ⟨_, hselector, hpinned, havoid⟩
    · rw [hnext] at hnone
      cases hnone

/-- Another host is pinned than the one to avoid, if there is another. -/
theorem Moves.renews {a : Act α} {id next : HostId} (h : s.Moves p a s')
    (hpinned : p.pinned = none) (havoid : p.avoid = some id) (hnext : s'.pinned = some next)
    (hother : s.HasOther id) : next ≠ id := by
  cases h with
  | rests hselector =>
    rw [pinned_pin hselector, hpinned] at hnext
    cases hnext
  | fails hfails hselector =>
    rw [unpin_of_ne (by rw [hpinned]; exact nofun)] at hselector
    rw [pinned_pin hselector, hpinned] at hnext
    cases hnext
  | chooses hchooses hturns hselector =>
    rw [pinned_pin hselector] at hnext
    cases hturns.of_none hpinned with
    | nobody =>
      rw [hpinned] at hnext
      cases hnext
    | pins drawn random hmember hincluded hdrawn =>
      cases hnext
      rw [havoid] at hdrawn
      rintro rfl
      exact hdrawn (hasOther_iff.mpr hother) rfl

theorem Left.avoids {id : HostId} (h : Left id s) :
    ∃ p, s.selector = .pin p ∧ p.pinned = none ∧ p.avoid = some id := by
  induction h with
  | leaves a hpinned hnone hepoch =>
    obtain ⟨p, hpin, hp⟩ := exists_pin hpinned
    exact (act_moves hpin hepoch).leaves hp hnone
  | waits a _ hnone hepoch ih =>
    obtain ⟨p, hpin, hp, havoid⟩ := ih
    exact (act_moves hpin hepoch).waits hp havoid hnone

/-! ### What is promised -/

/-- What is promised about the host that is pinned, as long as the strategy is not replaced. -/
structure Sticks (s : Selection α) : Prop where
  /-- A call goes to no other host than the one that is pinned right after it. -/
  dispatched : ∀ e r, s.Chooses r → (s.offer e r).2.epoch = s.epoch →
    Dispatches s.fleet.sent (s.offer e r).1 (s.offer e r).2 (s.offer e r).2.pinned
  /-- While nothing speaks against the host that is pinned, it stays pinned, and takes the call
  or refuses it because it has no free slot. -/
  kept : ∀ e r id, s.Chooses r → (s.offer e r).2.epoch = s.epoch → s.pinned = some id →
    s.Suits id →
    (s.offer e r).2.pinned = some id ∧
      ((∃ call epoch settings, (s.offer e r).1 = some (.hosted call epoch settings)) ∨
        (s.offer e r).1 = none ∧ (s.offer e r).2.fleet.sent = s.fleet.sent ∧
          ∃ serial h, s.fleet.refresh.find? id = some (serial, h) ∧
            h.limiter.hasCapacity = false)
  /-- A host is left only for a reason. -/
  moved : ∀ a id, (s.act a).epoch = s.epoch → s.pinned = some id →
    (s.act a).pinned ≠ some id → s.Cause id a
  /-- A host that has to be left is replaced by another one, if there is another. -/
  replaced : ∀ e r id, s.Chooses r → (s.offer e r).2.epoch = s.epoch → s.pinned = some id →
    ¬ s.Suits id → s.HasOther id → ∃ next, next ≠ id ∧ (s.offer e r).2.pinned = some next
  /-- After a host was left and none was pinned, the next one is another, if there is
  another. -/
  renewed : ∀ a id next, Left id s → (s.act a).epoch = s.epoch → (s.act a).pinned = some next →
    s.HasOther id → next ≠ id
  /-- A host is pinned from the moment on at which it was chosen. -/
  timed : ∀ a id, (s.act a).epoch = s.epoch → (s.act a).pinned = some id →
    s.pinned = some id ∧ (s.act a).pinnedAt? = s.pinnedAt? ∨ (s.act a).pinnedAt? = some s.now

/-- Whatever an act does, a host that is pinned after it was either pinned before or is pinned
from now on. -/
theorem Moves.timed {a : Act α} {id : HostId} (h : s.Moves p a s') (hpin : s.selector = .pin p)
    (hpinned : s'.pinned = some id) :
    s.pinned = some id ∧ s'.pinnedAt? = s.pinnedAt? ∨ s'.pinnedAt? = some s.now := by
  have hat : ∀ {t : Selection α} {q : Pinning}, t.selector = .pin q → t.pinnedAt? = q.pinnedAt :=
    fun hq => by rw [pinnedAt?, hq]
  have hsame : ∀ {q : Pinning}, s'.selector = .pin q → q.pinned = p.pinned →
      q.pinnedAt = p.pinnedAt → s.pinned = some id ∧ s'.pinnedAt? = s.pinnedAt? :=
    fun hq hp ht => by
      rw [hat hq, hat hpin, pinned_pin hpin, ← hp, ← pinned_pin hq]
      exact ⟨hpinned, ht⟩
  cases h with
  | rests hselector => exact .inl (hsame hselector rfl rfl)
  | @fails c s' other hfails hselector =>
    by_cases hother : p.pinned = some other
    · rw [pinned_pin hselector, (unpin_pinned hother).1] at hpinned
      cases hpinned
    · exact .inl (hsame hselector (by rw [unpin_of_ne hother]) (by rw [unpin_of_ne hother]))
  | chooses hchooses hturns hselector =>
    cases hturns with
    | stays => exact .inl (hsame hselector rfl rfl)
    | leaves _ _ _ hpicks =>
      rcases hpicks.cases_pinned with rfl | ⟨_, -, -, hnow⟩
      · exact .inl (hsame hselector rfl rfl)
      · exact .inr ((hat hselector).trans hnow)
    | starts _ hpicks =>
      rcases hpicks.cases_pinned with rfl | ⟨_, -, -, hnow⟩
      · exact .inl (hsame hselector rfl rfl)
      · exact .inr ((hat hselector).trans hnow)

theorem Pins.sticks (h : s.Pins) : s.Sticks := by
  obtain ⟨p, hpin⟩ := h
  have hpinned : ∀ {id : HostId}, s.pinned = some id → p.pinned = some id :=
    fun hid => (pinned_pin hpin).symm.trans hid
  exact
    { dispatched := fun e r hchooses hepoch => (offer_pinOffers hpin hepoch).dispatches hchooses
      kept := fun e r id hchooses hepoch hid hsuits =>
        (offer_pinOffers hpin hepoch).keeps hpin hchooses (hpinned hid) hsuits
      moved := fun a id hepoch hid hleft => (act_moves hpin hepoch).cause hpin (hpinned hid) hleft
      replaced := fun e r id hchooses hepoch hid hleaves hother =>
        (offer_pinOffers hpin hepoch).replaces hpin hchooses (hpinned hid) hleaves hother
      renewed := fun a id next hleft hepoch hnext hother => by
        obtain ⟨q, hq, hnone, havoid⟩ := hleft.avoids
        exact (act_moves hq hepoch).renews hnone havoid hnext hother
      timed := fun a id hepoch hid => (act_moves hpin hepoch).timed hpin hid }

/-! ### Runs -/

theorem poll_epoch (s : Selection α) (c : SelectedCall α) : (s.poll c).2.2.epoch = s.epoch := by
  cases c with
  | noHosts service => rfl
  | hosted call epoch settings =>
    unfold Selection.poll
    dsimp only
    split
    · rfl
    · split
      · split <;> rfl
      · rfl

theorem epoch_le_act (s : Selection α) (a : Act α) : s.epoch ≤ (s.act a).epoch := by
  cases a with
  | offer e r =>
    cases hmembers : s.fleet.refresh.members.isEmpty with
    | true =>
      have hoffer : s.offer e r = (some (.noHosts e.service), s.onFleet Fleet.refresh) :=
        if_pos hmembers
      show s.epoch ≤ (s.offer e r).2.epoch
      rw [hoffer]
      exact Nat.le_refl s.epoch
    | false =>
      show s.epoch ≤ (s.offer e r).2.epoch
      rw [offer_epoch hmembers]
      unfold adopt
      split
      · exact Nat.le_refl s.epoch
      · exact Nat.le_succ s.epoch
  | poll c => exact Nat.le_of_eq (s.poll_epoch c).symm
  | drop c => cases c <;> exact Nat.le_refl s.epoch
  | hosts a => exact Nat.le_refl s.epoch

theorem epoch_le_run (s : Selection α) (acts : List (Act α)) : s.epoch ≤ (s.run acts).epoch := by
  induction acts generalizing s with
  | nil => exact Nat.le_refl s.epoch
  | cons a acts ih => exact Nat.le_trans (s.epoch_le_act a) (ih (s.act a))

theorem Pins.act (h : s.Pins) {a : Act α} (hepoch : (s.act a).epoch = s.epoch) :
    (s.act a).Pins := by
  obtain ⟨p, hpin⟩ := h
  cases act_moves hpin hepoch with
  | rests hselector => exact ⟨p, hselector⟩
  | fails _ hselector => exact ⟨_, hselector⟩
  | chooses _ _ hselector => exact ⟨_, hselector⟩

theorem Pins.run (h : s.Pins) {acts : List (Act α)} (hepoch : (s.run acts).epoch = s.epoch) :
    (s.run acts).Pins := by
  induction acts generalizing s with
  | nil => exact h
  | cons a acts ih =>
    -- Epochs only grow, so the strategy was not replaced on the way either.
    have hfirst : (s.act a).epoch = s.epoch := Nat.le_antisymm
      (Nat.le_trans ((s.act a).epoch_le_run acts) (Nat.le_of_eq hepoch)) (s.epoch_le_act a)
    exact ih (h.act hfirst) (Eq.trans hepoch hfirst.symm)

/-- Whatever has happened under a strategy that pins and is not replaced: a call goes to the host
that is pinned, this host changes only for a reason, and then another one is pinned, if there is
another. -/
theorem run_sticks (hpins : s.Pins) {acts : List (Act α)}
    (hepoch : (s.run acts).epoch = s.epoch) : (s.run acts).Sticks :=
  (hpins.run hepoch).sticks

/-- Two hosts, of which one is pinned until a call to it fails. -/
def twoHosts : Selection Rat :=
  let config : ClientConfig Rat :=
    { ClientConfig.standard with
      uris := ["https://a.example", "https://b.example"]
      selection := { SelectionConfig.standard with strategy := .pinUntilError } }
  let random : RandomStream := ⟨fun _ => 0xC0000000, 0⟩
  { fleet := .new .start (.new config) none (.new .standard random)
    strategy := .pinUntilError, selector := .pin (.new random), epoch := 0, entropy := random }

/-- A call is offered, a call to the second host fails, and another call is offered. -/
def failing : List (Act Rat) :=
  let offer : Act Rat := .offer ⟨"catalog", "list", "1.0", "GET", ⟨[]⟩⟩ (.blank 0)
  let refused : HostCall := .ended "b.example" (.error (.connect "b.example" "refused")) true
  [offer, .poll (.hosted ⟨1, ⟨refused, 0⟩⟩ 0 .standard), offer]

theorem run_sticks_failing :
    (twoHosts.run failing).Sticks ∧
      (List.range 4).map (fun n => (twoHosts.run (failing.take n)).pinned.map HostId.text) =
        [none, some "https://b.example:443", none, some "https://a.example:443"] := by
  have hepoch : (twoHosts.run failing).epoch = twoHosts.epoch := by decide +kernel
  exact ⟨run_sticks ⟨_, rfl⟩ hepoch, by decide +kernel⟩

end Selection

end RpcPipeline
