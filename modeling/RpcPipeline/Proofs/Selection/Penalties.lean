import RpcPipeline.Proofs.Selection.Balance
import RpcPipeline.Proofs.Selection.Coverage
import RpcPipeline.Proofs.Selection.Sound

/-!
# `RpcPipeline.Proofs.Selection.Penalties`: penalties follow the hosts in use

Balanced selection keeps a penalty for each host in use. It looks at the hosts only when a call
is selected, and sorts its penalties anew only if they have another version then. In between
hosts may leave and come back, and calls may end at hosts that have left since. None of this
leaves a penalty behind for a host that is not in use, or makes one disappear of a host that
stays.

* `Ranking.get?_track`: which penalties are kept when the hosts are followed.
* `Selection.penalty?`, `Selection.followed`: the penalty of a host, and the hosts that the
  latest selection has found.
* `Selection.Learns`: what comes of the end of a call.
* `Selection.Follows`: penalties are kept for the hosts that the latest selection has found.
* `Selection.run_penalizes`: what is promised after every run (`Selection.Penalizes`).
-/

set_option autoImplicit false

namespace RpcPipeline

variable {α : Type} [Scalar α]

/-! ### Following the hosts -/

namespace Ranking

variable {b : Ranking α} {ids : List HostId} {version : Nat}

/-- A host that stays keeps its penalty, one that joins starts at zero, and nothing is kept for
one that leaves. If the version has been seen before, nobody has joined or left. -/
theorem get?_track (hseen : b.seenVersion = some version →
      ∀ id, (b.penalties.get? id).isSome ↔ id ∈ ids) (now : Instant) (id : HostId) :
    (b.track now version ids).penalties.get? id =
      if id ∈ ids then some ((b.penalties.get? id).getD ⟨0, now⟩) else none := by
  unfold track
  split
  · next hversion =>
    have hkeys := hseen hversion id
    by_cases hid : id ∈ ids
    · obtain ⟨p, hp⟩ := Option.isSome_iff_exists.mp (hkeys.mpr hid)
      rw [if_pos hid, hp]
      rfl
    · rw [if_neg hid]
      exact Option.not_isSome_iff_eq_none.mp fun hsome => hid (hkeys.mp hsome)
  · show (ids.foldl _ (b.penalties.filter fun id _ => ids.contains id)).get? id = _
    rw [get?_foldl_enter]
    by_cases hid : id ∈ ids
    · rw [if_pos hid, if_pos hid, Table.get?_filter_key _ (by simpa using hid)]
      cases b.penalties.get? id <;> rfl
    · rw [if_neg hid, if_neg hid, Table.get?_filter_key_none _ (by simpa using hid)]
      rfl

theorem track_seenVersion (b : Ranking α) (now : Instant) (version : Nat) (ids : List HostId) :
    (b.track now version ids).seenVersion = some version := by
  unfold track
  split
  · next hversion => exact hversion
  · rfl

end Ranking

/-- How much the end of a call adds to the penalty of its host, if it adds to it. -/
def SelectionConfig.added? (settings : SelectionConfig α) : Outcome → Option α
  | .overloaded => some settings.overloadPenalty
  | .hostFailure => some settings.failurePenalty
  | .success | .serverError | .ignored => none

namespace Selector

omit [Scalar α] in
/-- The penalty of a host, if one is kept. -/
def penalty? (id : HostId) : Selector α → Option (Penalty α)
  | balanced b => b.penalties.get? id
  | pin _ => none

theorem learn_balanced (b : Ranking α) (now : Instant) (settings : SelectionConfig α)
    (id : HostId) (outcome : Outcome) :
    (balanced b).learn now settings id outcome =
      balanced (match settings.added? outcome with
        | some added => b.penalize now settings.failureHalfLife id added
        | none => b) := by
  cases outcome <;> rfl

/-- An outcome that adds to a penalty adds to that of its host, if one is kept, and no other one
is concerned. -/
theorem penalty?_learn (selector : Selector α) (now : Instant) (settings : SelectionConfig α)
    (own id : HostId) (outcome : Outcome) :
    (selector.learn now settings own outcome).penalty? id =
      match settings.added? outcome with
      | some added =>
        if id = own then
          (selector.penalty? id).map fun p => ⟨p.decayed now settings.failureHalfLife + added, now⟩
        else selector.penalty? id
      | none => selector.penalty? id := by
  cases selector with
  | balanced b =>
    rw [learn_balanced]
    cases hadded : settings.added? outcome with
    | none => rfl
    | some added =>
      show (b.penalties.modify own _).get? id = _
      rw [Table.get?_modify]
      by_cases hid : id = own
      · subst hid
        rfl
      · rw [if_neg hid]
        exact (if_neg hid).symm
  | pin p =>
    have hpin : (pin p : Selector α).learn now settings own outcome =
        pin (if outcome.isFailure then p.unpin own else p) := by
      cases outcome <;> rfl
    rw [hpin]
    cases settings.added? outcome <;> simp [penalty?]

end Selector

/-- Only a call to a server that there is ends. -/
theorem Fleet.poll_some {f : Fleet α} {c : HostedCall} {result : HostResult}
    (h : (f.poll c).1 = some result) : ∃ server, f.servers[c.serial]? = some server := by
  unfold poll at h
  cases hget : f.servers[c.serial]? with
  | none =>
    rw [hget] at h
    cases h
  | some server => exact ⟨server, rfl⟩

namespace Selection

variable {s s' : Selection α} {b : Ranking α} {known : List HostId}

omit [Scalar α] in
/-- The strategy in use is balanced selection. -/
def Ranks (s : Selection α) : Prop := ∃ b, s.selector = .balanced b

omit [Scalar α] in
/-- The penalty of a host, if one is kept. -/
def penalty? (s : Selection α) (id : HostId) : Option (Penalty α) := s.selector.penalty? id

omit [Scalar α] in
theorem penalty?_balanced (h : s.selector = .balanced b) (id : HostId) :
    s.penalty? id = b.penalties.get? id := by
  rw [penalty?, h]
  rfl

/-- The hosts that the latest selection has found after an act. An offer selects nothing if there
are no hosts at all. -/
def found (s : Selection α) (known : List HostId) : Act α → List HostId
  | .offer _ _ => if s.fleet.refresh.members.isEmpty then known else s.fleet.refresh.ids
  | .poll _ | .drop _ | .hosts _ => known

/-- The hosts that the latest selection has found after several acts. -/
def followed (s : Selection α) (known : List HostId) : List (Act α) → List HostId
  | [] => known
  | a :: acts => (s.act a).followed (s.found known a) acts

/-! ### Offers -/

theorem choices_ranking (h : s.selector = .balanced b) (settings : SelectionConfig α) :
    ∃ b', (s.choices settings).2.selector = .balanced b' ∧ b'.penalties = b.penalties ∧
      b'.seenVersion = b.seenVersion := by
  unfold choices
  rw [h]
  exact ⟨_, rfl, rfl, rfl⟩

/-- The offer of a call changes nothing that is remembered but random numbers, once the hosts
have been followed. -/
theorem offerReady_ranking {t : Selection α} (h : t.selector = .balanced b)
    (settings : SelectionConfig α) (e : Endpoint) (r : Request) :
    ∃ b', (t.offerReady settings e r).2.selector = .balanced b' ∧ b'.penalties = b.penalties ∧
      b'.seenVersion = b.seenVersion := by
  unfold offerReady
  split
  · exact ⟨b, (sendTo_sends _ _ e _).keeps.1.trans h, rfl, rfl⟩
  · obtain ⟨b', hchoices, hsame⟩ := choices_ranking h settings
    exact ⟨b', (sendToFirst_sends _ _ e _).keeps.1.trans hchoices, hsame⟩

theorem offerReady_pin {t : Selection α} {p : Pinning} (h : t.selector = .pin p)
    (settings : SelectionConfig α) (e : Endpoint) (r : Request) :
    ∃ p', (t.offerReady settings e r).2.selector = .pin p' := by
  unfold offerReady
  split
  · exact ⟨p, (sendTo_sends _ _ e _).keeps.1.trans h⟩
  · rw [choices_pin h]
    exact ⟨_, (sendToFirst_sends _ _ e _).keeps.1⟩

omit [Scalar α] in
/-- A strategy that is replaced by balanced selection leaves no penalties, and neither does one
that pins. -/
theorem adopt_ranking (hfits : s.Fits) (settings : SelectionConfig α)
    (h : (s.adopt settings).selector = .balanced b) :
    s.selector = .balanced b ∨ (∀ id, s.penalty? id = none) ∧ ∃ random, b = .new random := by
  by_cases hstrategy : s.strategy = settings.strategy
  · rw [adopt_same hstrategy] at h
    exact .inl h
  · right
    have hnew : settings.strategy = .balanced := by
      have hadopted := adopt_fits hfits settings
      rw [Fits, h, adopt_strategy] at hadopted
      exact hadopted
    have hother : s.strategy ≠ .balanced := fun heq => hstrategy (heq.trans hnew.symm)
    refine ⟨fun id => ?_, ?_⟩
    · cases hselector : s.selector with
      | balanced b' =>
        rw [Fits, hselector] at hfits
        exact absurd hfits hother
      | pin p =>
        rw [penalty?, hselector]
        rfl
    · unfold adopt at h
      rw [if_neg hstrategy] at h
      dsimp only at h
      rw [hnew] at h
      cases h
      exact ⟨_, rfl⟩

/-- What balanced selection remembers after an offer: the penalties of the hosts in use, and of
which version these are. -/
theorem offer_ranking (hfits : s.Fits) (hmembers : s.fleet.refresh.members.isEmpty = false)
    {e : Endpoint} {r : Request} (h : (s.offer e r).2.selector = .balanced b) :
    ∃ b₀ : Ranking α, (s.selector = .balanced b₀ ∨
        (∀ id, s.penalty? id = none) ∧ ∃ random, b₀ = .new random) ∧
      let tracked := b₀.track s.now s.fleet.refresh.version s.fleet.refresh.ids
      b.penalties = tracked.penalties ∧ b.seenVersion = tracked.seenVersion := by
  let settings := s.fleet.config.value.selection
  have hnow : ((s.onFleet Fleet.refresh).adopt settings).now = s.now := by
    rw [now, adopt_fleet]
    exact s.fleet.refresh_carries.now
  rw [offer_eq hmembers] at h
  cases hadopt : ((s.onFleet Fleet.refresh).adopt settings).selector with
  | balanced b₀ =>
    have htrack := selector_track hadopt
    rw [hnow, adopt_fleet] at htrack
    obtain ⟨b', hselector, hsame⟩ := offerReady_ranking htrack settings e r
    rw [hselector] at h
    cases h
    exact ⟨b₀, adopt_ranking (s := s.onFleet Fleet.refresh) hfits settings hadopt, hsame⟩
  | pin p =>
    -- Nothing but the settings replaces a strategy.
    have htrack := track_pin hadopt
    obtain ⟨p', hselector⟩ := offerReady_pin hadopt settings e r
    rw [htrack, hselector] at h
    cases h

/-! ### The end of a call -/

/-- What comes of polling a call: the strategy learns from the result if there is one and the call
is one of the present epoch. -/
inductive Learns (s : Selection α) (c : SelectedCall α) : Selector α → Prop where
  | rests (hrests : ∀ call settings, c = .hosted call s.epoch settings → (s.poll c).1 = none) :
      Learns s c s.selector
  | learns {call : HostedCall} {settings : SelectionConfig α} {result : HostResult} {id : HostId}
      (hcall : c = .hosted call s.epoch settings) (hresult : (s.poll c).1 = some result)
      (hid : (s.fleet.servers[call.serial]?).map Server.id = some id) :
      Learns s c (s.selector.learn s.now settings id (.classify result))

theorem poll_learns (s : Selection α) (c : SelectedCall α) :
    s.Learns c (s.poll c).2.2.selector := by
  cases c with
  | noHosts service => exact .rests nofun
  | hosted call epoch settings =>
    obtain ⟨hrests, hserial, -⟩ := s.fleet.poll_rests call
    have hids := hrests.stays.ids call.serial
    rcases hpoll : s.fleet.poll call with ⟨_ | result, call', fleet⟩
    · have hpolled : s.poll (.hosted call epoch settings) =
          (none, .hosted call' epoch settings, { s with fleet := fleet }) := by
        simp only [Selection.poll, hpoll]
      have hnone : (s.poll (.hosted call epoch settings)).1 = none := by rw [hpolled]
      rw [hpolled]
      exact .rests fun _ _ _ => hnone
    · obtain ⟨h, hget⟩ := Fleet.poll_some (congrArg Prod.fst hpoll)
      rw [hget] at hids
      obtain ⟨h', hget', hid⟩ := Option.map_eq_some_iff.mp hids
      rw [← hserial, hpoll] at hget'
      have hnow : ({ s with fleet := fleet } : Selection α).now = s.now := by
        have := hrests.now
        rw [hpoll] at this
        exact this
      by_cases hepoch : epoch = s.epoch
      · subst hepoch
        have hpolled : (s.poll (.hosted call s.epoch settings)).1 = some result ∧
            (s.poll (.hosted call s.epoch settings)).2.2.selector =
              s.selector.learn s.now settings h'.id (.classify result) := by
          simp only [Selection.poll, hpoll, hget', if_pos, hnow, and_self]
        rw [hpolled.2]
        exact .learns rfl hpolled.1 (by rw [hget]; exact congrArg some hid.symm)
      · have hpolled : (s.poll (.hosted call epoch settings)).2.2.selector = s.selector := by
          simp only [Selection.poll, hpoll, hget', if_neg hepoch]
        rw [hpolled]
        refine .rests fun _ _ heq => ?_
        cases heq
        exact absurd rfl hepoch

/-! ### What is remembered -/

/-- Penalties are kept for the hosts that the latest selection has found, and the version that was
seen is theirs. -/
structure Follows (known : List HostId) (s : Selection α) : Prop where
  orderly : s.fleet.Orderly
  fits : s.Fits
  keys : ∀ b, s.selector = .balanced b → ∀ id, (b.penalties.get? id).isSome ↔ id ∈ known
  seen : ∀ b version, s.selector = .balanced b → b.seenVersion = some version →
    version ≤ s.fleet.version ∧
      (version = s.fleet.version → ∀ id, id ∈ s.fleet.ids ↔ id ∈ known)

omit [Scalar α] in
theorem new_follows (outside : Outside α) (config : Cell (ClientConfig α))
    (dns : Option (Cell DnsSnapshot)) (blacklist : Blacklist α) (entropy : RandomStream) :
    Follows [] (new (.new outside config dns blacklist) entropy) := by
  have hempty : ∀ b, (new (.new outside config dns blacklist) entropy).selector = .balanced b →
      ∃ random, b = .new random := by
    intro b hb
    unfold new Selector.new at hb
    dsimp only at hb
    split at hb
    · cases hb
      exact ⟨_, rfl⟩
    · cases hb
    · cases hb
  refine ⟨Fleet.new_orderly _ _ _ _, new_fits _ _, fun b hb id => ?_, fun b version hb hseen => ?_⟩
  · obtain ⟨random, rfl⟩ := hempty b hb
    exact iff_of_false Bool.false_ne_true List.not_mem_nil
  · obtain ⟨random, rfl⟩ := hempty b hb
    cases hseen

omit [Scalar α] in
/-- Nothing but a selection changes for which hosts penalties are kept. -/
theorem Follows.later (h : Follows known s) (horderly : s'.fleet.Orderly) (hfits : s'.Fits)
    (hversioned : s.fleet.Versioned s'.fleet)
    (hkept : ∀ b', s'.selector = .balanced b' → ∃ b, s.selector = .balanced b ∧
      b'.seenVersion = b.seenVersion ∧
        ∀ id, (b'.penalties.get? id).isSome = (b.penalties.get? id).isSome) :
    Follows known s' where
  orderly := horderly
  fits := hfits
  keys b' hb' id := by
    obtain ⟨b, hb, -, hkeys⟩ := hkept b' hb'
    rw [hkeys]
    exact h.keys b hb id
  seen b' version hb' hversion := by
    obtain ⟨b, hb, hseen, -⟩ := hkept b' hb'
    obtain ⟨hle, hids⟩ := h.seen b version hb (hseen ▸ hversion)
    rcases hversioned with ⟨hsame, hsameIds⟩ | hlt
    · rw [hsame, hsameIds]
      exact ⟨hle, hids⟩
    · -- The version that was seen is not the present one any more.
      exact ⟨Nat.le_trans hle (Nat.le_of_lt hlt), fun heq => absurd hle (by omega)⟩

/-- The penalties after a selection. -/
theorem Follows.get?_offer (h : Follows known s)
    (hmembers : s.fleet.refresh.members.isEmpty = false) {e : Endpoint} {r : Request}
    (hb : (s.offer e r).2.selector = .balanced b) :
    b.seenVersion = some s.fleet.refresh.version ∧ ∀ id, b.penalties.get? id =
      if id ∈ s.fleet.refresh.ids then some ((s.penalty? id).getD ⟨0, s.now⟩) else none := by
  obtain ⟨b₀, horigin, hpenalties, hseen⟩ := offer_ranking h.fits hmembers hb
  refine ⟨hseen.trans (b₀.track_seenVersion ..), fun id => ?_⟩
  rw [hpenalties]
  rcases horigin with hb₀ | ⟨hnone, random, rfl⟩
  · rw [penalty?_balanced hb₀]
    refine Ranking.get?_track (fun hversion id => ?_) s.now id
    obtain ⟨hle, hids⟩ := h.seen b₀ _ hb₀ hversion
    rcases h.orderly.refresh_versioned with ⟨hsame, hsameIds⟩ | hlt
    · rw [h.keys b₀ hb₀ id, hsameIds]
      exact (hids hsame id).symm
    · exact absurd hle (Nat.not_le_of_gt hlt)
  · rw [hnone id]
    exact Ranking.get?_track (fun hversion => by cases hversion) s.now id

theorem Follows.offer (h : Follows known s) (e : Endpoint) (r : Request) :
    Follows (s.found known (.offer e r)) (s.offer e r).2 := by
  obtain ⟨acts, hfleet⟩ := s.offer_fleet e r
  have horderly : (s.offer e r).2.fleet.Orderly := by
    rw [hfleet]
    exact h.orderly.run _
  have hfits := (s.offer_offers e r).stays.2.2 h.fits
  cases hmembers : s.fleet.refresh.members.isEmpty with
  | true =>
    have hfound : s.found known (.offer e r) = known := if_pos hmembers
    rw [offer_noHosts hmembers] at horderly hfits ⊢
    rw [hfound]
    exact h.later horderly hfits h.orderly.refresh_versioned fun b hb => ⟨b, hb, rfl, fun _ => rfl⟩
  | false =>
    have hfound : s.found known (.offer e r) = s.fleet.refresh.ids :=
      if_neg (by rw [hmembers]; exact Bool.false_ne_true)
    have hversioned : s.fleet.refresh.Versioned (s.offer e r).2.fleet := by
      rw [hfleet]
      exact h.orderly.refresh.run_versioned acts
    rw [hfound]
    refine ⟨horderly, hfits, fun b hb id => ?_, fun b version hb hversion => ?_⟩
    · obtain ⟨-, hget⟩ := h.get?_offer hmembers hb
      rw [hget]
      split <;> simp [*]
    · obtain ⟨hseen, -⟩ := h.get?_offer hmembers hb
      have hsame : version = s.fleet.refresh.version :=
        Option.some.inj (hversion.symm.trans hseen)
      subst hsame
      rcases hversioned with ⟨heq, hids⟩ | hlt
      · rw [heq, hids]
        exact ⟨Nat.le_refl _, fun _ _ => Iff.rfl⟩
      · exact ⟨Nat.le_of_lt hlt, fun heq => absurd heq (Nat.ne_of_lt hlt)⟩

theorem Follows.poll (h : Follows known s) (c : SelectedCall α) :
    Follows known (s.poll c).2.2 := by
  obtain ⟨acts, hfleet⟩ := s.poll_fleet c
  refine h.later ?_ ((s.poll_rests c).2.1 h.fits) ?_ fun b' hb' => ?_
  · rw [hfleet]
    exact h.orderly.run acts
  · rw [hfleet]
    exact h.orderly.run_versioned acts
  · have hlearns := s.poll_learns c
    generalize (s.poll c).2.2.selector = selector at hlearns hb'
    cases hlearns with
    | rests => exact ⟨b', hb', rfl, fun _ => rfl⟩
    | @learns call settings result id hcall hresult hid =>
      cases hselector : s.selector with
      | pin p =>
        rw [hselector, learn_pin] at hb'
        cases hb'
      | balanced b =>
        -- What is added to a penalty neither makes nor removes one.
        have hkept : ∀ other, (b'.penalties.get? other).isSome =
            (b.penalties.get? other).isSome := by
          intro other
          have hlearn := (Selector.balanced b).penalty?_learn s.now settings id other
            (.classify result)
          rw [← hselector, hb'] at hlearn
          show ((Selector.balanced b').penalty? other).isSome = _
          rw [hlearn, hselector]
          cases settings.added? (.classify result) with
          | none => rfl
          | some added =>
            dsimp only
            split
            · exact Option.isSome_map
            · rfl
        rw [hselector, Selector.learn_balanced] at hb'
        cases hb'
        refine ⟨b, rfl, ?_, hkept⟩
        split <;> rfl

/-- One act. -/
theorem Follows.act (h : Follows known s) (a : Act α) :
    Follows (s.found known a) (s.act a) := by
  cases a with
  | offer e r => exact h.offer e r
  | poll c => exact h.poll c
  | drop c =>
    cases c with
    | noHosts service => exact h
    | hosted call epoch settings =>
      exact h.later (h.orderly.act (.drop call)) h.fits (h.orderly.act_versioned (.drop call))
        fun b hb => ⟨b, hb, rfl, fun _ => rfl⟩
  | hosts a =>
    exact h.later (h.orderly.act a) h.fits (h.orderly.act_versioned a)
      fun b hb => ⟨b, hb, rfl, fun _ => rfl⟩

theorem Follows.run (h : Follows known s) (acts : List (Act α)) :
    Follows (s.followed known acts) (s.run acts) := by
  -- What was found changes on the way, so the induction is for all of it at once.
  induction acts generalizing s known with
  | nil => exact h
  | cons a acts ih => exact ih (h.act a)

/-! ### What is promised -/

/-- The act is the end of a call of the present epoch that is held against its host. -/
def Charges (s : Selection α) (a : Act α) : Prop :=
  ∃ call settings result added, a = .poll (.hosted call s.epoch settings) ∧
    (s.poll (.hosted call s.epoch settings)).1 = some result ∧
      settings.added? (.classify result) = some added

/-- What is promised about penalties if the latest selection has found the hosts `known`. -/
structure Penalizes (known : List HostId) (s : Selection α) : Prop where
  /-- Penalties are kept for the hosts that the latest selection has found and for no others. -/
  keys : s.Ranks → ∀ id, (s.penalty? id).isSome ↔ id ∈ known
  /-- A selection leaves the hosts that it finds with the penalties that they have, or with one of
  zero from now on, and drops all others. -/
  selected : ∀ e r, s.fleet.refresh.members ≠ [] → (s.offer e r).2.Ranks → ∀ id,
    (s.offer e r).2.penalty? id =
      if id ∈ s.fleet.refresh.ids then some ((s.penalty? id).getD ⟨0, s.now⟩) else none
  /-- A call that is overloaded or fails adds to what is left of the penalty of its own host, if
  there is one. -/
  charged : ∀ call settings result added server,
    (s.poll (.hosted call s.epoch settings)).1 = some result →
      settings.added? (.classify result) = some added →
        s.fleet.servers[call.serial]? = some server → ∀ id,
          (s.poll (.hosted call s.epoch settings)).2.2.penalty? id =
            if id = server.id then
              (s.penalty? id).map fun p => ⟨p.decayed s.now settings.failureHalfLife + added, s.now⟩
            else s.penalty? id
  /-- Nothing else that happens concerns any penalty. -/
  spared : ∀ a, (∀ e r, a = .offer e r → s.fleet.refresh.members = []) → ¬s.Charges a → ∀ id,
    (s.act a).penalty? id = s.penalty? id
  /-- The server that a call went to is that of the same host for good, in use or not. -/
  own : ∀ (serial : Nat) id, (s.fleet.servers[serial]?).map Server.id = some id → ∀ acts,
    ((s.run acts).fleet.servers[serial]?).map Server.id = some id

theorem Follows.penalizes (h : Follows known s) : Penalizes known s where
  keys := by
    rintro ⟨b, hb⟩ id
    rw [penalty?_balanced hb]
    exact h.keys b hb id
  selected e r hhosts := by
    rintro ⟨b, hb⟩ id
    rw [penalty?_balanced hb]
    exact (h.get?_offer (by simpa using hhosts) hb).2 id
  charged call settings result added server hresult hadded hget id := by
    have hlearns := s.poll_learns (.hosted call s.epoch settings)
    unfold penalty?
    generalize (s.poll (.hosted call s.epoch settings)).2.2.selector = selector at hlearns
    cases hlearns with
    | rests hrests =>
      rw [hrests call settings rfl] at hresult
      cases hresult
    | @learns _ _ result' own hcall hresult' hid =>
      cases hcall
      have hsame : result' = result := Option.some.inj (hresult'.symm.trans hresult)
      have hown : server.id = own := by
        rw [hget] at hid
        exact Option.some.inj hid
      rw [hsame, ← hown, Selector.penalty?_learn, hadded]
  spared a hoffer hcharges id := by
    cases a with
    | offer e r =>
      show (s.offer e r).2.penalty? id = s.penalty? id
      rw [offer_noHosts (List.isEmpty_iff.mpr (hoffer e r rfl))]
      rfl
    | poll c =>
      have hlearns := s.poll_learns c
      show (s.poll c).2.2.selector.penalty? id = s.selector.penalty? id
      generalize (s.poll c).2.2.selector = selector at hlearns
      cases hlearns with
      | rests => rfl
      | @learns call settings result own hcall hresult hid =>
        subst hcall
        rw [Selector.penalty?_learn]
        cases hadded : settings.added? (.classify result) with
        | none => rfl
        | some added =>
          exact absurd ⟨call, settings, result, added, rfl, hresult, hadded⟩ hcharges
    | drop c => cases c <;> rfl
    | hosts a => rfl
  own serial id hid acts := by
    obtain ⟨done, hfleet⟩ := s.run_fleet acts
    rw [hfleet]
    exact Fleet.id_run hid done

/-- Let a selection start with any settings. After calls were offered with and without hints,
polled and dropped, settings were replaced, names were resolved, hosts were looked at, excluded
and pardoned, and time has passed, all in any order: if the strategy in use is balanced selection
then, it keeps penalties for exactly the hosts that the latest selection has found, and from there
on penalties change only by a selection or by the end of a call, as `Penalizes` says. -/
theorem run_penalizes (outside : Outside α) (config : Cell (ClientConfig α))
    (dns : Option (Cell DnsSnapshot)) (blacklist : Blacklist α) (entropy : RandomStream)
    (acts : List (Act α)) :
    let s := new (.new outside config dns blacklist) entropy
    Penalizes (s.followed [] acts) (s.run acts) :=
  ((new_follows outside config dns blacklist entropy).run acts).penalizes

/-- A call to the second of two hosts fails while both are in use, a second one after the host was
removed, a third one after that was noticed, and a fourth one after the host has come back. -/
example :
    let config (uris : List String) : ClientConfig Rat :=
      { ClientConfig.standard with uris := uris }
    let both := ["https://a.example", "https://b.example"]
    let offer : Act Rat := .offer browse (.ofEdits [.attach (.hint ⟨"https://a.example:443"⟩)])
    let refused : HostCall := .ended "b.example" (.error (.connect "b.example" "refused")) true
    let fails : Act Rat := .poll (.hosted ⟨1, ⟨refused, 0⟩⟩ 0 .standard)
    let acts := [offer, fails, .hosts (.update (config ["https://a.example"])), fails, offer, fails,
      .hosts (.update (config both)), offer, fails]
    let s := new (.new .start (.new (config both)) none (.new .standard (.ofSeed 0))) (.ofSeed 0)
    (List.range 10).map (fun n => ((s.run (acts.take n)).penalty?
        ⟨"https://b.example:443"⟩).map fun p => p.value) =
      [none, some 0, some 10, some 10, some 20, none, none, none, some 0, some 10] := by
  decide +kernel

end Selection

end RpcPipeline
