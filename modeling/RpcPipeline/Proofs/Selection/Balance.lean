import RpcPipeline.Proofs.Number.Real
import RpcPipeline.Proofs.Selection.PinnedOffer
import RpcPipeline.Proofs.Table

/-!
# `RpcPipeline.Proofs.Selection.Balance`: the lowest score comes first

Balanced selection scores every host in use by the calls that it is busy with, what is left of
its penalty, and a random share below one. It offers a call to the hosts in ascending order of
their scores, and the first one that can take the call takes it. So a call is refused only if
every host is excluded or at its limit. A share below one cannot make up for a call more: as
long as there are no penalties, no host is asked before one that is busy with fewer calls.

Scores are real numbers here: whatever stands for them is added without rounding
(`Scalar.Exact`).

* `Arranges`, `mergeSort_arranges`: what it means to be put in order by a key.
* `Ranking.value_penalty_track`: following the hosts in use changes no score of theirs.
* `Fleet.Tries`, `Selection.sendToFirst_tries`: a call is offered to hosts in turn.
* `Selection.score`: the score of a host, with what is left of its penalty.
* `Selection.select_asksInOrder`: in which order hosts are asked, and what comes of it.
-/

set_option autoImplicit false

namespace RpcPipeline

open Scalar.Exact (value)

/-! ### Things in order -/

/-- All that is given, put in ascending order of a key. What has equal keys keeps its order. -/
structure Arranges {γ : Type} (key : γ → ℝ) (given order : List γ) : Prop where
  perm : order.Perm given
  ascending : order.Pairwise fun x y => key x ≤ key y
  stable : ∀ x y, [x, y].Sublist given → key x = key y → [x, y].Sublist order

/-- Only the keys of what is given matter. -/
theorem Arranges.congr {γ : Type} {key key' : γ → ℝ} {given order : List γ}
    (h : Arranges key given order) (heq : ∀ x ∈ given, key' x = key x) :
    Arranges key' given order where
  perm := h.perm
  ascending := by
    refine h.ascending.imp_of_mem fun hx hy hle => ?_
    rw [heq _ (h.perm.mem_iff.mp hx), heq _ (h.perm.mem_iff.mp hy)]
    exact hle
  stable x y hgiven hkeys := by
    have hx : x ∈ given := hgiven.subset List.mem_cons_self
    have hy : y ∈ given := hgiven.subset (List.mem_cons_of_mem _ List.mem_cons_self)
    rw [heq x hx, heq y hy] at hkeys
    exact h.stable x y hgiven hkeys

section Scores

variable {α : Type} [Scalar α] [Scalar.Exact α]

theorem mergeSort_arranges {γ : Type} (score : γ → α) (given : List γ) :
    Arranges (fun x => value (score x)) given
      (given.mergeSort fun x y => Scalar.ranksBefore (score x) (score y)) where
  perm := List.mergeSort_perm _ _
  ascending := by
    refine (List.pairwise_mergeSort ?_ ?_ given).imp fun hle => ?_
    · exact fun a b c => Scalar.ranksBefore_trans (score a) (score b) (score c)
    · exact fun a b => Scalar.ranksBefore_total (score a) (score b)
    · exact (Scalar.Exact.ranksBefore_iff _ _).mp hle
  stable x y hgiven heq := by
    have hle : Scalar.ranksBefore (score x) (score y) = true :=
      (Scalar.Exact.ranksBefore_iff _ _).mpr heq.le
    refine List.pair_sublist_mergeSort ?_ ?_ hle hgiven
    · exact fun a b c => Scalar.ranksBefore_trans (score a) (score b) (score c)
    · exact fun a b => Scalar.ranksBefore_total (score a) (score b)

end Scores

/-! ### Candidates -/

variable {α : Type}

/-- A host in use with its serial number, and the random share of its score. -/
abbrev Candidate (α : Type) : Type := α × Nat × Server α

namespace Candidate

/-- The random share of the score. -/
def share (c : Candidate α) : α := c.1

/-- The identity of the host. -/
def id (c : Candidate α) : HostId := c.2.2.id

/-- The number of calls that the host is busy with. -/
def load (c : Candidate α) : Nat := c.2.2.limiter.inFlight

end Candidate

/-- What is reported if a host does not take a call. A host that is excluded is not even
looked at. -/
def Fleet.denial (f : Fleet α) (h : Server α) : List (Event α) :=
  if f.excludes h.id then [] else [.admission h.limiter.host false]

variable [Scalar α]

/-! ### Scores -/

/-- In real numbers, a penalty halves every half-life and decays at every moment in between. -/
theorem Penalty.decayed_eq (p : Penalty ℝ) (now : Instant) (halfLife : Nanos) :
    p.decayed now halfLife = p.value * (1 / 2) ^ (((now - p.since : Nat) : ℝ) / halfLife) := rfl

namespace Ranking

variable {β : Type}

/-- Hosts are put in the order of their scores. -/
theorem rank_eq (b : Ranking α) (now : Instant) (halfLife : Nanos) (id : β → HostId)
    (load : β → Nat) (hosts : List β) :
    let score (x : α × β) : α := b.score now halfLife (id x.2) (load x.2) x.1
    (b.rank now halfLife id load hosts).1 =
      ((jitters b.random hosts).1.mergeSort fun x y =>
        Scalar.ranksBefore (score x) (score y)).map Prod.snd := by
  intro score
  let scored : α × β → α × β := fun x => (score x, x.2)
  -- Whether the scores are computed before or after, the order is the same.
  have hsort : ((jitters b.random hosts).1.mergeSort fun x y =>
      Scalar.ranksBefore (score x) (score y)).map scored =
        ((jitters b.random hosts).1.map scored).mergeSort fun x y =>
          Scalar.ranksBefore x.1 y.1 :=
    List.map_mergeSort fun _ _ _ _ => rfl
  show (((jitters b.random hosts).1.map scored).mergeSort _).map Prod.snd = _
  rw [← hsort, List.map_map]
  rfl

/-- After new hosts were entered, the penalties of the old ones are found as before. -/
theorem get?_foldl_enter (now : Instant) (ids : List HostId) (t : Table HostId (Penalty α))
    (id : HostId) :
    (ids.foldl (fun t id => if t.contains id then t else t.insert id ⟨0, now⟩) t).get? id =
      (t.get? id).or (if id ∈ ids then some ⟨0, now⟩ else none) := by
  induction ids generalizing t with
  | nil => exact Option.or_none.symm
  | cons first ids ih =>
    rw [List.foldl_cons, ih]
    by_cases hknown : t.contains first = true
    · rw [if_pos hknown]
      by_cases heq : id = first
      · subst heq
        obtain ⟨p, hp⟩ := Option.isSome_iff_exists.mp hknown
        rw [hp]
        rfl
      · simp [heq]
    · rw [if_neg hknown, Table.get?_insert]
      by_cases heq : id = first
      · subst heq
        have hnone : t.get? id = none := by simpa [Table.contains] using hknown
        simp [hnone]
      · simp [heq]

@[simp] theorem track_random (b : Ranking α) (now : Instant) (version : Nat)
    (ids : List HostId) : (b.track now version ids).random = b.random := by
  unfold track
  split <;> rfl

variable [Scalar.Exact α]

/-- Every share that is drawn is not negative and less than one. -/
theorem jitters_mem (random : RandomStream) (xs : List β) :
    ∀ x ∈ (jitters random xs : List (α × β) × RandomStream).1, 0 ≤ value x.1 ∧ value x.1 < 1 := by
  induction xs generalizing random with
  | nil => exact fun x hx => absurd hx List.not_mem_nil
  | cons y ys ih =>
    intro x hx
    rcases List.mem_cons.mp hx with rfl | hx
    · exact random.unit53_mem
    · exact ih _ x hx

/-- A host in use has the penalty that it had before the hosts were followed. A new one has
none, which is as good as one of zero. -/
theorem value_penalty_track (b : Ranking α) (now : Instant) (version : Nat) {ids : List HostId}
    {id : HostId} (hid : id ∈ ids) (t : Instant) (halfLife : Nanos) :
    value ((b.track now version ids).penalty t halfLife id) = value (b.penalty t halfLife id) := by
  unfold track
  split
  · rfl
  · have hcontains : ids.contains id = true := by simpa using hid
    have hget : (ids.foldl (fun t id => if t.contains id then t else t.insert id ⟨0, now⟩)
        (b.penalties.filter fun id _ => ids.contains id)).get? id =
          (b.penalties.get? id).or (some ⟨0, now⟩) := by
      rw [get?_foldl_enter, Table.get?_filter_key _ hcontains, if_pos hid]
    unfold penalty
    dsimp only
    rw [hget]
    cases b.penalties.get? id with
    | some p => rfl
    | none =>
      -- The host is new. Its penalty of zero is zero at any later time.
      show value (Scalar.decay 0 _ _) = value 0
      rw [Scalar.value_decay_zero Scalar.Exact.value_zero, Scalar.Exact.value_zero]

/-- A host that is not in the table is as good as one with a penalty of zero. -/
theorem value_penalty (b : Ranking α) (now : Instant) (halfLife : Nanos) (id : HostId) :
    value (b.penalty now halfLife id) =
      (b.penalties.get? id).elim 0 fun p => value (p.decayed now halfLife) := by
  unfold penalty
  cases b.penalties.get? id with
  | none => exact Scalar.Exact.value_zero
  | some p => rfl

/-- A host carries no penalty. -/
def Spares (b : Ranking α) (id : HostId) : Prop :=
  ∀ p ∈ b.penalties.get? id, value p.value = 0

theorem Spares.elim_decayed {b : Ranking α} {id : HostId} (h : b.Spares id) (t : Instant)
    (halfLife : Nanos) :
    ((b.penalties.get? id).elim 0 fun p => value (p.decayed t halfLife)) = 0 := by
  cases hget : b.penalties.get? id with
  | none => rfl
  | some p => exact Scalar.value_decay_zero (h p hget) _ _

end Ranking

/-! ### Offers in turn -/

namespace Fleet

variable {f : Fleet α} {h : Server α} {serial : Nat}

/-- A host does not take a call: it is excluded or at its limit. -/
def Refuses (f : Fleet α) (h : Server α) : Prop :=
  f.excludes h.id = true ∨ h.limiter.hasCapacity = false

theorem offer_of_refuses (hget : f.servers[serial]? = some h) (hrefuses : f.Refuses h)
    (endpoint : String) : f.offer serial endpoint = (none, f.emit (f.denial h)) := by
  have hoffer := f.offer_offers serial endpoint
  rcases heq : f.offer serial endpoint with ⟨answer, f'⟩
  rw [heq] at hoffer
  cases hoffer with
  | missing hnone =>
    rw [hget] at hnone
    cases hnone
  | excluded hsame hexcluded =>
    cases hget.symm.trans hsame
    rw [denial, if_pos hexcluded]
    rfl
  | full hsame hincluded hfull =>
    cases hget.symm.trans hsame
    rw [denial, hincluded]
    rfl
  | sent hsame hincluded hfree =>
    cases hget.symm.trans hsame
    rcases hrefuses with hexcluded | hfull
    · rw [hincluded] at hexcluded
      cases hexcluded
    · rw [hfree] at hfull
      cases hfull

theorem offer_of_not_refuses (hget : f.servers[serial]? = some h) (htakes : ¬f.Refuses h)
    (endpoint : String) : ∃ call f', f.offer serial endpoint = (some call, f') := by
  have hoffer := f.offer_offers serial endpoint
  rcases heq : f.offer serial endpoint with ⟨answer, f'⟩
  rw [heq] at hoffer
  cases hoffer with
  | missing hnone =>
    rw [hget] at hnone
    cases hnone
  | excluded hsame hexcluded =>
    cases hget.symm.trans hsame
    exact absurd (.inl hexcluded) htakes
  | full hsame _ hfull =>
    cases hget.symm.trans hsame
    exact absurd (.inr hfull) htakes
  | sent => exact ⟨_, _, rfl⟩

/-- A call is offered to hosts in turn. Either all of them refuse, or some do and the next one
takes the call; then the others are not asked. -/
inductive Tries (f : Fleet α) (endpoint : String) (order : List (Nat × Server α)) :
    Option HostedCall → Fleet α → Prop where
  | refused (hrefuse : ∀ c ∈ order, f.Refuses c.2) :
      Tries f endpoint order none (f.emit (order.flatMap fun c => f.denial c.2))
  | taken {asked rest : List (Nat × Server α)} {serial : Nat} {h : Server α} {call : HostedCall}
      {f' : Fleet α} (horder : order = asked ++ (serial, h) :: rest)
      (hrefuse : ∀ c ∈ asked, f.Refuses c.2) (htakes : ¬f.Refuses h)
      (hoffer : (f.emit (asked.flatMap fun c => f.denial c.2)).offer serial endpoint =
        (some call, f')) :
      Tries f endpoint order (some call) f'

theorem Tries.eq_none_iff {endpoint : String} {order : List (Nat × Server α)}
    {answer : Option HostedCall} {f' : Fleet α} (h : f.Tries endpoint order answer f') :
    answer = none ↔ ∀ c ∈ order, f.Refuses c.2 := by
  cases h with
  | refused hrefuse =>
    constructor
    · intro _
      exact hrefuse
    · intro _
      rfl
  | @taken asked rest serial h call f' horder _ htakes _ =>
    refine ⟨(nomatch ·), fun hall => ?_⟩
    have hmem : (serial, h) ∈ order := by
      rw [horder]
      exact List.mem_append_right asked List.mem_cons_self
    exact absurd (hall _ hmem) htakes

end Fleet

namespace Selection

theorem sendToFirst_tries (s : Selection α) (settings : SelectionConfig α) (e : Endpoint)
    {order : List (Nat × Server α)} (horder : ∀ c ∈ order, s.fleet.servers[c.1]? = some c.2) :
    ∃ answer f', s.fleet.Tries e.label order answer f' ∧
      s.sendToFirst settings e (order.map Prod.fst) =
        (answer.map fun c => .hosted c s.epoch settings, s.onFleet fun _ => f') := by
  induction order generalizing s with
  | nil =>
    have hquiet : s.fleet.emit [] = s.fleet := by simp [Fleet.emit, Outside.emit]
    refine ⟨none, s.fleet.emit [], .refused (fun c hc => absurd hc List.not_mem_nil), ?_⟩
    rw [hquiet]
    rfl
  | cons first order ih =>
    obtain ⟨serial, h⟩ := first
    obtain ⟨hfirst, hrest⟩ := List.forall_mem_cons.mp horder
    by_cases hrefuses : s.fleet.Refuses h
    · -- A refusal is only reported, so the others are asked as if they came first.
      have hsend : s.sendTo settings e serial =
          (none, { s with fleet := s.fleet.emit (s.fleet.denial h) }) := by
        rw [sendTo, Fleet.offer_of_refuses hfirst hrefuses]
        rfl
      obtain ⟨answer, f', htries, hrun⟩ :=
        ih { s with fleet := s.fleet.emit (s.fleet.denial h) } hrest
      refine ⟨answer, f', ?_, ?_⟩
      · cases htries with
        | refused hrefuse =>
          rw [Fleet.emit_emit]
          exact .refused (List.forall_mem_cons.mpr ⟨hrefuses, hrefuse⟩)
        | @taken asked rest serial' h' call _ horder' hrefuse htakes hoffer =>
          rw [Fleet.emit_emit] at hoffer
          have horder'' : (serial, h) :: order = ((serial, h) :: asked) ++ (serial', h') :: rest :=
            congrArg ((serial, h) :: ·) horder'
          exact .taken horder'' (List.forall_mem_cons.mpr ⟨hrefuses, hrefuse⟩) htakes hoffer
      · rw [List.map_cons, sendToFirst, hsend]
        exact hrun
    · obtain ⟨call, f', hoffer⟩ := Fleet.offer_of_not_refuses hfirst hrefuses e.label
      refine ⟨some call, f', ?_, ?_⟩
      · have horder' : (serial, h) :: order = [] ++ (serial, h) :: order := rfl
        refine .taken horder' (fun c hc => absurd hc List.not_mem_nil) hrefuses ?_
        rw [← hoffer]
        rfl
      · rw [List.map_cons, sendToFirst, sendTo, hoffer]
        rfl

/-! ### Balanced selection -/

/-- Offers a call to the hosts in use that no host was asked for, in the order of the
strategy. -/
def select (s : Selection α) (settings : SelectionConfig α) (e : Endpoint) :
    Option (SelectedCall α) × Selection α :=
  let (serials, s) := s.track.choices settings
  s.sendToFirst settings e serials

/-- Unless there are no hosts or one of them is asked for, an offer goes to the hosts in the
order of the strategy. -/
theorem offer_eq_select (s : Selection α) (e : Endpoint) {r : Request}
    (hhosts : s.fleet.refresh.members ≠ []) (hchooses : s.Chooses r) :
    s.offer e r =
      ((s.onFleet Fleet.refresh).adopt s.fleet.config.value.selection).select
        s.fleet.config.value.selection e := by
  have hsome : ¬(s.onFleet Fleet.refresh).fleet.members.isEmpty = true := by
    rw [List.isEmpty_iff]
    exact hhosts
  rw [Chooses] at hchooses
  unfold offer select
  dsimp only
  rw [if_neg hsome, ready_fleet, hchooses]

/-- What balanced selection has in mind after it has followed the hosts in use. -/
theorem selector_track {s : Selection α} {b : Ranking α} (h : s.selector = .balanced b) :
    s.track.selector = .balanced (b.track s.now s.fleet.version s.fleet.ids) := by
  unfold track
  rw [h]

theorem choices_balanced {s : Selection α} {b : Ranking α} (h : s.selector = .balanced b)
    (settings : SelectionConfig α) :
    (s.choices settings).1 = ((b.rank s.now settings.failureHalfLife (fun c => c.2.id)
      (fun c => c.2.limiter.inFlight) s.fleet.hosts).1).map Prod.fst := by
  unfold choices
  rw [h]

/-- The hosts in use in the order in which balanced selection asks them, each with its share. -/
def ranked (s : Selection α) (b : Ranking α) (settings : SelectionConfig α) :
    List (Candidate α) :=
  let tracked := b.track s.now s.fleet.version s.fleet.ids
  let rating (c : Candidate α) : α :=
    tracked.score s.now settings.failureHalfLife c.id c.load c.share
  (Ranking.jitters b.random s.fleet.hosts).1.mergeSort fun x y =>
    Scalar.ranksBefore (rating x) (rating y)

/-- These are the hosts that the strategy asks. -/
theorem choices_track {s : Selection α} {b : Ranking α} (h : s.selector = .balanced b)
    (settings : SelectionConfig α) :
    (s.track.choices settings).1 = ((s.ranked b settings).map Prod.snd).map Prod.fst := by
  have hnow : s.track.now = s.now := by rw [now, track_fleet, now]
  rw [choices_balanced (selector_track h), hnow, track_fleet, Ranking.rank_eq,
    Ranking.track_random]
  rfl

theorem select_tries {s : Selection α} (settings : SelectionConfig α) (e : Endpoint)
    {order : List (Nat × Server α)}
    (horder : (s.track.choices settings).1 = order.map Prod.fst)
    (hhosts : order.Perm s.fleet.hosts) :
    ∃ answer fleet, s.fleet.Tries e.label order answer fleet ∧
      s.select settings e =
        (answer.map fun call => .hosted call s.epoch settings,
          (s.track.choices settings).2.onFleet fun _ => fleet) := by
  have hfleet : (s.track.choices settings).2.fleet = s.fleet := by
    rw [choices_fleet, track_fleet]
  have hservers : ∀ c ∈ order,
      (s.track.choices settings).2.fleet.servers[c.1]? = some c.2 := by
    intro c hc
    rw [hfleet]
    exact (Fleet.mem_hosts.mp (hhosts.mem_iff.mp hc)).2
  obtain ⟨answer, fleet, htries, hsend⟩ :=
    sendToFirst_tries (s.track.choices settings).2 settings e hservers
  refine ⟨answer, fleet, hfleet ▸ htries, ?_⟩
  have hepoch : (s.track.choices settings).2.epoch = s.epoch := by
    rw [choices_epoch, track_epoch]
  show (s.track.choices settings).2.sendToFirst settings e (s.track.choices settings).1 = _
  rw [horder, hsend, hepoch]

variable [Scalar.Exact α]

/-- The score of a host: the calls that it is busy with, what is left of its penalty if the table
has one, and a random share. -/
noncomputable def score (s : Selection α) (b : Ranking α) (settings : SelectionConfig α)
    (c : Candidate α) : ℝ :=
  c.load +
    ((b.penalties.get? c.id).elim 0 fun p => value (p.decayed s.now settings.failureHalfLife)) +
      value c.share

theorem value_score (s : Selection α) (b : Ranking α) (settings : SelectionConfig α)
    (c : Candidate α) :
    value (b.score s.now settings.failureHalfLife c.id c.load c.share) = s.score b settings c := by
  rw [Ranking.score, Scalar.Exact.value_add, Scalar.Exact.value_add, Scalar.Exact.value_ofNat,
    Ranking.value_penalty]
  rfl

/-- What is promised about an offer to the hosts in use in some order, under balanced
selection. -/
structure AsksInOrder (s : Selection α) (b : Ranking α) (settings : SelectionConfig α)
    (e : Endpoint) (order : List (Candidate α)) : Prop where
  /-- The hosts in use are asked, each of them once. -/
  hosts : (order.map Prod.snd).Perm s.fleet.hosts
  share : ∀ c ∈ order, 0 ≤ value c.share ∧ value c.share < 1
  /-- They are asked in ascending order of their scores, and with equal scores in the order in
  which they are in use. The shares are drawn in that order, too. -/
  arranged : Arranges (s.score b settings) (Ranking.jitters b.random s.fleet.hosts).1 order
  /-- The first one that can take the call takes it, and nothing else comes of the offer. -/
  tried : ∃ answer fleet, s.fleet.Tries e.label (order.map Prod.snd) answer fleet ∧
    s.select settings e =
      (answer.map fun call => .hosted call s.epoch settings,
        (s.track.choices settings).2.onFleet fun _ => fleet)
  /-- The call is refused if and only if no host in use can take it. -/
  refused : (s.select settings e).1 = none ↔ ∀ c ∈ s.fleet.hosts, s.fleet.Refuses c.2
  /-- Without penalties, no host is asked before one that is busy with fewer calls. -/
  leastLoaded : (∀ c ∈ s.fleet.hosts, b.Spares c.2.id) →
    order.Pairwise fun x y => x.load ≤ y.load

theorem ranked_arranges (s : Selection α) (b : Ranking α) (settings : SelectionConfig α) :
    Arranges (s.score b settings) (Ranking.jitters b.random s.fleet.hosts).1
      (s.ranked b settings) := by
  refine (mergeSort_arranges _ _).congr fun c hc => ?_
  have hhost : c.2 ∈ s.fleet.hosts := by
    rw [← Ranking.jitters_snd (α := α) b.random s.fleet.hosts]
    exact List.mem_map_of_mem hc
  have hid : c.id ∈ s.fleet.ids := List.mem_map_of_mem hhost
  rw [← s.value_score b settings c]
  simp only [Ranking.score, Scalar.Exact.value_add, Ranking.value_penalty_track b _ _ hid]

/-- A share below one does not make up for a call more. -/
theorem load_le_of_score_le {s : Selection α} {b : Ranking α} {settings : SelectionConfig α}
    {x y : Candidate α} (hx : 0 ≤ value x.share) (hy : value y.share < 1)
    (hsparesX : b.Spares x.id) (hsparesY : b.Spares y.id)
    (hle : s.score b settings x ≤ s.score b settings y) : x.load ≤ y.load := by
  rw [score, score, hsparesX.elim_decayed, hsparesY.elim_decayed] at hle
  have hlt : (x.load : ℝ) < (y.load + 1 : Nat) := by
    push_cast
    linarith
  exact Nat.lt_succ_iff.mp (Nat.cast_lt.mp hlt)

/-- Balanced selection asks the hosts in use in ascending order of their scores until one of them
takes the call, and in every state a call is offered like that unless it asks for a host. -/
theorem select_asksInOrder (s : Selection α) (e : Endpoint) :
    (∀ b settings, s.selector = .balanced b → ∃ order, s.AsksInOrder b settings e order) ∧
      ∀ r, s.fleet.refresh.members ≠ [] → s.Chooses r →
        s.offer e r =
          ((s.onFleet Fleet.refresh).adopt s.fleet.config.value.selection).select
            s.fleet.config.value.selection e := by
  refine ⟨fun b settings h => ⟨s.ranked b settings, ?_⟩,
    fun r hhosts hchooses => s.offer_eq_select e hhosts hchooses⟩
  have harranges := s.ranked_arranges b settings
  have hhosts : ((s.ranked b settings).map Prod.snd).Perm s.fleet.hosts := by
    have hperm := harranges.perm.map Prod.snd
    rw [Ranking.jitters_snd] at hperm
    exact hperm
  have hshare : ∀ c ∈ s.ranked b settings, 0 ≤ value c.share ∧ value c.share < 1 :=
    fun c hc => Ranking.jitters_mem b.random s.fleet.hosts c (harranges.perm.mem_iff.mp hc)
  obtain ⟨answer, fleet, htries, hselect⟩ :=
    select_tries settings e (choices_track h settings) hhosts
  refine ⟨hhosts, hshare, harranges, ⟨answer, fleet, htries, hselect⟩, ?_, fun hspares => ?_⟩
  · rw [hselect, Option.map_eq_none_iff, htries.eq_none_iff]
    exact forall_congr' fun c => imp_congr_left hhosts.mem_iff
  · have hspared : ∀ c ∈ s.ranked b settings, b.Spares c.id := fun c hc =>
      hspares c.2 (hhosts.mem_iff.mp (List.mem_map_of_mem hc))
    refine harranges.ascending.imp_of_mem fun hx hy hle => ?_
    exact load_le_of_score_le (hshare _ hx).1 (hshare _ hy).2 (hspared _ hx) (hspared _ hy) hle

/-- An endpoint of the hosts below. -/
def browse : Endpoint := ⟨"catalog", "browse", "1.0", "GET", ⟨[]⟩⟩

/-- The second of the hosts below has failed, and of the shares that are drawn next its own is a
half, and the others are zero. -/
def failedOnce : Ranking Rat where
  penalties := .ofList [(⟨"https://b.example:443"⟩, ⟨10, 0⟩)]
  seenVersion := none
  random := ⟨fun position => if position = 3 then 0x80000000 else 0, 0⟩

/-- Three hosts that are busy with five calls, with none and with two, two half-lives and a half
after that. -/
def unevenlyLoaded : Selection Rat :=
  let config : ClientConfig Rat :=
    { ClientConfig.standard with
      uris := ["https://a.example", "https://b.example", "https://c.example"] }
  let outside : Outside Rat := { Outside.start with now := Nanos.seconds 75 }
  let send (f : Fleet Rat) (serial : Nat) : Fleet Rat := (f.offer serial browse.label).2
  let s := (new (.new outside (.new config) none (.new .standard (.ofSeed 0))) (.ofSeed 0)).onFleet
    fun f => [0, 0, 0, 0, 0, 2, 2].foldl send f.refresh
  { s with selector := .balanced failedOnce }

/-- What is left of the penalty is less than two calls. But together with its share, the host that
is idle comes after the one that is busy with two. -/
theorem select_asksInOrder_unevenlyLoaded :
    ∃ order : List (Candidate Rat), unevenlyLoaded.selector = .balanced failedOnce ∧
      unevenlyLoaded.AsksInOrder failedOnce .standard browse order ∧
        (failedOnce.penalties.get? ⟨"https://b.example:443"⟩).map
          (·.decayed unevenlyLoaded.now (.seconds 30)) = some (15 / 8) ∧
        order.map (fun c => (c.load, c.share)) = [(2, 0), (0, 1 / 2), (5, 0)] ∧
          (unevenlyLoaded.select .standard browse).1 ≠ none := by
  obtain ⟨order, hasks⟩ :=
    (select_asksInOrder unevenlyLoaded browse).1 failedOnce .standard rfl
  refine ⟨order, rfl, hasks, by decide +kernel, ?_, fun hnone => ?_⟩
  · let rating (c : Candidate Rat) : Rat × Nat × Rat :=
      (failedOnce.score unevenlyLoaded.now (.seconds 30) c.id c.load c.share, c.load, c.share)
    let expected : List (Rat × Nat × Rat) := [(2, 2, 0), (19 / 8, 0, 1 / 2), (5, 5, 0)]
    have hdrawn : ((Ranking.jitters failedOnce.random unevenlyLoaded.fleet.hosts).1.map
        rating).Perm expected := by
      decide +kernel
    have hperm : (order.map rating).Perm expected := (hasks.arranged.perm.map rating).trans hdrawn
    have hsorted : (order.map rating).Pairwise fun x y => x.1 ≤ y.1 := by
      refine List.pairwise_map.mpr (hasks.arranged.ascending.imp fun hle => ?_)
      rw [← value_score, ← value_score] at hle
      exact Rat.cast_le.mp hle
    -- No two of the scores are equal, so there is one order only.
    have hapart : ∀ x ∈ expected, ∀ y ∈ expected, x.1 ≤ y.1 → y.1 ≤ x.1 → x = y := by
      decide +kernel
    have hrated : order.map rating = expected :=
      hperm.eq_of_pairwise (fun x y hx hy => hapart x (hperm.mem_iff.mp hx) y hy) hsorted
        (by decide +kernel)
    have hloads := congrArg (List.map Prod.snd) hrated
    rw [List.map_map] at hloads
    exact hloads
  · have hall := hasks.refused.mp hnone
    have htakes : ∃ c ∈ unevenlyLoaded.fleet.hosts,
        unevenlyLoaded.fleet.excludes c.2.id = false ∧ c.2.limiter.hasCapacity = true := by
      decide +kernel
    obtain ⟨c, hc, hincluded, hfree⟩ := htakes
    rcases hall c hc with hexcluded | hfull
    · rw [hincluded] at hexcluded
      cases hexcluded
    · rw [hfree] at hfull
      cases hfull

end Selection

end RpcPipeline
