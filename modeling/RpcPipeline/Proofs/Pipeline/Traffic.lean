import RpcPipeline.Proofs.Dns.Refresher
import RpcPipeline.Proofs.Pipeline.Dispatch

/-!
# `RpcPipeline.Proofs.Pipeline.Traffic`: runs of a pipeline

A run of a pipeline is a list of moves. Callers make calls, poll them and drop them, the
timer of the queue goes off, names are resolved, and the pipeline is closed or let go.
Meanwhile time passes, the hosts' side changes in any way, settings are replaced, and
somebody may exclude hosts, or stop excluding them, by hand. All of this can happen in
any order.

A run also keeps track of whether it has been calm since the last pass of the queue:
whether neither the time nor the settings nor the resolved names have changed since, and
nobody has stopped excluding a host by hand.

* `Traffic.step`, `Traffic.run`: moves.
* `Traffic.Sound`: what holds between any two moves.
* `Sound.step`, `Sound.run`: it holds all along.
-/

set_option autoImplicit false

namespace RpcPipeline

variable {α : Type}

namespace Pipeline

/-- A refresher has run, and the fleet sees what it publishes. -/
def heed (refresher : Refresher α) (p : Pipeline α) : Pipeline α :=
  { p with refresher := some refresher }.onFleet fun f =>
    { f with dns := some refresher.published }

/-- Addresses of names are published, whatever they are. -/
def publish (snapshot : DnsSnapshot) (p : Pipeline α) : Pipeline α :=
  match p.refresher with
  | none => p
  | some refresher => p.heed (refresher.publish snapshot)

/-- Time passes. -/
def advance (span : Nanos) (p : Pipeline α) : Pipeline α :=
  p.onOutside fun o => { o with now := o.now + span }

/-- The exclusions are changed by hand, for example forgotten. -/
def amend (change : Blacklist α → Blacklist α) (p : Pipeline α) : Pipeline α :=
  p.onFleet fun f => { f with blacklist := change f.blacklist }

/-- Whatever waiting calls depend on but the hosts: the time, and the versions of the
settings and of what names were resolved to. -/
def moment (p : Pipeline α) : Instant × Nat × Option Nat :=
  (p.selection.now, p.config.version, p.selection.fleet.dns.map (·.version))

/-- Whether a host in use was excluded in the first pipeline and is not in the second. -/
def lifts (p p' : Pipeline α) : Bool :=
  p.selection.fleet.ids.any fun id =>
    p.selection.fleet.excludes id && !p'.selection.fleet.excludes id

end Pipeline

/-- A pipeline and the calls that were made through it. -/
structure Traffic (α : Type) where
  pipeline : Pipeline α
  /-- Each call that was made, as long as its caller holds it. -/
  calls : List (Option (PipelineCall α))
  /-- Whether nothing was disturbed since the last pass. -/
  calm : Bool

namespace Traffic

/-- Something that happens to a pipeline. -/
inductive Move (α : Type) where
  | execute (endpoint : Endpoint) (request : Request)
  | poll (call : Nat)
  | drop (call : Nat)
  | close
  | letGo
  /-- The timer of the queue goes off if it is due. -/
  | fire
  /-- The refresher runs. -/
  | wake
  | publish (snapshot : DnsSnapshot)
  /-- The hosts in use are looked at. -/
  | look
  | advance (span : Nanos)
  | update (config : ClientConfig α)
  | exclude (id : HostId) (reason : BlacklistReason)
  | amend (change : Blacklist α → Blacklist α)
  | network (change : Network → Network)

/-- Whether exclusions are changed by hand. -/
def Move.isByHand : Move α → Bool
  | .exclude _ _ | .amend _ => true
  | _ => false

/-- Calls that are made have requests with a property. -/
def Move.Asks (R : Request → Prop) : Move α → Prop
  | .execute _ r => R r
  | _ => True

/-- The attempts that are under way. -/
def held (calls : List (Option (PipelineCall α))) :
    List (QueuedCall (SelectedCall α)) :=
  calls.flatMap fun c => (c.map fun c => c.call.attempts).getD []

variable [Scalar α]

/-- What a move does to the pipeline and to the calls. Nobody makes a call through a
pipeline that was let go, and a caller that is done with its call has nothing left to
poll or drop. -/
def act (x : Traffic α) : Move α → Pipeline α × List (Option (PipelineCall α))
  | .execute e r =>
    if x.pipeline.gone then (x.pipeline, x.calls)
    else ((x.pipeline.execute e r).2, x.calls ++ [some (x.pipeline.execute e r).1])
  | .poll n =>
    match x.calls[n]? with
    | some (some c) =>
      match x.pipeline.poll c with
      | (some _, _, p) => (p, x.calls.set n none)
      | (none, c, p) => (p, x.calls.set n (some c))
    | _ => (x.pipeline, x.calls)
  | .drop n =>
    match x.calls[n]? with
    | some (some c) => (x.pipeline.drop c, x.calls.set n none)
    | _ => (x.pipeline, x.calls)
  | .close => (x.pipeline.close, x.calls)
  | .letGo => (x.pipeline.letGo, x.calls)
  | .fire => (x.pipeline.tendQueue, x.calls)
  | .wake => (x.pipeline.tendNames, x.calls)
  | .publish snapshot => (x.pipeline.publish snapshot, x.calls)
  | .look => (x.pipeline.onFleet Fleet.refresh, x.calls)
  | .advance span => (x.pipeline.advance span, x.calls)
  | .update config => (x.pipeline.update config, x.calls)
  | .exclude id reason => (x.pipeline.onFleet fun f => (f.exclude id reason).2, x.calls)
  | .amend change => (x.pipeline.amend change, x.calls)
  | .network change => (x.pipeline.onOutside (·.onNetwork change), x.calls)

/-- Whether it stays calm when a move turns the first pipeline into the second. -/
def staysCalm (m : Move α) (calm : Bool) (p p' : Pipeline α) : Bool :=
  decide (p.queue.rounds < p'.queue.rounds) ||
    calm && decide (p'.moment = p.moment) && !(m.isByHand && p.lifts p')

/-- One move. -/
def step (x : Traffic α) (m : Move α) : Traffic α :=
  ⟨(x.act m).1, (x.act m).2, staysCalm m x.calm x.pipeline (x.act m).1⟩

/-- Moves one after the other. -/
def run (x : Traffic α) (moves : List (Move α)) : Traffic α := moves.foldl step x

/-- A pipeline through which no call was made yet. -/
def start (p : Pipeline α) : Traffic α := ⟨p, [], true⟩

/-! ### What holds between moves -/

/-- What holds between any two moves, if the requests of all calls have a property. -/
structure Sound (R : Request → Prop) (before : List (String × String)) (x : Traffic α) :
    Prop where
  queue : x.pipeline.queue.Sound (held x.calls)
  idle : x.pipeline.queue.running = false
  asks : x.pipeline.queue.Asks R
  selection : x.pipeline.selection.Sound before
  holders : x.pipeline.holders =
    x.calls.countP Option.isSome + if x.pipeline.gone then 0 else 1
  alive : x.pipeline.queue.alive = true ↔ 0 < x.pipeline.holders
  requests : ∀ c, some c ∈ x.calls → R c.call.request
  published : ∀ r, x.pipeline.refresher = some r →
    x.pipeline.selection.fleet.dns = some r.published
  settled : x.calm = true →
    x.pipeline.queue.Settled (Selection.Exhausted R) x.pipeline.selection

/-- What a move leads to: what holds between moves, and calls went out only under the
settings and with the names that were there, and at the time of the move. -/
structure Leads (R : Request → Prop) (before : List (String × String)) (x x' : Traffic α) :
    Prop where
  sound : x'.Sound R before
  sent : ∃ sent, x'.pipeline.selection.fleet.sent = sent ++ x.pipeline.selection.fleet.sent ∧
    ∀ c ∈ sent, c.Under x.pipeline.selection

variable {R : Request → Prop} {before : List (String × String)} {x : Traffic α}

theorem Sound.follows (h : x.Sound R before) :
    Pipeline.Follows R before x.pipeline x.pipeline.holders (held x.calls) x.pipeline :=
  .refl h.queue h.idle h.asks h.selection h.alive

/-! ### Callers -/

omit [Scalar α] in
/-- A caller that holds a call is one among the callers. What it does with the call does
not concern the others. -/
theorem held_split {calls : List (Option (PipelineCall α))} {n : Nat} {c : PipelineCall α}
    (hc : calls[n]? = some (some c)) :
    ∃ rest count, (held calls).Perm (c.call.attempts ++ rest) ∧
      calls.countP Option.isSome = count + 1 ∧
      (∀ c' : PipelineCall α, (c'.call.attempts ++ rest).Perm (held (calls.set n (some c'))) ∧
        (calls.set n (some c')).countP Option.isSome = count + 1) ∧
      rest.Perm (held (calls.set n none)) ∧
      (calls.set n none).countP Option.isSome = count := by
  obtain ⟨hn, hget⟩ := List.getElem?_eq_some_iff.mp hc
  -- The callers before and after it are the others, whatever becomes of its call.
  have hcalls : calls = calls.take n ++ some c :: calls.drop (n + 1) := by
    rw [← hget, ← List.drop_eq_getElem_cons hn, List.take_append_drop]
  have hset : ∀ o, calls.set n o = calls.take n ++ o :: calls.drop (n + 1) := by
    intro o
    rw [List.set_eq_take_append_cons_drop, if_pos hn]
  generalize calls.take n = before at hcalls hset
  generalize calls.drop (n + 1) = after at hcalls hset
  refine ⟨held before ++ held after,
    before.countP Option.isSome + after.countP Option.isSome, ?_, ?_, fun c' => ⟨?_, ?_⟩, ?_, ?_⟩
  · rw [hcalls]
    simp only [held, List.flatMap_append, List.flatMap_cons, Option.map_some, Option.getD_some]
    exact List.perm_append_comm_assoc _ _ _
  · rw [hcalls, List.countP_append, List.countP_cons]
    simp
    omega
  · rw [hset]
    simp only [held, List.flatMap_append, List.flatMap_cons, Option.map_some, Option.getD_some]
    exact List.perm_append_comm_assoc _ _ _
  · rw [hset, List.countP_append, List.countP_cons]
    simp
    omega
  · rw [hset]
    simp [held]
  · rw [hset, List.countP_append, List.countP_cons]
    simp

/-! ### Moves of callers and of the queue -/

/-- An operation that begins at `p₀` and ends at `p'` is sound if it keeps what it has to
(`Pipeline.Follows`) and the callers hold what they should afterwards. -/
theorem sound_of_follows {p₀ p' : Pipeline α} {calls' : List (Option (PipelineCall α))}
    {n : Nat} {live : List (QueuedCall (SelectedCall α))} {calm : Bool} (m : Move α)
    (hpublished : ∀ r, p₀.refresher = some r → p₀.selection.fleet.dns = some r.published)
    (hsettled : calm = true → p₀.queue.Settled (Selection.Exhausted R) p₀.selection)
    (h : Pipeline.Follows R before p₀ n live p') (hlive : live.Perm (held calls'))
    (hcount : n = calls'.countP Option.isSome + if p₀.gone then 0 else 1)
    (hrequests : ∀ c, some c ∈ calls' → R c.call.request) :
    Sound R before ⟨p', calls', staysCalm m calm p₀ p'⟩ where
  queue := h.queue.perm hlive
  idle := h.idle
  asks := h.goes.asks
  selection := h.goes.inv.1
  holders := by
    show p'.holders = _ + if p'.gone then 0 else 1
    rw [h.holders, h.gone]
    exact hcount
  alive := by
    show p'.queue.alive = true ↔ 0 < p'.holders
    rw [h.holders]
    exact h.alive
  requests := hrequests
  published := by
    intro r hr
    have hmap := h.published
    rw [show p'.refresher = some r from hr, Option.map_some] at hmap
    obtain ⟨r₀, hr₀, heq⟩ := Option.map_eq_some_iff.mp hmap.symm
    rw [show p'.selection.fleet.dns = p₀.selection.fleet.dns from h.goes.inv.2.dns, ← heq]
    exact hpublished r₀ hr₀
  settled := by
    intro hcalm
    -- Either there was a pass, or it has been calm for longer.
    rcases Nat.lt_or_eq_of_le h.goes.steady.rounds_le with hpassed | hnone
    · exact h.goes.steady.passed hpassed
    · refine h.goes.steady.kept hnone.symm (hsettled ?_)
      simp only [staysCalm, hnone, Nat.lt_irrefl, decide_false, Bool.false_or,
        Bool.and_eq_true] at hcalm
      exact hcalm.1.1

theorem Sound.of_follows (h : x.Sound R before) (m : Move α) {p' : Pipeline α}
    {calls' : List (Option (PipelineCall α))} {n : Nat}
    {live : List (QueuedCall (SelectedCall α))}
    (hf : Pipeline.Follows R before x.pipeline n live p') (hlive : live.Perm (held calls'))
    (hcount : n = calls'.countP Option.isSome + if x.pipeline.gone then 0 else 1)
    (hrequests : ∀ c, some c ∈ calls' → R c.call.request) :
    Leads R before x ⟨p', calls', staysCalm m x.calm x.pipeline p'⟩ where
  sound := sound_of_follows m h.published h.settled hf hlive hcount hrequests
  sent := hf.goes.inv.meanwhile.sent

/-- A move at which nothing happens. -/
theorem Sound.nothing (h : x.Sound R before) (m : Move α) :
    Leads R before x ⟨x.pipeline, x.calls, staysCalm m x.calm x.pipeline x.pipeline⟩ :=
  h.of_follows m h.follows (.refl _) h.holders h.requests

theorem Sound.execute (h : x.Sound R before) (e : Endpoint) {r : Request} (hr : R r) :
    Leads R before x (x.step (.execute e r)) := by
  unfold step act
  dsimp only
  cases hgone : x.pipeline.gone with
  | true => exact h.nothing _
  | false =>
    rw [if_neg Bool.false_ne_true]
    have hholders := h.holders
    rw [hgone] at hholders
    -- The new caller holds the queue besides those who held it before.
    have hstart := h.follows
    rw [hholders] at hstart
    refine h.of_follows _ (Pipeline.execute_follows hstart e hr) ?_ ?_ ?_
    · simp only [held, List.flatMap_append, List.flatMap_singleton, Option.map_some,
        Option.getD_some]
      exact List.perm_append_comm
    · rw [hgone, List.countP_append]
      simp
    · intro c hc
      rcases List.mem_append.mp hc with hc | hc
      · exact h.requests c hc
      · cases List.mem_singleton.mp hc
        exact hr

theorem Sound.poll (h : x.Sound R before) (n : Nat) : Leads R before x (x.step (.poll n)) := by
  unfold step act
  dsimp only
  rcases hc : x.calls[n]? with _ | _ | c
  · exact h.nothing _
  · exact h.nothing _
  · obtain ⟨rest, count, hlive, hcount, hkept, hdone, hdone'⟩ := held_split hc
    have hrequest := h.requests c (List.mem_of_getElem? hc)
    have hstart := h.follows
    have hholders := h.holders
    rw [hcount, Nat.add_right_comm] at hholders
    rw [hholders] at hstart
    obtain ⟨hended, hpending⟩ := Pipeline.poll_follows hrequest (hstart.perm hlive)
    have hothers : ∀ o c', some c' ∈ x.calls.set n o → some c' ∈ x.calls ∨ some c' = o :=
      fun o c' hc' => List.mem_or_eq_of_mem_set hc'
    dsimp only
    rcases hpoll : x.pipeline.poll c with ⟨_ | result, c', p'⟩
    · obtain ⟨hfollows, hsame⟩ := hpending c' p' hpoll
      obtain ⟨hlive', hcount'⟩ := hkept c'
      refine h.of_follows _ hfollows hlive' (by rw [hcount', Nat.add_right_comm]) fun d hd => ?_
      rcases hothers _ d hd with hd | hd
      · exact h.requests d hd
      · cases hd
        rw [hsame]
        exact hrequest
    · refine h.of_follows _ (hended result c' p' hpoll) hdone (by rw [hdone']) fun d hd => ?_
      rcases hothers _ d hd with hd | hd
      · exact h.requests d hd
      · cases hd

theorem Sound.drop (h : x.Sound R before) (n : Nat) : Leads R before x (x.step (.drop n)) := by
  unfold step act
  dsimp only
  rcases hc : x.calls[n]? with _ | _ | c
  · exact h.nothing _
  · exact h.nothing _
  · obtain ⟨rest, count, hlive, hcount, -, hdone, hdone'⟩ := held_split hc
    have hstart := h.follows
    have hholders := h.holders
    rw [hcount, Nat.add_right_comm] at hholders
    rw [hholders] at hstart
    refine h.of_follows _ (Pipeline.drop_follows (hstart.perm hlive)) hdone (by rw [hdone'])
      fun d hd => ?_
    rcases List.mem_or_eq_of_mem_set hd with hd | hd
    · exact h.requests d hd
    · cases hd

theorem Sound.close (h : x.Sound R before) : Leads R before x (x.step .close) :=
  h.of_follows _ (Pipeline.close_follows h.follows) (.refl _) h.holders h.requests

theorem Sound.fire (h : x.Sound R before) : Leads R before x (x.step .fire) :=
  h.of_follows _ (Pipeline.fire_follows h.follows) (.refl _) h.holders h.requests

theorem Sound.network (h : x.Sound R before) (change : Network → Network) :
    Leads R before x (x.step (.network change)) :=
  h.of_follows _ (h.follows.network change) (.refl _) h.holders h.requests

theorem Sound.letGo (h : x.Sound R before) : Leads R before x (x.step .letGo) := by
  unfold step act
  dsimp only
  unfold Pipeline.letGo
  cases hgone : x.pipeline.gone with
  | true => exact h.nothing _
  | false =>
    -- The flag concerns nothing but the count of holders, so it may as well be set first.
    let p₀ : Pipeline α := { x.pipeline with gone := true }
    have hholders : p₀.holders = x.calls.countP Option.isSome + 1 := by
      have hcount := h.holders
      rw [hgone] at hcount
      exact hcount
    have hstart : Pipeline.Follows R before p₀ p₀.holders (held x.calls) p₀ :=
      .refl h.queue h.idle h.asks h.selection h.alive
    rw [hholders] at hstart
    rw [if_neg Bool.false_ne_true]
    have hend := Pipeline.cancel_follows hstart.release
    have hsound : Sound R before ⟨p₀.release.onRefresher Refresher.cancel, x.calls,
        staysCalm .letGo x.calm p₀ (p₀.release.onRefresher Refresher.cancel)⟩ :=
      sound_of_follows .letGo h.published h.settled hend (.refl _) rfl h.requests
    exact ⟨hsound, hend.goes.inv.meanwhile.sent⟩

/-! ### Moves of everything else -/

/-- A move that leaves the queue alone is sound if it keeps what selection has to keep.
As long as it stays calm, no host may become free by it. -/
theorem Sound.of_selection (h : x.Sound R before) (m : Move α) {p' : Pipeline α}
    (hqueue : p'.queue = x.pipeline.queue) (hholders : p'.holders = x.pipeline.holders)
    (hgone : p'.gone = x.pipeline.gone) (hselection : p'.selection.Sound before)
    (hsent : p'.selection.fleet.sent = x.pipeline.selection.fleet.sent)
    (hpublished : ∀ r, p'.refresher = some r → p'.selection.fleet.dns = some r.published)
    (hexhausted : p'.moment = x.pipeline.moment →
      (m.isByHand = true → x.pipeline.lifts p' = false) →
      x.pipeline.selection.Exhausted R → p'.selection.Exhausted R) :
    Leads R before x ⟨p', x.calls, staysCalm m x.calm x.pipeline p'⟩ := by
  refine ⟨?_, [], hsent, by simp⟩
  have hsettled : staysCalm m x.calm x.pipeline p' = true →
      p'.queue.Settled (Selection.Exhausted R) p'.selection := by
    intro hcalm hlen
    simp only [staysCalm, hqueue, Nat.lt_irrefl, decide_false, Bool.false_or, Bool.and_eq_true,
      Bool.not_eq_true', decide_eq_true_iff] at hcalm
    obtain ⟨⟨hcalm, hmoment⟩, hlifts⟩ := hcalm
    refine hexhausted hmoment (fun hhand => ?_) (h.settled hcalm ?_)
    · simpa [hhand] using hlifts
    · rw [← hqueue]
      exact hlen
  have hcounted : p'.holders = x.calls.countP Option.isSome + if p'.gone then 0 else 1 := by
    rw [hholders, hgone]
    exact h.holders
  have halive : p'.queue.alive = true ↔ 0 < p'.holders := by
    rw [hqueue, hholders]
    exact h.alive
  exact
    { queue := hqueue ▸ h.queue
      idle := hqueue ▸ h.idle
      asks := hqueue ▸ h.asks
      selection := hselection
      holders := hcounted
      alive := halive
      requests := h.requests
      published := hpublished
      settled := hsettled }

theorem Sound.advance (h : x.Sound R before) (span : Nanos) :
    Leads R before x (x.step (.advance span)) := by
  refine h.of_selection _ rfl rfl rfl ?_ rfl h.published fun hmoment _ hexhausted => ?_
  · exact h.selection.stays h.selection.fits ⟨rfl, rfl, rfl, rfl, fun _ => rfl⟩ rfl rfl
  · -- It stays calm only if no time passes at all.
    have hnow : x.pipeline.selection.now + span = x.pipeline.selection.now :=
      congrArg Prod.fst hmoment
    have hzero : span = 0 := Nat.add_eq_left.mp hnow
    subst hzero
    exact hexhausted

theorem Sound.update (h : x.Sound R before) (config : ClientConfig α) :
    Leads R before x (x.step (.update config)) := by
  refine h.of_selection _ rfl rfl rfl ?_ rfl h.published fun hmoment _ _ => ?_
  · exact ⟨h.selection.fits, h.selection.current.update config, h.selection.admissible,
      h.selection.calls_eq⟩
  · -- New settings have a new version, even if they say the same.
    have hversion : x.pipeline.config.version + 1 = x.pipeline.config.version :=
      congrArg (fun m => m.2.1) hmoment
    omega

theorem Sound.look (h : x.Sound R before) : Leads R before x (x.step .look) := by
  have hcarries := x.pipeline.selection.fleet.refresh_carries
  refine h.of_selection _ rfl rfl rfl ?_ hcarries.sent ?_ fun _ _ hexhausted hr hb => ?_
  · refine ⟨h.selection.fits, Fleet.refresh_current h.selection.current, ?_, ?_⟩
    · show ∀ c ∈ x.pipeline.selection.fleet.refresh.sent, _
      rw [hcarries.sent]
      exact h.selection.admissible
    · show x.pipeline.selection.fleet.refresh.outside.calls =
        x.pipeline.selection.fleet.refresh.sent.map _ ++ _
      rw [hcarries.calls, hcarries.sent]
      exact h.selection.calls_eq
  · intro r hr
    exact hcarries.dns.trans (h.published r hr)
  · -- The hosts were found busy when the fleet was up to date, and it still is.
    have hconfig := congrArg Cell.value hcarries.config
    have hb' : x.pipeline.selection.fleet.config.value.selection.strategy = .balanced := by
      rw [← hconfig]
      exact hb
    have hfull := hexhausted hr hb'
    have hsame := Fleet.refresh_of_seen hfull.seen
    show x.pipeline.selection.fleet.refresh.Full
    rw [hsame]
    exact hfull

/-! ### Exclusions -/

omit [Scalar α] in
/-- Without an exclusion that is lifted, no host becomes free. -/
theorem exhausted_of_kept [Scalar α] {s : Selection α} {b : Blacklist α}
    (h : s.Exhausted R)
    (hkept : ∀ id ∈ s.fleet.ids, s.fleet.excludes id = true → b.excludes s.now id = true) :
    (s.onFleet fun f => { f with blacklist := b }).Exhausted R := by
  intro hr hb
  have hfull := h hr hb
  refine ⟨hfull.seen, fun serial host hmem => ?_⟩
  rcases hfull.hosts serial host hmem with hexcluded | hbusy
  · exact .inl (hkept host.id (List.mem_map_of_mem hmem) hexcluded)
  · exact .inr hbusy

omit [Scalar α] in
theorem kept_of_lifts {p p' : Pipeline α} (h : p.lifts p' = false) :
    ∀ id ∈ p.selection.fleet.ids, p.selection.fleet.excludes id = true →
      p'.selection.fleet.excludes id = true := by
  intro id hid hexcluded
  have hnot := List.any_eq_false.mp h id hid
  simpa [hexcluded] using hnot

theorem Sound.amend (h : x.Sound R before) (change : Blacklist α → Blacklist α) :
    Leads R before x (x.step (.amend change)) := by
  refine h.of_selection _ rfl rfl rfl ?_ rfl h.published fun _ hlifts hexhausted => ?_
  · exact h.selection.rests h.selection.fits (x.pipeline.selection.fleet.blacklist_rests _)
  · exact exhausted_of_kept hexhausted (kept_of_lifts (hlifts rfl))

theorem Sound.exclude (h : x.Sound R before) (id : HostId) (reason : BlacklistReason) :
    Leads R before x (x.step (.exclude id reason)) := by
  refine h.of_selection _ rfl rfl rfl ?_ rfl h.published fun _ hlifts hexhausted => ?_
  · exact h.selection.rests h.selection.fits (x.pipeline.selection.fleet.exclude_rests id reason)
  · have hkept := kept_of_lifts (hlifts rfl)
    exact (exhausted_of_kept hexhausted hkept).emit _

/-! ### Names -/

/-- As long as it stays calm, nothing has been published. -/
theorem Sound.heed (h : x.Sound R before) (m : Move α) {r r' : Refresher α}
    {events : List (Event α)} (hrefresher : x.pipeline.refresher = some r)
    (hruns : r.Runs r' events) :
    Leads R before x ⟨(x.pipeline.heed r').emit events, x.calls,
      staysCalm m x.calm x.pipeline ((x.pipeline.heed r').emit events)⟩ := by
  have hdns := h.published r hrefresher
  refine h.of_selection _ rfl rfl rfl ?_ rfl ?_ fun hmoment _ hexhausted => ?_
  · have hcurrent := h.selection.current.publish hdns hruns.later
    have hheed : (x.pipeline.heed r').selection.Sound before :=
      ⟨h.selection.fits, hcurrent, h.selection.admissible, h.selection.calls_eq⟩
    exact hheed.rests hheed.fits (Fleet.emit_rests _ hruns.silent)
  · intro r'' hr''
    cases hr''
    rfl
  · -- Since the version is the same, so is what it is the version of.
    have hversion : some r'.published.version = x.pipeline.selection.fleet.dns.map (·.version) :=
      congrArg (fun m => m.2.2) hmoment
    rw [hdns, Option.map_some, Option.some.injEq] at hversion
    have hsame : r'.published = r.published := by
      rcases hruns.later with hsame | hlt
      · exact hsame
      · omega
    have hfleet : (x.pipeline.heed r').selection = x.pipeline.selection := by
      show { x.pipeline.selection with
        fleet := { x.pipeline.selection.fleet with dns := some r'.published } } = _
      rw [hsame, ← hdns]
    have hheed : (x.pipeline.heed r').selection.Exhausted R := by
      rw [hfleet]
      exact hexhausted
    exact hheed.emit events

theorem Sound.wake (h : x.Sound R before) : Leads R before x (x.step .wake) := by
  unfold step act
  dsimp only
  unfold Pipeline.tendNames
  cases hrefresher : x.pipeline.refresher with
  | none => exact h.nothing _
  | some r => exact h.heed .wake hrefresher (r.wake_runs x.pipeline.outside.now x.pipeline.config)

theorem Sound.publish (h : x.Sound R before) (snapshot : DnsSnapshot) :
    Leads R before x (x.step (.publish snapshot)) := by
  unfold step act
  dsimp only
  unfold Pipeline.publish
  cases hrefresher : x.pipeline.refresher with
  | none => exact h.nothing _
  | some r =>
    have hruns : r.Runs (r.publish snapshot) [] := ⟨r.publish_later snapshot, silent_nil⟩
    exact h.heed (.publish snapshot) hrefresher hruns

/-! ### Runs -/

theorem Sound.step (h : x.Sound R before) {m : Move α} (hm : m.Asks R) :
    Leads R before x (x.step m) := by
  cases m with
  | execute e r => exact h.execute e hm
  | poll n => exact h.poll n
  | drop n => exact h.drop n
  | close => exact h.close
  | letGo => exact h.letGo
  | fire => exact h.fire
  | wake => exact h.wake
  | publish snapshot => exact h.publish snapshot
  | look => exact h.look
  | advance span => exact h.advance span
  | update config => exact h.update config
  | exclude id reason => exact h.exclude id reason
  | amend change => exact h.amend change
  | network change => exact h.network change

theorem Sound.run (h : x.Sound R before) {moves : List (Move α)} (hm : ∀ m ∈ moves, m.Asks R) :
    (x.run moves).Sound R before := by
  induction moves generalizing x with
  | nil => exact h
  | cons m moves ih =>
    have hstep := h.step (hm m List.mem_cons_self)
    exact ih hstep.sound fun m hm' => hm m (List.mem_cons_of_mem _ hm')

/-- A new pipeline has no hosts yet and has sent nothing. -/
theorem start_sound {outside : Outside α} {config : ClientConfig α} {resolver : Option Resolver}
    {timed : Bool} {entropy : RandomStream} {p : Pipeline α}
    (h : Pipeline.new outside config resolver timed entropy = .ok p) :
    (start p).Sound R outside.calls := by
  unfold Pipeline.new at h
  split at h
  · cases h
  · cases h
    exact
      { queue := .new timed
        idle := rfl
        asks := fun w hw => by cases hw
        selection :=
          ⟨Selection.new_fits _ _, Fleet.new_current _ _ _ _, (fun c hc => by cases hc), rfl⟩
        holders := rfl
        alive := ⟨fun _ => Nat.one_pos, fun _ => rfl⟩
        requests := fun c hc => by cases hc
        published := fun r hr => congrArg (Option.map Refresher.published) hr
        settled := fun _ => Queue.settled_of_len rfl }

end Traffic

end RpcPipeline
