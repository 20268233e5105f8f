import RpcPipeline.Proofs.Hosts.Fleet

/-!
# `RpcPipeline.Proofs.Hosts.Calls`: calls that are offered to hosts, polled and dropped

A host is sent a call only if it is not excluded and has a slot left. What comes of a call
afterwards may exclude the host and change its limits, but sends nothing and leaves the
hosts in use as they are.

* `offer_offers`: what can come of an offer to a host (`Fleet.Offers`).
* `Fleet.Rests`: the hosts stay, nothing goes out, and no time passes.
* `poll_rests`, `drop_rests`, `exclude_rests`: that is so after everything but an offer.
-/

set_option autoImplicit false

namespace RpcPipeline

variable {α : Type} [Scalar α]

namespace Fleet

variable {f f' f'' : Fleet α}

/-! ### Offers -/

/-- What can come of an offer to a host. -/
inductive Offers (f : Fleet α) (serial : Nat) (endpoint : String) :
    Option HostedCall → Fleet α → Prop where
  | missing (hget : f.servers[serial]? = none) : Offers f serial endpoint none f
  | excluded {h : Server α} (hget : f.servers[serial]? = some h)
      (hexcluded : f.excludes h.id = true) : Offers f serial endpoint none f
  | full {h : Server α} (hget : f.servers[serial]? = some h)
      (hincluded : f.excludes h.id = false) (hfull : h.limiter.hasCapacity = false) :
      Offers f serial endpoint none (f.emit [.admission h.limiter.host false])
  | sent {h : Server α} {call : LimitedCall} {o : Outside α} (hget : f.servers[serial]? = some h)
      (hincluded : f.excludes h.id = false) (hfree : h.limiter.hasCapacity = true)
      (hnow : o.now = f.outside.now)
      (hcalls : o.calls = (h.target.host, endpoint) :: f.outside.calls) :
      Offers f serial endpoint (some ⟨serial, call⟩)
        { f.setLimiter serial { h.limiter with inFlight := h.limiter.inFlight + 1 } with
          outside := o, sent := f.sending serial h endpoint :: f.sent }

theorem offer_offers (f : Fleet α) (serial : Nat) (endpoint : String) :
    Offers f serial endpoint (f.offer serial endpoint).1 (f.offer serial endpoint).2 := by
  unfold offer
  cases hget : f.servers[serial]? with
  | none => exact .missing hget
  | some h =>
    cases hexcluded : f.excludes h.id with
    | true =>
      simp only [hexcluded, if_true]
      exact .excluded hget hexcluded
    | false =>
      cases hfree : h.limiter.hasCapacity with
      | false =>
        have hclaim : h.limiter.offer h.target.host endpoint f.outside =
            (none, h.limiter, f.outside.emit [.admission h.limiter.host false]) := by
          simp [Limiter.offer, Limiter.claim, Limiter.acquire, hfree]
        simp only [hexcluded, Bool.false_eq_true, if_false, hclaim, Option.isSome_none,
          Option.map_none]
        have hself : f.setLimiter serial h.limiter = f := setLimiter_self hget
        rw [hself]
        exact .full hget hexcluded hfree
      | true =>
        let events : List (Event α) :=
          [.admission h.limiter.host true, .inFlight h.limiter.host (h.limiter.inFlight + 1)]
        have hclaim : h.limiter.offer h.target.host endpoint f.outside =
            (some ⟨((f.outside.emit events).dial h.target.host endpoint).1,
                ((f.outside.emit events).dial h.target.host endpoint).2.now⟩,
              { h.limiter with inFlight := h.limiter.inFlight + 1 },
              ((f.outside.emit events).dial h.target.host endpoint).2) := by
          simp [Limiter.offer, Limiter.claim, Limiter.acquire, hfree, events]
        simp only [hexcluded, Bool.false_eq_true, if_false, hclaim, Option.isSome_some, if_true,
          Option.map_some]
        refine .sent hget hexcluded hfree rfl ?_
        rw [Outside.calls_dial, Outside.calls_emit (by simp [Silent, events, Event.call?])]

/-- Whatever comes of an offer, the hosts stay. -/
theorem Offers.stays {serial : Nat} {endpoint : String} {answer : Option HostedCall}
    (h : Offers f serial endpoint answer f') :
    f.Stays f' ∧ f'.outside.now = f.outside.now := by
  cases h with
  | missing => exact ⟨.refl f, rfl⟩
  | excluded => exact ⟨.refl f, rfl⟩
  | full => exact ⟨⟨rfl, rfl, rfl, rfl, fun _ => rfl⟩, rfl⟩
  | @sent h call o hget hincluded hfree hnow hcalls =>
    exact ⟨⟨rfl, rfl, rfl, rfl, (f.setLimiter_stays serial _).ids⟩, hnow⟩

omit [Scalar α] in
theorem emit_emit (f : Fleet α) (events more : List (Event α)) :
    (f.emit events).emit more = f.emit (events ++ more) := by
  simp [emit, Outside.emit]

/-- A host is refused a call if it is excluded or has no slot left. Nothing but a report
comes of that. -/
theorem Offers.refused {serial : Nat} {endpoint : String}
    (h : Offers f serial endpoint none f') :
    ∃ events, (Silent events) ∧ f' = f.emit events ∧
      ∀ h, f.servers[serial]? = some h →
        f.excludes h.id = true ∨ h.limiter.hasCapacity = false := by
  cases h with
  | missing hget =>
    refine ⟨[], silent_nil, rfl, fun h' hget' => ?_⟩
    rw [hget] at hget'
    cases hget'
  | excluded hget hexcluded =>
    refine ⟨[], silent_nil, rfl, fun h' hget' => .inl ?_⟩
    rw [hget] at hget'
    cases hget'
    exact hexcluded
  | full hget _ hfull =>
    refine ⟨_, by simp [Silent, Event.call?], rfl, fun h' hget' => .inr ?_⟩
    rw [hget] at hget'
    cases hget'
    exact hfull

/-! ### Everything else -/

/-- The hosts stay, nothing goes out, and no time passes. -/
structure Rests (f f' : Fleet α) : Prop where
  stays : f.Stays f'
  sent : f'.sent = f.sent
  now : f'.outside.now = f.outside.now
  calls : f'.outside.calls = f.outside.calls

omit [Scalar α] in
theorem Rests.refl (f : Fleet α) : f.Rests f := ⟨.refl f, rfl, rfl, rfl⟩

omit [Scalar α] in
theorem Rests.trans (h : f.Rests f') (h' : f'.Rests f'') : f.Rests f'' :=
  ⟨h.stays.trans h'.stays, h'.sent.trans h.sent, h'.now.trans h.now, h'.calls.trans h.calls⟩

omit [Scalar α] in
theorem blacklist_rests (f : Fleet α) (b : Blacklist α) : f.Rests { f with blacklist := b } :=
  ⟨⟨rfl, rfl, rfl, rfl, fun _ => rfl⟩, rfl, rfl, rfl⟩

omit [Scalar α] in
theorem emit_rests (f : Fleet α) {events : List (Event α)} (h : Silent events) :
    f.Rests (f.emit events) :=
  ⟨⟨rfl, rfl, rfl, rfl, fun _ => rfl⟩, rfl, rfl, Outside.calls_emit h⟩

omit [Scalar α] in
/-- What happens at the hosts' side is no concern of the fleet. -/
theorem network_rests (f : Fleet α) (change : Network → Network) :
    f.Rests { f with outside := f.outside.onNetwork change } :=
  ⟨⟨rfl, rfl, rfl, rfl, fun _ => rfl⟩, rfl, rfl, rfl⟩

omit [Scalar α] in
theorem setLimiter_rests (f : Fleet α) (serial : Nat) (l : Limiter α) :
    f.Rests (f.setLimiter serial l) :=
  ⟨f.setLimiter_stays serial l, rfl, rfl, rfl⟩

omit [Scalar α] in
theorem noteEnd_rests (f : Fleet α) (serial : Nat) (id : HostId) :
    f.Rests (f.noteEnd serial id) :=
  ⟨⟨rfl, rfl, rfl, rfl, fun _ => rfl⟩, rfl, rfl, rfl⟩

theorem exclude_silent (b : Blacklist α) (now : Instant) (id : HostId)
    (reason : BlacklistReason) : Silent (b.exclude now id reason).2.2 := by
  show ∀ e ∈ (if b.drawCooldown.2.isMember id then _ else _ : _ × _ × List (Event α)).2.2, _
  split
  · simp [Event.call?]
  · exact silent_nil

theorem record_silent (b : Blacklist α) (now : Instant) (id : HostId) (outcome : Outcome) :
    Silent (b.record now id outcome).2 := by
  unfold Blacklist.record
  split
  · exact silent_nil
  · cases outcome with
    | success => exact silent_nil
    | serverError => exact silent_nil
    | ignored => exact silent_nil
    | hostFailure => exact exclude_silent _ _ _ _
    | overloaded =>
      dsimp only
      split
      · exact exclude_silent _ _ _ _
      · exact silent_nil

theorem record_rests (f : Fleet α) (id : HostId) (outcome : Outcome) :
    f.Rests (f.record id outcome) := by
  have hblacklist := f.blacklist_rests (f.blacklist.record f.outside.now id outcome).1
  exact hblacklist.trans (emit_rests _ (record_silent f.blacklist f.outside.now id outcome))

theorem exclude_rests (f : Fleet α) (id : HostId) (reason : BlacklistReason) :
    f.Rests (f.exclude id reason).2 := by
  have hblacklist := f.blacklist_rests (f.blacklist.exclude f.outside.now id reason).2.1
  exact hblacklist.trans (emit_rests _ (exclude_silent f.blacklist f.outside.now id reason))

omit [Scalar α] in
theorem drop_rests (f : Fleet α) (c : HostedCall) : f.Rests (f.drop c) := by
  unfold drop
  split
  · exact .refl f
  · next h _ =>
    have hlimiter := f.setLimiter_rests c.serial h.limiter.release.1
    have hnetwork := network_rests (f.setLimiter c.serial h.limiter.release.1) (·.drop c.call.call)
    have hsilent : Silent h.limiter.release.2 := by simp [Limiter.release, Silent, Event.call?]
    have hreport := (hlimiter.trans hnetwork).trans (emit_rests _ hsilent)
    exact hreport.trans (noteEnd_rests _ c.serial h.id)

theorem learn_silent (l : Limiter α) (now : Instant) (outcome : Outcome) (latency : Nanos) :
    Silent (l.learn now outcome latency).2 := by
  unfold Limiter.learn
  cases outcome with
  | success =>
    dsimp only
    split
    · exact silent_nil
    · simp [Silent, Event.call?]
  | overloaded => simp [Silent, Event.call?]
  | hostFailure => simp [Silent, Event.call?]
  | serverError => exact silent_nil
  | ignored => exact silent_nil

theorem complete_silent (l : Limiter α) (now started : Instant) (outcome : Outcome) :
    Silent (l.complete now started outcome).2 := by
  intro e he
  have hevents : (l.complete now started outcome).2 =
      (l.learn now outcome (now - started)).2 ++
        (l.learn now outcome (now - started)).1.release.2 := rfl
  rw [hevents] at he
  rcases List.mem_append.mp he with he | he
  · exact learn_silent _ _ _ _ e he
  · rw [List.mem_singleton.mp he]
    rfl

/-- Polling a call sends nothing, and as long as the call has not ended, nothing happens
at all. -/
theorem poll_rests (f : Fleet α) (c : HostedCall) :
    f.Rests (f.poll c).2.2 ∧ (f.poll c).2.1.serial = c.serial ∧
      ((f.poll c).1 = none → (f.poll c).2.2 = f) := by
  unfold poll
  cases hget : f.servers[c.serial]? with
  | none => exact ⟨.refl f, rfl, fun _ => rfl⟩
  | some h =>
    cases hpoll : f.outside.poll c.call.call with
    | mk answer call =>
      cases answer with
      | none =>
        have heq : h.limiter.poll c.call f.outside =
            (none, { c.call with call := call }, h.limiter, f.outside) := by
          simp [Limiter.poll, hpoll]
        have hself : f.setLimiter c.serial h.limiter = f := setLimiter_self hget
        simp only [heq, hself]
        exact ⟨.refl f, trivial, fun _ => trivial⟩
      | some result =>
        have heq : h.limiter.poll c.call f.outside =
            (some result, { c.call with call := call },
              (h.limiter.complete f.outside.now c.call.started (.classify result)).1,
              f.outside.emit
                (h.limiter.complete f.outside.now c.call.started (.classify result)).2) := by
          simp [Limiter.poll, hpoll]
        simp only [heq]
        refine ⟨?_, trivial, fun hnone => by cases hnone⟩
        refine Rests.trans ?_ (record_rests _ _ _)
        refine Rests.trans ?_ (noteEnd_rests _ c.serial h.id)
        exact (f.setLimiter_rests c.serial _).trans (emit_rests _ (complete_silent _ _ _ _))

end Fleet

end RpcPipeline
