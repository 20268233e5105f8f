import RpcPipeline.Proofs.Hosts.Limits
import RpcPipeline.Proofs.Queue.Custody
import RpcPipeline.Proofs.Selection.Sound

/-!
# `RpcPipeline.Proofs.Selection.Custody`: a host is busy with the calls that it has taken

Each server counts the calls that it is busy with. `Selection.Balances l s` says that every
server that was ever set up, whether it is still in use or not, counts those among the
calls `l` that it has taken, and no others. If `l` are the calls that were taken and have
not ended, this is kept by all that a queue can do to the hosts behind it.

* `Fleet.Offers.load`, `Fleet.load_of_ended`, `Fleet.load_drop`: a call that a host takes
  adds one to what it is busy with, and a call that ends or is dropped takes one away.
* `Selection.backend_tracks`: the servers and the calls balance.
* `Selection.Lasts`, `balances_lasts`: and they do so whatever else happens.
-/

set_option autoImplicit false

namespace RpcPipeline

variable {α : Type} [Scalar α]

namespace Fleet

variable {f f' : Fleet α}

omit [Scalar α] in
theorem load_of_getElem? {serial : Nat} {h : Server α} (hget : f.servers[serial]? = some h) :
    f.load serial = h.limiter.inFlight := by
  rw [load, hget]
  rfl

omit [Scalar α] in
theorem load_setLimiter_of_getElem? {serial : Nat} {h : Server α}
    (hget : f.servers[serial]? = some h) (l : Limiter α) (n : Nat) :
    (f.setLimiter serial l).load n = if n = serial then l.inFlight else f.load n := by
  rw [load, getElem?_setLimiter]
  by_cases heq : serial = n
  · subst heq
    rw [if_pos rfl, if_pos rfl, hget]
    rfl
  · rw [if_neg heq, if_neg (Ne.symm heq)]
    rfl

/-- The host that takes a call is busy with one more. -/
theorem Offers.load {serial : Nat} {endpoint : String} {call : HostedCall}
    (h : Offers f serial endpoint (some call) f') (n : Nat) :
    f'.load n = f.load n + if n = call.serial then 1 else 0 := by
  cases h with
  | @sent h call o hget hincluded hfree hnow hcalls =>
    refine (load_setLimiter_of_getElem? hget _ n).trans ?_
    by_cases heq : n = serial
    · subst heq
      rw [if_pos rfl, if_pos rfl, load_of_getElem? hget]
    · rw [if_neg heq, if_neg heq]
      rfl

/-- The host of a call that ends is busy with one less. -/
theorem load_of_ended {c c' : HostedCall} {result : HostResult}
    (h : f.poll c = (some result, c', f')) (n : Nat) :
    f'.load n = f.load n - if n = c.serial then 1 else 0 := by
  unfold poll at h
  cases hget : f.servers[c.serial]? with
  | none =>
    rw [hget] at h
    cases h
  | some server =>
    rw [hget] at h
    rcases hpoll : f.outside.poll c.call.call with ⟨_ | result', call⟩
    · simp [Limiter.poll, hpoll] at h
    · simp only [Limiter.poll, hpoll, Prod.mk.injEq] at h
      obtain ⟨-, -, rfl⟩ := h
      refine (load_setLimiter_of_getElem? hget _ n).trans ?_
      by_cases heq : n = c.serial
      · subst heq
        rw [if_pos rfl, if_pos rfl, load_of_getElem? hget]
        exact server.limiter.complete_inFlight _ _ _
      · rw [if_neg heq, if_neg heq]
        rfl

omit [Scalar α] in
/-- The host of a call that is dropped is busy with one less. -/
theorem load_drop (f : Fleet α) (c : HostedCall) (n : Nat) :
    (f.drop c).load n = f.load n - if n = c.serial then 1 else 0 := by
  unfold drop
  cases hget : f.servers[c.serial]? with
  | none =>
    -- A server that is not there is not busy.
    by_cases heq : n = c.serial
    · subst heq
      simp [load, hget]
    · rw [if_neg heq]
      rfl
  | some server =>
    refine (load_setLimiter_of_getElem? hget _ n).trans ?_
    by_cases heq : n = c.serial
    · subst heq
      rw [if_pos rfl, if_pos rfl, load_of_getElem? hget]
    · rw [if_neg heq, if_neg heq]
      rfl

end Fleet

omit [Scalar α] in
/-- The serial number of the server that took a call. -/
def SelectedCall.serial? : SelectedCall α → Option Nat
  | .noHosts _ => none
  | .hosted call _ _ => some call.serial

namespace Selection

variable {s s' : Selection α} {l : List (SelectedCall α)} {c : SelectedCall α}

omit [Scalar α] in
/-- The number of calls that a server has taken. -/
def share (serial : Nat) (l : List (SelectedCall α)) : Nat :=
  l.countP fun c => c.serial? = some serial

omit [Scalar α] in
theorem share_cons (serial : Nat) (c : SelectedCall α) (l : List (SelectedCall α)) :
    share serial (c :: l) = share serial l + if c.serial? = some serial then 1 else 0 := by
  rw [share, List.countP_cons]
  simp [share]

omit [Scalar α] in
theorem share_noHosts (serial : Nat) (service : String) (l : List (SelectedCall α)) :
    share serial (.noHosts service :: l) = share serial l := by
  rw [share_cons, if_neg (fun h => by cases h), Nat.add_zero]

omit [Scalar α] in
theorem share_hosted (serial epoch : Nat) (call : HostedCall) (settings : SelectionConfig α)
    (l : List (SelectedCall α)) :
    share serial (.hosted call epoch settings :: l) =
      share serial l + if serial = call.serial then 1 else 0 := by
  rw [share_cons]
  simp only [SelectedCall.serial?, Option.some.injEq, eq_comm]

omit [Scalar α] in
/-- Every server is busy with the calls that it has taken. -/
def Balances (l : List (SelectedCall α)) (s : Selection α) : Prop :=
  ∀ serial, s.fleet.load serial = share serial l

omit [Scalar α] in
/-- Only what servers are busy with matters. -/
theorem Balances.congr (h : Balances l s)
    (hload : ∀ serial, s'.fleet.load serial = s.fleet.load serial) : Balances l s' :=
  fun serial => (hload serial).trans (h serial)

omit [Scalar α] in
/-- A call that a server has taken was counted. -/
theorem Balances.load_pos {serial : Nat} (h : Balances l s) (hc : c ∈ l)
    (hserial : c.serial? = some serial) : 0 < s.fleet.load serial := by
  rw [h serial]
  exact List.countP_pos_iff.mpr ⟨c, hc, decide_eq_true hserial⟩

theorem offer_balances {e : Endpoint} {r : Request} (h : Balances l s)
    (hoffer : s.offer e r = (some c, s')) : Balances (c :: l) s' := by
  have hcarries := s.fleet.refresh_carries
  have hoffers := s.offer_offers e r
  rw [hoffer] at hoffers
  intro serial
  have hload : s.fleet.refresh.load serial = share serial l :=
    (hcarries.load serial).trans (h serial)
  cases hoffers with
  | noHosts =>
    rw [share_noHosts]
    exact hload
  | hosted _ _ hsent _ =>
    rw [share_hosted, ← hload]
    exact hsent.load serial

/-- Polling a call that a host has taken is polling it at the host. What the strategy learns
does not concern the hosts. -/
theorem poll_hosted {call : HostedCall} {epoch : Nat} {settings : SelectionConfig α}
    {result : Option HostResult} {c' : SelectedCall α}
    (h : s.poll (.hosted call epoch settings) = (result, c', s')) :
    ∃ call', s.fleet.poll call = (result, call', s'.fleet) ∧
      c' = .hosted call' epoch settings := by
  unfold poll at h
  dsimp only at h
  rcases hpoll : s.fleet.poll call with ⟨_ | answer, call', fleet⟩
  · rw [hpoll] at h
    cases h
    exact ⟨call', rfl, rfl⟩
  · rw [hpoll] at h
    dsimp only at h
    split at h
    · split at h <;> (cases h; exact ⟨call', rfl, rfl⟩)
    · cases h
      exact ⟨call', rfl, rfl⟩

theorem pending_balances {c' : SelectedCall α} (h : Balances (c :: l) s)
    (hpoll : s.poll c = (none, c', s')) : Balances (c' :: l) s' := by
  cases c with
  | noHosts service => cases hpoll
  | hosted call epoch settings =>
    obtain ⟨call', hcall, rfl⟩ := poll_hosted hpoll
    obtain ⟨-, hserial, hsame⟩ := s.fleet.poll_rests call
    rw [hcall] at hserial hsame
    have hfleet : s'.fleet = s.fleet := hsame rfl
    have hserial' : call'.serial = call.serial := hserial
    intro serial
    have hload := h serial
    rw [share_hosted] at hload ⊢
    rw [hfleet, hserial']
    exact hload

theorem ended_balances {c' : SelectedCall α} {result : HostResult} (h : Balances (c :: l) s)
    (hpoll : s.poll c = (some result, c', s')) : Balances l s' := by
  intro serial
  have hload := h serial
  cases c with
  | noHosts service =>
    cases hpoll
    rw [share_noHosts] at hload
    exact hload
  | hosted call epoch settings =>
    obtain ⟨call', hcall, -⟩ := poll_hosted hpoll
    rw [share_hosted] at hload
    rw [Fleet.load_of_ended hcall, hload, Nat.add_sub_cancel]

omit [Scalar α] in
theorem drop_balances (h : Balances (c :: l) s) : Balances l (s.drop c) := by
  intro serial
  have hload := h serial
  cases c with
  | noHosts service =>
    rw [share_noHosts] at hload
    exact hload
  | hosted call epoch settings =>
    rw [share_hosted] at hload
    refine (s.fleet.load_drop call serial).trans ?_
    rw [hload, Nat.add_sub_cancel]

theorem offer_of_backend {e : Endpoint} {r : Request} {q q' : Queue (SelectedCall α)}
    {answer : Option (SelectedCall α)} (h : backend.offer e r q s = (answer, q', s')) :
    s.offer e r = (answer, s') := by
  have hanswer : (s.offer e r).1 = answer := congrArg (fun x => x.1) h
  have hstate : (s.offer e r).2 = s' := congrArg (fun x => x.2.2) h
  rw [← hanswer, ← hstate]

theorem backend_tracks : backend.Tracks fun l (s : Selection α) => Balances l s where
  quiet := backend_quiet
  perm h hl serial := (h serial).trans (hl.countP_eq _)
  refused {e r q s q' s' l} hoffer h := by
    have hadmits := (s.offer_admits e r).load
    rw [offer_of_backend hoffer] at hadmits
    exact h.congr (hadmits rfl)
  taken hoffer h := offer_balances h (offer_of_backend hoffer)
  pending hpoll h := pending_balances h hpoll
  ended hpoll h := ended_balances h hpoll
  drop h := drop_balances h
  report h := h

/-- Accounts that stand whatever a queue does to the hosts, and whatever else happens to
them. -/
structure Lasts (A : List (SelectedCall α) → Selection α → Prop) : Prop where
  tracks : backend.Tracks A
  outside : ∀ {l s} (change : Outside α → Outside α), A l s →
    A l (s.onFleet fun f => { f with outside := change f.outside })
  look : ∀ {l s}, A l s → A l (s.onFleet Fleet.refresh)
  update : ∀ {l s} (config : ClientConfig α), A l s →
    A l (s.onFleet fun f => { f with config := f.config.update config })
  publish : ∀ {l s cell cell'}, A l s → s.fleet.dns = some cell → cell.Later cell' →
    A l (s.onFleet fun f => { f with dns := some cell' })
  blacklist : ∀ {l s} (b : Blacklist α), A l s → A l (s.onFleet fun f => { f with blacklist := b })

theorem balances_lasts : Lasts (α := α) Balances where
  tracks := backend_tracks
  outside _ h := h
  look {_ s} h := h.congr s.fleet.refresh_carries.load
  update _ h := h
  publish h _ _ := h
  blacklist _ h := h

end Selection

end RpcPipeline
