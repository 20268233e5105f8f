import RpcPipeline.Proofs.Hosts.Acts
import RpcPipeline.Proofs.Selection.Custody

/-!
# `RpcPipeline.Proofs.Hosts.Books`: how busy a host was when it was sent a call

A fleet keeps notes of every call that went out and of every call that is over. The difference
of the two is what is under way, and each server counts its share of it. So the notes about a
call tell how many others were under way when it went out, and that the limit left room for
one more.

A host that leaves the fleet and comes back is set up anew. Its new server starts at zero,
even if calls to the former one are still under way. Therefore the limit holds for the calls to
one server. It holds for all calls to an identity as long as they have gone to one server.

* `Sending.Bounded`: what the notes tell about one call.
* `Fleet.Latest`: the server in use is the latest one that was set up for its identity.
* `Fleet.Books`: the notes are right about all calls.
* `Books.refresh`, `Books.sent`, `Books.over`: how they stay so.
-/

set_option autoImplicit false

namespace RpcPipeline

variable {α : Type}

namespace Fleet

/-- The number of calls that went out to a server. -/
def sentTo (n : Nat) (l : List (Sending α)) : Nat := l.countP fun c => c.serial = n

/-- The number of calls to a server that are over. -/
def endedAt (n : Nat) (l : List Ending) : Nat := l.countP fun c => c.serial = n

/-- The number of calls that went out to a host, whichever server it had. -/
def sentAs (id : HostId) (l : List (Sending α)) : Nat := l.countP fun c => c.id = id

/-- The number of calls to a host that are over, whichever server it had. -/
def endedAs (id : HostId) (l : List Ending) : Nat := l.countP fun c => c.id = id

theorem sentTo_cons (n : Nat) (c : Sending α) (l : List (Sending α)) :
    sentTo n (c :: l) = sentTo n l + if n = c.serial then 1 else 0 := by
  rw [sentTo, List.countP_cons]
  simp [sentTo, eq_comm]

theorem endedAt_cons (n : Nat) (c : Ending) (l : List Ending) :
    endedAt n (c :: l) = endedAt n l + if n = c.serial then 1 else 0 := by
  rw [endedAt, List.countP_cons]
  simp [endedAt, eq_comm]

end Fleet

open Fleet

/-- How things stood when a call went out after the calls `older`. -/
structure Sending.Bounded [Scalar α] (c : Sending α) (older : List (Sending α)) : Prop where
  /-- Its server was busy with the calls that had gone out to it and were not over. -/
  inFlight : sentTo c.serial older = endedAt c.serial c.ended + c.limiter.inFlight
  /-- The limit left room for one more. -/
  free : c.limiter.inFlight < max 1 (Scalar.floor c.limiter.limit)
  /-- No earlier call to the host went to a server that was set up later. -/
  latest : ∀ c' ∈ older, c'.id = c.id → c'.serial ≤ c.serial
  /-- All calls to one server went to one host. -/
  same : ∀ c' ∈ older, c'.serial = c.serial → c'.id = c.id
  /-- If the host has had one server only, it had room for one more call. -/
  undivided : (∀ c' ∈ older, c'.id = c.id → c'.serial = c.serial) →
    sentAs c.id older < endedAs c.id c.ended + max 1 (Scalar.floor c.limiter.limit)

namespace Fleet

variable {f f' : Fleet α} {taken taken' : Nat → Nat}

/-- The server in use is the latest one that was set up for its identity. -/
def Latest (f : Fleet α) : Prop :=
  ∀ (n m : Nat) (id : HostId), n ∈ f.members → (f.servers[n]?).map Server.id = some id →
    (f.servers[m]?).map Server.id = some id → m ≤ n

/-- The notes are right about all calls, if `taken` says how many calls each server has taken
that are not over. -/
structure Books [Scalar α] (taken : Nat → Nat) (f : Fleet α) : Prop where
  orderly : f.Orderly
  latest : f.Latest
  load : ∀ n, f.load n = taken n
  balance : ∀ n, sentTo n f.sent = endedAt n f.ended + taken n
  /-- A call went to the server that the notes say, and so did a call that is over. -/
  sent_ids : ∀ c ∈ f.sent, (f.servers[c.serial]?).map Server.id = some c.id
  ended_ids : ∀ c ∈ f.ended, (f.servers[c.serial]?).map Server.id = some c.id
  bounded : ∀ newer c older, f.sent = newer ++ c :: older → c.Bounded older

/-! ### Whichever server a host has had -/

/-- A call that is over went out before. -/
theorem exists_sent_of_ended {sent : List (Sending α)} {ended : List Ending}
    (hle : ∀ n, endedAt n ended ≤ sentTo n sent) {c : Ending} (hc : c ∈ ended) :
    ∃ c' ∈ sent, c'.serial = c.serial := by
  have hended : 0 < endedAt c.serial ended := List.countP_pos_iff.mpr ⟨c, hc, decide_eq_true rfl⟩
  obtain ⟨c', hc', hserial⟩ := List.countP_pos_iff.mp (Nat.lt_of_lt_of_le hended (hle c.serial))
  exact ⟨c', hc', of_decide_eq_true hserial⟩

/-! ### Calls -/

variable [Scalar α]

omit [Scalar α] in
theorem new_latest (outside : Outside α) (config : Cell (ClientConfig α))
    (dns : Option (Cell DnsSnapshot)) (blacklist : Blacklist α) :
    (new outside config dns blacklist).Latest :=
  fun _ _ _ hn => by cases hn

theorem new_books (outside : Outside α) (config : Cell (ClientConfig α))
    (dns : Option (Cell DnsSnapshot)) (blacklist : Blacklist α) :
    (new outside config dns blacklist).Books fun _ => 0 where
  orderly := new_orderly _ _ _ _
  latest := new_latest _ _ _ _
  load _ := rfl
  balance _ := rfl
  sent_ids c hc := by cases hc
  ended_ids c hc := by cases hc
  bounded newer c older h := by simp [new] at h

/-- What leaves the servers and the notes alone. -/
theorem Books.apart (h : f.Books taken) (horderly : f'.Orderly)
    (hservers : f'.servers = f.servers) (hmembers : f'.members = f.members)
    (hsent : f'.sent = f.sent) (hended : f'.ended = f.ended) : f'.Books taken where
  orderly := horderly
  latest := by
    unfold Latest
    rw [hmembers, hservers]
    exact h.latest
  load n := by
    rw [← h.load n, Fleet.load, Fleet.load, hservers]
  balance := by
    rw [hsent, hended]
    exact h.balance
  sent_ids := by
    rw [hsent, hservers]
    exact h.sent_ids
  ended_ids := by
    rw [hended, hservers]
    exact h.ended_ids
  bounded := by
    rw [hsent]
    exact h.bounded

theorem Books.congr (h : f.Books taken) (heq : ∀ n, taken' n = taken n) : f.Books taken' := by
  rw [funext heq]
  exact h

omit [Scalar α] in
/-- Using hosts makes no server later than another. -/
theorem Latest.stays (h : f.Latest) (hstays : f.Stays f') : f'.Latest := by
  unfold Latest
  rw [hstays.members]
  intro n m id hn hidn hidm
  rw [hstays.ids] at hidn hidm
  exact h n m id hn hidn hidm

/-- All calls to a server are noted with its identity. -/
theorem Books.id_of_serial (h : f.Books taken) {serial : Nat} {id : HostId}
    (hid : (f.servers[serial]?).map Server.id = some id) {c : Sending α} (hc : c ∈ f.sent)
    (hserial : c.serial = serial) : c.id = id := by
  have hcid := h.sent_ids c hc
  rw [hserial, hid, Option.some.injEq] at hcid
  exact hcid.symm

/-- If a host has had one server only, its calls are those to that server. -/
theorem Books.as_eq_to (h : f.Books taken) {serial : Nat} {id : HostId}
    (hid : (f.servers[serial]?).map Server.id = some id)
    (hone : ∀ c ∈ f.sent, c.id = id → c.serial = serial) :
    sentAs id f.sent = sentTo serial f.sent ∧ endedAs id f.ended = endedAt serial f.ended := by
  have hsent : ∀ c ∈ f.sent, c.id = id ↔ c.serial = serial := fun c hc =>
    ⟨hone c hc, h.id_of_serial hid hc⟩
  have hended : ∀ c ∈ f.ended, c.id = id ↔ c.serial = serial := by
    intro c hc
    have hcid := h.ended_ids c hc
    constructor
    · intro heq
      -- Whatever is over went out before, so it went to this server too.
      have hle : ∀ n, endedAt n f.ended ≤ sentTo n f.sent := fun n =>
        (h.balance n).symm ▸ Nat.le_add_right _ _
      obtain ⟨c', hc', hserial⟩ := exists_sent_of_ended hle hc
      have hcid' := h.sent_ids c' hc'
      rw [hserial, hcid, heq, Option.some.injEq] at hcid'
      exact hserial.symm.trans (hone c' hc' hcid'.symm)
    · intro hserial
      rw [hserial, hid, Option.some.injEq] at hcid
      exact hcid.symm
  constructor
  · exact List.countP_congr fun c hc => by simpa using hsent c hc
  · exact List.countP_congr fun c hc => by simpa using hended c hc

/-- The limit leaves room for a call that goes out now. -/
theorem Books.sending_bounded (h : f.Books taken) {serial : Nat} {server : Server α}
    (endpoint : String) (hmember : serial ∈ f.members)
    (hget : f.servers[serial]? = some server) (hfree : server.limiter.hasCapacity = true) :
    (f.sending serial server endpoint).Bounded f.sent := by
  have hid : (f.servers[serial]?).map Server.id = some server.id := by
    rw [hget]
    rfl
  -- The server counts what the notes leave over.
  have hbusy : sentTo serial f.sent = endedAt serial f.ended + server.limiter.inFlight := by
    rw [h.balance, ← h.load, load_of_getElem? hget]
  have hroom : server.limiter.inFlight < max 1 (Scalar.floor server.limiter.limit) :=
    of_decide_eq_true hfree
  refine ⟨hbusy, hroom, fun c hc heq => ?_, fun c hc => h.id_of_serial hid hc, fun hone => ?_⟩
  · have hcid := h.sent_ids c hc
    rw [heq] at hcid
    exact h.latest serial c.serial server.id hmember hid hcid
  · obtain ⟨hsentAs, hendedAs⟩ := h.as_eq_to hid hone
    show sentAs server.id f.sent < endedAs server.id f.ended + _
    rw [hsentAs, hendedAs, hbusy]
    exact Nat.add_lt_add_left hroom _

/-- Using hosts keeps the notes about the past. -/
theorem Books.uses (h : f.Books taken) (huses : f.Uses f') (hload : ∀ n, f'.load n = taken' n)
    (hbalance : ∀ n, sentTo n f'.sent = endedAt n f'.ended + taken' n)
    (hsent : ∀ c ∈ f'.sent, c ∈ f.sent ∨ (f.servers[c.serial]?).map Server.id = some c.id)
    (hended : ∀ c ∈ f'.ended, c ∈ f.ended ∨ (f.servers[c.serial]?).map Server.id = some c.id)
    (hbounded : ∀ newer c older, f'.sent = newer ++ c :: older → c.Bounded older) :
    f'.Books taken' where
  orderly := h.orderly.uses huses
  latest := h.latest.stays huses.stays
  load := hload
  balance := hbalance
  sent_ids c hc := (huses.stays.ids _).trans ((hsent c hc).elim (h.sent_ids c) id)
  ended_ids c hc := (huses.stays.ids _).trans ((hended c hc).elim (h.ended_ids c) id)
  bounded := hbounded

/-- A call goes out to a host in use. -/
theorem Books.sent (h : f.Books taken) {serial : Nat} {endpoint : String} {call : HostedCall}
    (hoffers : f.Offers serial endpoint (some call) f') (hmember : serial ∈ f.members) :
    f'.Books fun n => taken n + if n = call.serial then 1 else 0 := by
  have huses := hoffers.uses
  have hload := hoffers.load
  cases hoffers with
  | @sent server call o hget hincluded hfree hnow hcalls =>
    have hgood := h.sending_bounded endpoint hmember hget hfree
    refine h.uses huses (fun n => (hload n).trans (by rw [h.load])) (fun n => ?_) (fun c hc => ?_)
      (fun c hc => .inl hc) fun newer c older heq => ?_
    · show sentTo n (f.sending serial server endpoint :: f.sent) = endedAt n f.ended + _
      rw [sentTo_cons, h.balance n, Nat.add_assoc]
      rfl
    · rcases List.mem_cons.mp hc with rfl | hc
      · refine .inr ?_
        show (f.servers[serial]?).map Server.id = some server.id
        rw [hget]
        rfl
      · exact .inl hc
    · -- Either it is this call, or one before it.
      have heq' : f.sending serial server endpoint :: f.sent = newer ++ c :: older := heq
      cases newer with
      | nil =>
        cases heq'
        exact hgood
      | cons first newer => exact h.bounded newer c older (List.cons.inj heq').2

/-- A call is over. -/
theorem Books.over {serial : Nat} {server : Server α}
    (h : f.Books fun n => taken n + if n = serial then 1 else 0) (huses : f.Uses f')
    (hget : f.servers[serial]? = some server) (hsent : f'.sent = f.sent)
    (hended : f'.ended = ⟨serial, server.id⟩ :: f.ended)
    (hload : ∀ n, f'.load n = f.load n - if n = serial then 1 else 0) : f'.Books taken := by
  refine h.uses huses (fun n => ?_) (fun n => ?_) (fun c hc => .inl (hsent ▸ hc)) (fun c hc => ?_)
    (hsent ▸ h.bounded)
  · rw [hload, h.load, Nat.add_sub_cancel]
  · rw [hsent, hended, endedAt_cons, h.balance n, Nat.add_assoc, Nat.add_comm (taken n)]
  · rw [hended] at hc
    rcases List.mem_cons.mp hc with rfl | hc
    · refine .inr ?_
      show (f.servers[serial]?).map Server.id = some server.id
      rw [hget]
      rfl
    · exact .inl hc

/-- A call of which the notes say that it is under way has a server. -/
theorem Books.server {serial : Nat}
    (h : f.Books fun n => taken n + if n = serial then 1 else 0) :
    ∃ server, f.servers[serial]? = some server := by
  have hload := h.load serial
  rw [if_pos rfl] at hload
  cases hget : f.servers[serial]? with
  | some server => exact ⟨server, rfl⟩
  | none => simp [Fleet.load, hget] at hload

/-- A call ends. -/
theorem Books.ended {c c' : HostedCall} {result : HostResult}
    (h : f.Books fun n => taken n + if n = c.serial then 1 else 0)
    (hpoll : f.poll c = (some result, c', f')) : f'.Books taken := by
  obtain ⟨server, hget⟩ := h.server
  have huses := f.poll_uses c
  have hsent := (f.poll_rests c).1.sent
  -- The end is noted for the identity of the server that the call went to.
  have hended : f'.ended = ⟨c.serial, server.id⟩ :: f.ended := by
    have hpoll' := hpoll
    unfold poll at hpoll'
    rw [hget] at hpoll'
    rcases hcall : f.outside.poll c.call.call with ⟨_ | answer, call⟩
    · simp [Limiter.poll, hcall] at hpoll'
    · simp only [Limiter.poll, hcall, Prod.mk.injEq] at hpoll'
      obtain ⟨-, -, rfl⟩ := hpoll'
      rfl
  rw [hpoll] at huses hsent
  exact h.over huses hget hsent hended (load_of_ended hpoll)

/-- A call is dropped. -/
theorem Books.drop {c : HostedCall}
    (h : f.Books fun n => taken n + if n = c.serial then 1 else 0) : (f.drop c).Books taken := by
  obtain ⟨server, hget⟩ := h.server
  have hended : (f.drop c).ended = ⟨c.serial, server.id⟩ :: f.ended := by
    unfold Fleet.drop
    rw [hget]
    rfl
  exact h.over (f.drop_uses c) hget (f.drop_rests c).sent hended (f.load_drop c)

/-! ### Looking at the hosts -/

/-- A server that is set up when the fleet is rebuilt is the latest one of its identity. -/
theorem Latest.rebuilds (hrebuilds : f.Rebuilds f') (h : f.Latest) (ho : f.Orderly) :
    f'.Latest := by
  obtain ⟨serials, f₁, hplaces, hservers, -⟩ := hrebuilds.places
  intro n m id hn hidn hidm
  obtain ⟨server, hget, hid⟩ := Option.map_eq_some_iff.mp hidn
  obtain ⟨server', hget', hid'⟩ := Option.map_eq_some_iff.mp hidm
  rw [hservers] at hget'
  by_cases hm : m < f.servers.size
  · -- The other server was there before, with the same identity.
    have hidm₀ : (f.servers[m]?).map Server.id = some id := by
      obtain ⟨server₀, hget₀⟩ : ∃ server₀, f.servers[m]? = some server₀ :=
        ⟨_, Array.getElem?_eq_getElem hm⟩
      have hkept := hplaces.grows.ids m server₀.id (by
        show (f.servers[m]?).map Server.id = some server₀.id
        rw [hget₀]
        rfl)
      rw [hget', Option.map_some, hid', Option.some.injEq] at hkept
      rw [hget₀, hkept]
      rfl
    rcases hrebuilds.hosts ho.current.valid ho.nodup (mem_hosts.mpr ⟨hn, hget⟩) with
      ⟨server₀, hmem₀, rfl⟩ | ⟨p, -, -, hle, -⟩
    · obtain ⟨hn₀, hget₀⟩ := mem_hosts.mp hmem₀
      refine h n m id hn₀ ?_ hidm₀
      rw [hget₀]
      exact congrArg some hid
    · exact Nat.le_trans (Nat.le_of_lt hm) hle
  · obtain ⟨hnot, honly⟩ := hplaces.added f.due_nodup (Nat.le_of_not_lt hm) hget'
    rcases hrebuilds.hosts ho.current.valid ho.nodup (mem_hosts.mpr ⟨hn, hget⟩) with
      ⟨server₀, hmem₀, rfl⟩ | ⟨p, -, -, hle, -⟩
    · -- The host stays, so no other server was set up for its identity.
      have hin : server'.id ∈ f.ids := by
        rw [hid', ← hid]
        exact List.mem_map_of_mem hmem₀
      exact absurd hin hnot
    · rw [hservers] at hget
      exact Nat.le_of_eq (honly n server hle hget (hid.trans hid'.symm)).symm

theorem Books.refresh (h : f.Books taken) : f.refresh.Books taken := by
  by_cases hseen : f.seen = some f.sources
  · rw [refresh_of_seen hseen]
    exact h
  · obtain ⟨f', hrebuilds, hrefresh⟩ :=
      refresh_rebuilds h.orderly.current.valid h.orderly.nodup hseen
    obtain ⟨serials, f₁, hplaces, hservers, hended⟩ := hrebuilds.places
    have hcarries := f.refresh_carries
    have horderly := h.orderly.refresh
    have hids : ∀ (n : Nat) (id : HostId), (f.servers[n]?).map Server.id = some id →
        (f.refresh.servers[n]?).map Server.id = some id := by
      intro n id hid
      rw [hrefresh]
      show (f'.servers[n]?).map Server.id = some id
      rw [hservers]
      exact hplaces.grows.ids n id hid
    have hended' : f.refresh.ended = f.ended := by
      rw [hrefresh]
      exact hended.trans hplaces.ended
    have hlatest : f'.Latest := h.latest.rebuilds hrebuilds h.orderly
    -- Meanwhile nothing is sent and nothing ends, and servers keep their identities.
    refine ⟨horderly, ?_, fun n => ?_, ?_, ?_, ?_, ?_⟩
    · rw [hrefresh]
      exact hlatest
    · exact (hcarries.load n).trans (h.load n)
    · rw [hcarries.sent, hended']
      exact h.balance
    · rw [hcarries.sent]
      exact fun c hc => hids _ _ (h.sent_ids c hc)
    · rw [hended']
      exact fun c hc => hids _ _ (h.ended_ids c hc)
    · rw [hcarries.sent]
      exact h.bounded

end Fleet

end RpcPipeline
