import Mathlib.Data.List.Pairwise
import RpcPipeline.Proofs.Queue.Capacity
import RpcPipeline.Proofs.Queue.Regular

/-!
# `RpcPipeline.Proofs.Queue.Dispatch`: a pass is a matter of the order of service

In front of a delegate that never calls back into the queue, a pass can be told without its
loop: calls have their turns along the order of service, up to the first refusal, and what the
pass does to the queue follows from how the turns went (`Delegate.dispatch`). There is no bound in
that account, and no call in the hand of a pass.

A call that is refused goes back to the lane that the fairness of the pass has for it. Where the
settings have changed since the call was queued, that need not be the lane that it stood in. So
the lanes are as they were before the offer if and only if it is (`Lanes.Returns`). Whatever the
settings were at which time, lanes are regular and the counter is right when a pass begins
(`run_inLine`), and more than that is not needed.

* `Lanes.AtHome`: a call stands in the lane that a fairness has for it.
* `pass_dispatches`: a pass is the pass as told by its turns, and what follows from that
  for offers, lanes, slots and counters (`Queue.Dispatches`).
* `refused_changes_lanes`: lanes that a refusal changes.
-/

set_option autoImplicit false

open scoped List

namespace RpcPipeline

variable {κ σ : Type}

/-! ### A call that is refused -/

namespace Lanes

variable {f : Fairness} {ls rest : Lanes} {w : Waiter} {n : Nat}

/-- A call stands in the lane that a fairness has for it. -/
def AtHome (f : Fairness) (w : Waiter) (ls : Lanes) : Prop :=
  ∀ l ∈ ls, w ∈ l.waiters → l.key = f.key w

/-- Under one fairness, every call does. -/
theorem Tidy.atHome (h : ls.Tidy f) (w : Waiter) : ls.AtHome f w :=
  fun l hl hw => (h.own l hl w hw).symm

/-- Nobody stands in two lanes. -/
theorem eq_of_mem_waiters (hids : ls.ids.Nodup) {l l' : Lane} (hl : l ∈ ls) (hl' : l' ∈ ls)
    (hw : w ∈ l.waiters) (hw' : w ∈ l'.waiters) : l = l' := by
  have hapart := (List.nodup_flatMap.mp (List.Nodup.of_map _ hids)).2
  have : Std.Symm (Function.onFun List.Disjoint Lane.waiters) :=
    ⟨fun _ _ h _ ha hb => h hb ha⟩
  by_contra hne
  exact hapart.forall hl hl' hne hw hw'

/-- The lanes are as they were once a call is put back that was taken, if and only if it was in
the lane that it goes back to. -/
theorem restore_eq_iff (hnodup : ls.keys.Nodup) (hids : ls.ids.Nodup)
    (hp : (ls.after n).pop = some (w, rest)) :
    rest.restore f w = ls.after n ↔ ls.AtHome f w := by
  -- Turns take no call from one lane to another.
  have hfrom : (ls.after n).Each fun key v => ∃ l ∈ ls, l.key = key ∧ v ∈ l.waiters :=
    after_keeps (fun hp h => h.of_pop hp) (fun l hl v hv => ⟨l, hl, rfl, hv⟩) n
  obtain ⟨key, ws, ls', hfront⟩ := front_of_pop hp
  obtain ⟨l, hl, rfl, hw⟩ : ∃ l ∈ ls, l.key = key ∧ w ∈ l.waiters := by
    rw [hfront] at hfrom
    exact hfrom _ List.mem_cons_self w List.mem_cons_self
  constructor
  · intro heq l' hl' hw'
    have hkey : f.key w = l.key := by
      have hkeys := congrArg keys heq
      rw [hfront] at hkeys
      exact (List.cons.inj hkeys).1
    rw [eq_of_mem_waiters hids hl' hl hw' hw, hkey]
  · intro hhome
    have hnodup' : (ls.after n).keys.Nodup :=
      after_keeps (P := fun ls => ls.keys.Nodup) (fun hp h => nodup_of_pop h hp) hnodup n
    refine restore_of_front hnodup' ?_ hp
    rw [hfront, ← hhome l hl hw]
    rfl

/-- How lanes stand once a number of calls have left, and the next one was refused. -/
structure Returns (f : Fairness) (w : Waiter) (n : Nat) (ls ls' : Lanes) : Prop where
  /-- The call goes to the head of the lane that the fairness has for it, and that lane to the
  front. The others stand as they stood when it had been taken. -/
  returned : ∃ rest, (ls.after n).pop = some (w, rest) ∧ ls' = rest.restore f w
  /-- So all stand as they stood just before the offer, if and only if the call was in that lane
  then. -/
  kept_iff : ls' = ls.after n ↔ ls.AtHome f w
  /-- In any case it is next again, -/
  next : ∃ rest, ls'.pop = some (w, rest)
  /-- and the same calls wait. -/
  perm : ls'.waiters ~ ls.order.drop n

theorem Regular.after (h : ls.Regular) (n : Nat) : (ls.after n).Regular :=
  after_keeps (fun hp h => h.of_pop hp) h n

theorem Regular.putBack (h : ls.Regular) (f : Fairness) : (ls.putBack f).Regular := by
  unfold Lanes.putBack
  split
  · next hp => exact (h.of_pop hp).restore f _
  · exact h

/-- Whoever waits still waits when the next call was taken and put back. -/
theorem waiters_putBack (f : Fairness) (ls : Lanes) : (ls.putBack f).waiters ~ ls.waiters := by
  unfold putBack
  split
  · next hp => exact (waiters_restore f _ _).trans (waiters_of_pop hp).symm
  · exact .refl _

/-- The calls that are left are those that come later in the order of service. -/
theorem waiters_after (ho : ls.Occupied) (n : Nat) : (ls.after n).waiters ~ ls.order.drop n := by
  rw [← order_after ho]
  exact (order_perm (occupied_after ho n)).symm

theorem putBack_returns (h : ls.Regular) (hids : ls.ids.Nodup) {others : List Waiter}
    (hnext : ls.order.drop n = w :: others) : Returns f w n ls ((ls.after n).putBack f) := by
  have hocc := occupied_after h.occupied n
  have horder : (ls.after n).order = w :: others := (order_after h.occupied n).trans hnext
  obtain ⟨rest, hp⟩ : ∃ rest, (ls.after n).pop = some (w, rest) := by
    cases hp : (ls.after n).pop with
    | none =>
      rw [eq_nil_of_pop hocc hp] at horder
      cases horder
    | some next =>
      obtain ⟨v, rest⟩ := next
      rw [order_of_pop hp] at horder
      exact ⟨rest, by rw [(List.cons.inj horder).1]⟩
  refine ⟨⟨rest, hp, putBack_of_pop hp⟩, ?_, ?_, ?_⟩
  · rw [putBack_of_pop hp]
    exact restore_eq_iff h.nodup hids hp
  · rw [putBack_of_pop hp]
    exact pop_restore f w rest
  · exact (waiters_putBack f _).trans (waiters_after h.occupied n)

theorem Regular.left (h : ls.Regular) (f : Fairness) (turns : List (Waiter × Turn κ)) :
    (ls.left f turns).Regular := by
  unfold Lanes.left
  dsimp only
  split
  · exact (h.after _).putBack f
  · exact h.after _

theorem waiters_left (ho : ls.Occupied) (f : Fairness) (turns : List (Waiter × Turn κ)) :
    (ls.left f turns).waiters ~ ls.order.drop (turns.countP fun t => !t.2.isRefused) := by
  refine List.Perm.trans ?_ (waiters_after ho _)
  unfold left
  dsimp only
  split
  · exact waiters_putBack f _
  · exact .refl _

end Lanes

/-! ### A pass -/

/-- A pass, as told by its turns along the order of service. -/
def Delegate.dispatch (d : Delegate κ σ) (q : Queue κ) (s : σ) : Queue κ × σ :=
  let fairness := (d.settings s).fairness
  let (turns, s) := d.serve q.isDeserted q.lanes.order s
  let q := { q.served fairness turns with rounds := q.rounds + 1 }
  let s := d.report q.len s
  (if turns.any (·.2.isRefused) && q.inFlight = 0 then
      q.arm (d.now s) (d.settings s).stallRetryDelay
    else q, s)

namespace Queue

/-- The lanes are regular, and they hold what the queue counts, no call in two places. -/
structure InLine (q : Queue κ) : Prop where
  regular : q.lanes.Regular
  nodup : q.lanes.ids.Nodup
  len_eq : q.len = q.lanes.count

/-- What a pass that makes some turns comes to. -/
structure Dispatches (f : Fairness) (q : Queue κ) (turns : List (Waiter × Turn κ))
    (q' : Queue κ) : Prop where
  /-- Every call has a place in the order of service, and only one. -/
  order_perm : q.lanes.order ~ q.lanes.waiters
  /-- Calls have their turns in that order. -/
  inOrder : turns.map Prod.fst <+: q.lanes.order
  /-- A call is offered when its turn comes, unless nobody waits for it any more. -/
  offered : ∀ t ∈ turns, t.2.isOffer = !q.isDeserted t.1.id
  /-- At most the last one is refused. -/
  refused : ∀ t ∈ turns.dropLast, t.2.isRefused = false
  /-- The turns end with a refusal, or when nothing waits. -/
  stops : (∃ w before, turns = before ++ [(w, .refused)]) ∨ turns.map Prod.fst = q.lanes.order
  offers_le : (turns.countP fun t => t.2.isOffer) ≤ q.len
  /-- Without a refusal nothing is left. -/
  cleared : (∀ t ∈ turns, t.2.isRefused = false) → q'.lanes = []
  /-- A call that is refused goes back to its place, as the fairness has it. -/
  returned : ∀ before w, turns = before ++ [(w, .refused)] →
    Lanes.Returns f w before.length q.lanes q'.lanes
  /-- If all calls were in their lanes, then these stand as just before the refusal. -/
  kept : q.lanes.Tidy f → ∀ before w, turns = before ++ [(w, .refused)] →
    q'.lanes = q.lanes.after before.length
  /-- Whoever waits for a call that is taken has it. -/
  handed : ∀ w call, (w, .taken call) ∈ turns → q'.slots.get? w.id = some (.filled call)
  /-- Nobody else has anything new. -/
  others : ∀ id, (∀ w call, (w, .taken call) ∈ turns → w.id ≠ id) →
    q'.slots.get? id = q.slots.get? id
  inFlight_eq : q'.inFlight = q.inFlight + turns.countP fun t => t.2.isTaken
  inLine : q'.InLine

variable {d : Delegate κ σ} {f : Fairness} {q q' : Queue κ} {s : σ}

/-- A delegate that never calls back does nothing to the queue. -/
theorem behind_intrudes (d : Delegate κ σ) (G : Queue κ → σ → Prop) :
    d.behind.Intrudes G fun _ _ => True :=
  .quiet ⟨fun _ _ => trivial, fun _ _ => trivial, fun _ _ => trivial⟩ (fun _ _ _ _ => rfl)
    fun _ _ _ _ => trivial

/-- As long as a queue is neither closed nor let go, it is in line whatever happens to it, and
however its settings change meanwhile. -/
theorem run_inLine (d : Delegate κ σ) (timed : Bool) (s : σ) (acts : List (Act κ σ))
    (hopen : (run d.behind acts (new timed, s)).1.closed = false)
    (halive : (run d.behind acts (new timed, s)).1.alive = true) :
    (run d.behind acts (new timed, s)).1.InLine := by
  have hcounted := run_counted (behind_intrudes d _) timed s acts
  have hlen := hcounted.len_eq hopen halive
  rw [List.length_nil, Nat.zero_add] at hlen
  exact ⟨run_regular (behind_intrudes d _) timed s acts, hcounted.nodup, hlen⟩

/-- After some turns the queue is in line as before. -/
theorem InLine.left (h : q.InLine) {turns : List (Waiter × Turn κ)}
    (hlanes : q'.lanes = q.lanes.left f turns)
    (hlen : q'.len = q.len - turns.countP fun t => !t.2.isRefused) : q'.InLine := by
  have hocc := h.regular.occupied
  have hperm := Lanes.waiters_left hocc f turns
  refine ⟨?_, ?_, ?_⟩
  · rw [hlanes]
    exact h.regular.left f turns
  · -- The identities that are left are among those that were there.
    have hall : (q.lanes.order.map Waiter.id).Nodup :=
      ((Lanes.order_perm hocc).map _).nodup_iff.mpr h.nodup
    rw [hlanes]
    exact (hperm.map _).nodup_iff.mpr (hall.sublist ((List.drop_sublist _ _).map _))
  · have hcount := hperm.length_eq
    rw [List.length_drop, (Lanes.order_perm hocc).length_eq] at hcount
    rw [hlanes, hlen, h.len_eq]
    exact hcount.symm

/-- Where nobody is refused, everybody has left. -/
theorem InLine.cleared (h : q.InLine) {turns : List (Waiter × Turn κ)}
    (hstops : (∃ w before, turns = before ++ [(w, .refused)]) ∨
      turns.map Prod.fst = q.lanes.order)
    (htaken : ∀ t ∈ turns, t.2.isRefused = false) : q.lanes.left f turns = [] := by
  have hocc := h.regular.occupied
  rcases hstops with ⟨w, before, rfl⟩ | hall
  · cases htaken (w, .refused) (by simp)
  · have hlength : turns.length = q.lanes.count := by
      rw [← List.length_map (f := Prod.fst), hall, (Lanes.order_perm hocc).length_eq]
      rfl
    rw [Lanes.left_of_taken htaken]
    refine Lanes.eq_nil_of_count (Lanes.occupied_after hocc _) ?_
    rw [Lanes.count_after hocc, hlength, Nat.sub_self]

/-- Where somebody is refused in the end, the others before have left. -/
theorem InLine.returned (h : q.InLine) {turns : List (Waiter × Turn κ)}
    (hinOrder : turns.map Prod.fst <+: q.lanes.order)
    (hrefused : ∀ t ∈ turns.dropLast, t.2.isRefused = false) (before : List (Waiter × Turn κ))
    (w : Waiter) (hturns : turns = before ++ [(w, .refused)]) :
    Lanes.Returns f w before.length q.lanes (q.lanes.left f turns) := by
  subst hturns
  rw [List.dropLast_concat] at hrefused
  obtain ⟨others, horder⟩ := hinOrder
  have hnext : q.lanes.order.drop before.length = w :: others := by
    rw [← horder, List.map_append, List.append_assoc]
    exact List.drop_left' (List.length_map _)
  rw [Lanes.left_concat hrefused]
  exact Lanes.putBack_returns h.regular h.nodup hnext

/-- A pass makes its turns, and beyond that it may set the timer. -/
theorem dispatch_eq (d : Delegate κ σ) (q : Queue κ) (s : σ) :
    ∃ (armed : Bool) (timers : List Alarm), (d.dispatch q s).1 =
      { q.served (d.settings s).fairness (d.serve q.isDeserted q.lanes.order s).1 with
        rounds := q.rounds + 1, armed := armed, timers := timers } := by
  simp only [Delegate.dispatch]
  split
  · exact ⟨_, _, arm_eq ..⟩
  · exact ⟨q.armed, q.timers, rfl⟩

/-- The loop of a pass comes to nothing but the turns. Its bound is out of reach, as it is larger
than the number of calls. -/
theorem InLine.pass_eq_dispatch (h : q.InLine) (hopen : q.closed = false) (d : Delegate κ σ)
    (s : σ) : pass d.behind q s = d.dispatch q s := by
  have hloop := offerAll_behind d (d.settings s).fairness
    (q.lanes.count + d.behind.callbacks s + 1) { q with rounds := q.rounds + 1 } s hopen
    h.regular.occupied (show q.lanes.count < _ by omega)
  rw [pass_eq d.behind hloop]
  rfl

theorem InLine.dispatches (h : q.InLine) (d : Delegate κ σ) (s : σ) :
    q.Dispatches (d.settings s).fairness (d.serve q.isDeserted q.lanes.order s).1
      (d.dispatch q s).1 := by
  have hinOrder := d.serve_inOrder q.isDeserted q.lanes.order s
  have hoffered := d.serve_isOffer q.isDeserted q.lanes.order s
  have hrefused := d.serve_refused q.isDeserted q.lanes.order s
  have hstops := d.serve_stops q.isDeserted q.lanes.order s
  have hreturned := h.returned (f := (d.settings s).fairness) hinOrder hrefused
  obtain ⟨armed, timers, hqueue⟩ := dispatch_eq d q s
  rw [hqueue]
  -- From here on it does not matter which turns these are.
  generalize (d.settings s).fairness = f at *
  generalize (d.serve q.isDeserted q.lanes.order s).1 = turns at *
  have hperm := Lanes.order_perm h.regular.occupied
  have hlength : turns.length ≤ q.lanes.count := by
    have hle := hinOrder.length_le
    rw [List.length_map, hperm.length_eq] at hle
    exact hle
  have hids : (turns.map fun t => t.1.id).Nodup := by
    have hall : (q.lanes.order.map Waiter.id).Nodup := (hperm.map _).nodup_iff.mpr h.nodup
    have hsub := hall.sublist (hinOrder.sublist.map Waiter.id)
    rwa [List.map_map] at hsub
  exact
    { order_perm := hperm
      inOrder := hinOrder
      offered := hoffered
      refused := hrefused
      stops := hstops
      offers_le := by
        rw [h.len_eq]
        exact Nat.le_trans List.countP_le_length hlength
      cleared := h.cleared hstops
      returned := hreturned
      kept := fun htidy before w hturns =>
        (hreturned before w hturns).kept_iff.mpr (htidy.atHome w)
      handed := fun w call htaken => Turn.get?_foldl_fill hids htaken q.slots
      others := fun id hnone => Turn.get?_foldl_fill_of_ne hnone q.slots
      inFlight_eq := rfl
      inLine := h.left rfl rfl }

/-- In front of a delegate that never calls back, a queue that is neither closed nor let go is in
line whatever has happened to it. A pass through an open queue that is in line is the pass as told
by its turns along the order of service, under the fairness in force when it begins. -/
theorem pass_dispatches (d : Delegate κ σ) :
    (∀ (timed : Bool) (s : σ) (acts : List (Act κ σ)),
      let q := (run d.behind acts (new timed, s)).1
      q.closed = false → q.alive = true → q.InLine) ∧
    ∀ (q : Queue κ) (s : σ), q.closed = false → q.InLine →
      pass d.behind q s = d.dispatch q s ∧
        q.Dispatches (d.settings s).fairness (d.serve q.isDeserted q.lanes.order s).1
          (pass d.behind q s).1 := by
  refine ⟨fun timed s acts => run_inLine d timed s acts, fun q s hopen hq => ?_⟩
  have hpass : pass d.behind q s = d.dispatch q s := hq.pass_eq_dispatch hopen d s
  refine ⟨hpass, ?_⟩
  rw [hpass]
  exact hq.dispatches d s

/-! ### Calls that were queued under another fairness -/

/-- Two calls of an endpoint join in the order of arrival, and after the settings have changed, one
of another endpoint. The gate takes none of them. -/
def crowd : Queue Unit :=
  (run Session.gate.behind
    [.submit (Session.catalog "list") (.blank 0), .submit (Session.catalog "list") (.blank 4),
      .change fun s => { s with fairness := .roundRobin },
      .submit (Session.catalog "get") (.blank 8)] (new true, ⟨0, .fifo⟩)).1

/-- If there is room for one of them, the one that came last is refused next and keeps its place. If
there is room for two, it is the one that came second, and it goes to a lane of its endpoint. -/
theorem pass_dispatches_crowd :
    crowd.closed = false ∧ crowd.alive = true ∧ crowd.InLine ∧
      let list := Session.catalog "list"
      let get := Session.catalog "get"
      let turns (permits : Nat) :=
        (Session.gate.serve crowd.isDeserted crowd.lanes.order ⟨permits, .roundRobin⟩).1
      let after (permits : Nat) := (pass Session.gate.behind crowd ⟨permits, .roundRobin⟩).1
      crowd.lanes.keys = [some list, some get, none] ∧
      crowd.Dispatches .roundRobin (turns 1) (after 1) ∧
        (turns 1).map (fun t => (t.1.id, t.2.isTaken)) = [(0, true), (2, false)] ∧
        (crowd.lanes.after 1).keys = [some get, none] ∧ (after 1).lanes.keys = [some get, none] ∧
      crowd.Dispatches .roundRobin (turns 2) (after 2) ∧
        (turns 2).map (fun t => (t.1.id, t.2.isTaken)) = [(0, true), (2, true), (1, false)] ∧
        (crowd.lanes.after 2).keys = [none] ∧ (after 2).lanes.keys = [some list] := by
  have hopen : crowd.closed = false := by decide +kernel
  have halive : crowd.alive = true := by decide +kernel
  obtain ⟨hreached, hpasses⟩ := pass_dispatches Session.gate
  have hline : crowd.InLine := hreached true ⟨0, .fifo⟩ _ hopen halive
  exact ⟨hopen, halive, hline, by decide +kernel,
    (hpasses crowd ⟨1, .roundRobin⟩ hopen hline).2, by decide +kernel, by decide +kernel,
    by decide +kernel,
    (hpasses crowd ⟨2, .roundRobin⟩ hopen hline).2, by decide +kernel, by decide +kernel,
    by decide +kernel⟩

/-- Two calls of an endpoint have joined in the order of arrival, and after the settings have
changed, a third one of the same endpoint. The pass that this asks for is still to come. -/
def mixed : Queue Unit :=
  let list : Endpoint := Session.catalog "list"
  (((new true).joined .fifo list (.blank 0)).joined .fifo list (.blank 4)).joined .roundRobin list
    (.blank 8)

/-- The first of them is refused, and then it stands before the third one, in the lane of their
endpoint. Before the offer it was the third one that came second. -/
theorem refused_changes_lanes :
    let turns := (Session.gate.serve mixed.isDeserted mixed.lanes.order ⟨0, .roundRobin⟩).1
    let after := (pass Session.gate.behind mixed ⟨0, .roundRobin⟩).1
    let places (q : Queue Unit) := q.lanes.map fun l => (l.key, l.waiters.map Waiter.id)
    mixed.closed = false ∧ mixed.InLine ∧
      turns.map (fun t => (t.1.id, t.2.isRefused)) = [(0, true)] ∧
      places mixed = [(none, [0, 1]), (some (Session.catalog "list"), [2])] ∧
      places after = [(some (Session.catalog "list"), [0, 2]), (none, [1])] ∧
      mixed.lanes.order.map Waiter.id = [0, 2, 1] ∧ after.lanes.order.map Waiter.id = [0, 1, 2] ∧
      after.lanes ≠ mixed.lanes := by
  intro turns after places
  have hregular : mixed.lanes.Regular :=
    ((Lanes.Regular.nil.push .fifo _).push .fifo _).push .roundRobin _
  have hafter : after.lanes.order.map Waiter.id = [0, 1, 2] := by decide +kernel
  have hbefore : mixed.lanes.order.map Waiter.id = [0, 2, 1] := by decide +kernel
  refine ⟨rfl, ⟨hregular, by decide +kernel, by decide +kernel⟩, by decide +kernel,
    by decide +kernel, by decide +kernel, hbefore, hafter, fun heq => ?_⟩
  rw [heq, hbefore] at hafter
  cases hafter

end Queue

end RpcPipeline
