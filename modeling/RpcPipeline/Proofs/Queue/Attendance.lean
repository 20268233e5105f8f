import RpcPipeline.Proofs.Queue.Regular

/-!
# `RpcPipeline.Proofs.Queue.Attendance`: every call is in one place

`Attendance` keeps, beside a waiting room, which calls have joined it and what became of them.
At most one call is out: it was taken, and what becomes of it is open. Before the next one is
taken or all calls leave, it has to be settled or put back; meanwhile calls may join and leave.
Each operation that puts a call into a lane comes with a fairness of its own.

`Attendance.Accurate` says what is true then. The lanes are regular, the counter has the calls in
the lanes and the one that is out, and each call that has joined is in one place: in a lane, out,
settled, removed or drained (`places`). An operation moves one call from one place to another,
or all calls out of the lanes, so what has to be shown for it is a permutation of places.

* `Accurate.push`, `Accurate.pop`, `Accurate.settle`, `Accurate.restore`, `Accurate.remove`,
  `Accurate.drain`: one operation of each kind.
* `perform_accurate`, `run_accurate`: any operation, and any sequence of them.
-/

set_option autoImplicit false

open scoped List

namespace RpcPipeline

/-- A waiting room, and what became of the calls that joined it. -/
structure Attendance where
  room : WaitingRoom
  /-- The call that is out. -/
  out : Option Waiter
  joined : List Waiter
  settled : List Waiter
  /-- The identities of the calls that left before their turn. -/
  removed : List Nat
  drained : List Waiter

namespace Attendance

/-- An operation on a waiting room. -/
inductive Operation where
  | push (fairness : Fairness) (w : Waiter)
  | pop
  | settle
  | restore (fairness : Fairness)
  | remove (id : Nat)
  | drain

/-- Nothing has happened. -/
def empty : Attendance := ⟨.empty, none, [], [], [], []⟩

/-- What an operation does. Nothing happens if it is not its time: if a call of the same identity
has joined before, if a call should be taken or all should leave while one is out, or if the one
that is out should be settled or put back while there is none. Nor does anything if a call should
be taken or leave that does not wait. -/
def perform (a : Attendance) : Operation → Attendance
  | .push fairness w =>
    if w.id ∈ a.joined.map (·.id) then a
    else { a with room := a.room.push fairness w, joined := w :: a.joined }
  | .pop =>
    match a.out, a.room.pop with
    | none, some (w, room) => { a with room := room, out := some w }
    | _, _ => a
  | .settle =>
    match a.out with
    | some w => { a with room := a.room.settle, out := none, settled := w :: a.settled }
    | none => a
  | .restore fairness =>
    match a.out with
    | some w => { a with room := a.room.restore fairness w, out := none }
    | none => a
  | .remove id =>
    match a.room.remove? id with
    | some room => { a with room := room, removed := id :: a.removed }
    | none => a
  | .drain =>
    match a.out with
    | some _ => a
    | none =>
      { a with room := a.room.drain.2, drained := a.room.drain.1 ++ a.drained }

/-- Operations one after the other, from an empty waiting room. -/
def run (ops : List Operation) : Attendance := ops.foldl perform empty

/-- The calls that wait, and the one that is out. -/
def present (a : Attendance) : List Waiter := a.room.lanes.waiters ++ a.out.toList

/-- Where the calls are that have joined. -/
def places (a : Attendance) : List Nat :=
  a.present.map (·.id) ++ a.settled.map (·.id) ++ a.removed ++ a.drained.map (·.id)

/-- The calls of which more than the identity is kept. -/
def kept (a : Attendance) : List Waiter := a.present ++ a.settled ++ a.drained

/-- The lanes are regular, and every call is counted and in one place. -/
structure Accurate (a : Attendance) : Prop where
  regular : a.room.lanes.Regular
  /-- The call that is out counts. -/
  len_eq : a.room.len = a.room.lanes.count + a.out.toList.length
  distinct : (a.joined.map (·.id)).Nodup
  perm : a.joined.map (·.id) ~ a.places
  /-- The calls are as they were when they joined. -/
  same : ∀ w ∈ a.kept, w ∈ a.joined

namespace Accurate

variable {a : Attendance} {w : Waiter} {room : WaitingRoom}

theorem start : empty.Accurate := ⟨.nil, rfl, List.nodup_nil, .refl _, nofun⟩

theorem nodup_ids (h : a.Accurate) : a.room.lanes.ids.Nodup := by
  have hplaces := h.perm.nodup_iff.mp h.distinct
  simp only [places, present, List.map_append, List.append_assoc] at hplaces
  exact hplaces.of_append_left

/-- Calls can change places as long as none gets lost. -/
theorem of_perm {a' : Attendance} (h : a.Accurate) (hregular : a'.room.lanes.Regular)
    (hlen : a'.room.len = a'.room.lanes.count + a'.out.toList.length)
    (hjoined : a'.joined = a.joined) (hplaces : a.places ~ a'.places)
    (hkept : a'.kept ⊆ a.kept) : a'.Accurate where
  regular := hregular
  len_eq := hlen
  distinct := hjoined ▸ h.distinct
  perm := hjoined ▸ h.perm.trans hplaces
  same := fun w hw => hjoined ▸ h.same w (hkept hw)

/-- It does not matter which of the calls is out. -/
theorem of_present {out : Option Waiter} (h : a.Accurate) (hregular : room.lanes.Regular)
    (hlen : room.len = a.room.len)
    (hpresent : a.present ~ room.lanes.waiters ++ out.toList) :
    Accurate { a with room := room, out := out } := by
  refine h.of_perm hregular ?_ rfl ?_ ?_
  · have hlength := hpresent.length_eq
    rw [present, List.length_append, List.length_append] at hlength
    have hcounted := h.len_eq
    simp only [Lanes.count] at hcounted ⊢
    omega
  · exact (((hpresent.map _).append_right _).append_right _).append_right _
  · exact ((hpresent.append_right _).append_right _).symm.subset

theorem push (h : a.Accurate) (f : Fairness) (hnew : w.id ∉ a.joined.map (·.id)) :
    Accurate { a with room := a.room.push f w, joined := w :: a.joined } := by
  have hwaiters := Lanes.waiters_push f w a.room.lanes
  have hpresent : (a.room.lanes.push f w).waiters ++ a.out.toList ~ w :: a.present :=
    hwaiters.append_right _
  refine ⟨h.regular.push f w, ?_, List.nodup_cons.mpr ⟨hnew, h.distinct⟩, ?_, fun v hv => ?_⟩
  · have hcounted := h.len_eq
    have hlength := hwaiters.length_eq
    simp only [WaitingRoom.push, Lanes.count, List.length_cons] at hcounted hlength ⊢
    omega
  · have hplaces : places { a with room := a.room.push f w, joined := w :: a.joined } ~
        w.id :: a.places :=
      (((hpresent.map _).append_right _).append_right _).append_right _
    exact (h.perm.cons w.id).trans hplaces.symm
  · have hkept := ((hpresent.append_right _).append_right _).subset hv
    rcases List.mem_cons.mp hkept with rfl | hv
    · exact List.mem_cons_self
    · exact List.mem_cons_of_mem w (h.same v hv)

theorem pop (h : a.Accurate) (hout : a.out = none) (hpop : a.room.pop = some (w, room)) :
    Accurate { a with room := room, out := some w } := by
  obtain ⟨hlanes, hlen⟩ := WaitingRoom.pop_eq_some.mp hpop
  refine h.of_present (h.regular.of_pop hlanes) hlen ?_
  rw [present, hout, Option.toList_none, List.append_nil, Option.toList_some]
  exact (Lanes.waiters_of_pop hlanes).trans (List.perm_append_singleton w _).symm

theorem restore (h : a.Accurate) (hout : a.out = some w) (f : Fairness) :
    Accurate { a with room := a.room.restore f w, out := none } := by
  refine h.of_present (h.regular.restore f w) rfl ?_
  rw [present, hout, Option.toList_none, List.append_nil, Option.toList_some]
  exact (List.perm_append_singleton w _).trans (Lanes.waiters_restore f w _).symm

theorem settle (h : a.Accurate) (hout : a.out = some w) :
    Accurate { a with room := a.room.settle, out := none, settled := w :: a.settled } := by
  refine h.of_perm h.regular ?_ rfl ?_ ?_
  · have hcounted := h.len_eq
    rw [hout] at hcounted
    simp only [WaitingRoom.settle, hcounted, Option.toList_some, Option.toList_none,
      List.length_singleton, List.length_nil, Nat.add_sub_cancel, Nat.add_zero]
  · simp [places, present, WaitingRoom.settle, hout]
  · simp [kept, present, WaitingRoom.settle, hout]

theorem remove (h : a.Accurate) {id : Nat} (hremove : a.room.remove? id = some room) :
    Accurate { a with room := room, removed := id :: a.removed } := by
  obtain ⟨hid, hlanes, hlen⟩ := WaitingRoom.remove?_eq_some.mp hremove
  refine h.of_perm (hlanes ▸ h.regular.remove id) ?_ rfl ?_ ?_
  · have hcounted := h.len_eq
    have hcount := Lanes.count_remove h.nodup_ids hid
    rw [← hlanes] at hcount
    show room.len = room.lanes.count + a.out.toList.length
    omega
  · have hids := Lanes.ids_remove_perm h.nodup_ids hid
    rw [← hlanes] at hids
    have hpresent : a.present.map (·.id) ~
        id :: (room.lanes.waiters ++ a.out.toList).map (·.id) := by
      rw [present, List.map_append, List.map_append]
      exact hids.append_right _
    -- It goes from the front of the places to those that were removed before.
    refine (((hpresent.append_right _).append_right _).append_right _).trans ?_
    exact List.perm_middle.symm.append_right _
  · have hsub : room.lanes.waiters <+ a.room.lanes.waiters := by
      rw [hlanes, Lanes.waiters_remove]
      exact List.filter_sublist
    exact (((hsub.append_right _).append_right _).append_right _).subset

theorem drain (h : a.Accurate) (hout : a.out = none) :
    Accurate { a with room := a.room.drain.2, drained := a.room.drain.1 ++ a.drained } := by
  refine h.of_perm .nil ?_ rfl ?_ ?_
  · rw [hout]
    rfl
  · simp only [places, present, hout, WaitingRoom.drain, WaitingRoom.empty, Lanes.waiters_nil,
      Option.toList_none, List.append_nil, List.map_nil, List.nil_append, List.map_append,
      List.append_assoc]
    rw [← List.append_assoc (a.settled.map _), ← List.append_assoc (a.settled.map _)]
    exact List.perm_append_comm_assoc _ _ _
  · simp only [kept, present, hout, WaitingRoom.drain, WaitingRoom.empty, Lanes.waiters_nil,
      Option.toList_none, List.append_nil, List.nil_append, List.append_assoc]
    exact (List.perm_append_comm_assoc _ _ _).symm.subset

end Accurate

/-- No operation loses or forgets a call. -/
theorem perform_accurate {a : Attendance} (h : a.Accurate) (op : Operation) :
    (a.perform op).Accurate := by
  cases op with
  | push f w =>
    simp only [perform]
    split
    · exact h
    · next hnew => exact h.push f hnew
  | pop =>
    simp only [perform]
    split
    · next hout hpop => exact h.pop hout hpop
    · exact h
  | settle =>
    simp only [perform]
    split
    · next hout => exact h.settle hout
    · exact h
  | restore f =>
    simp only [perform]
    split
    · next hout => exact h.restore hout f
    · exact h
  | remove id =>
    simp only [perform]
    split
    · next hremove => exact h.remove hremove
    · exact h
  | drain =>
    simp only [perform]
    split
    · exact h
    · next hout => exact h.drain hout

theorem accurate_of_run (ops : List Operation) : (run ops).Accurate := by
  suffices hrun : ∀ a : Attendance, a.Accurate → (ops.foldl perform a).Accurate from
    hrun empty .start
  intro a h
  induction ops generalizing a with
  | nil => exact h
  | cons op ops ih => exact ih _ (perform_accurate h op)

/-- Whatever happens in a waiting room, and under whichever fairness at a time: no key has two
lanes, no lane is empty and none with a key holds a call of another endpoint, the counter is
right, and every call that has joined is in one place. So the first call found by its identity is
the only one that leaves. -/
theorem run_accurate (ops : List Operation) :
    (run ops).Accurate ∧
      ∀ id, (run ops).room.lanes.remove id = (run ops).room.lanes.removeFirst id := by
  have h := accurate_of_run ops
  exact ⟨h, Lanes.remove_eq_removeFirst h.regular.occupied h.nodup_ids⟩

-- A call that was put back under another fairness is ahead of the others of its endpoint, in a
-- lane of its own.
example :
    let list : Endpoint := ⟨"catalog", "list", "1.0", "GET", ⟨[]⟩⟩
    let call (id : Nat) : Waiter := ⟨id, list, .blank 0⟩
    (run [.push .roundRobin (call 0), .push .roundRobin (call 1), .pop, .push .fifo (call 2),
        .restore .fifo]).room =
      ⟨[⟨none, [call 0, call 2]⟩, ⟨some list, [call 1]⟩], 3⟩ :=
  rfl

end Attendance

end RpcPipeline
