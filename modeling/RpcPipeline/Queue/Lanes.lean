import RpcPipeline.Call.Endpoint
import RpcPipeline.Call.Request
import RpcPipeline.Config.Sections

/-!
# `RpcPipeline.Queue.Lanes`: the order in which calls wait

Waiting calls stand in lanes. In order of arrival there is one lane; otherwise
there is one for each endpoint, and the lanes take turns: the call at the head
of the front lane is next, and once it is taken its lane goes to the back. No
lane is ever empty.

* `Lanes.push`: a call joins the end of its lane.
* `Lanes.pop`: takes the next call.
* `Lanes.restore`: undoes a `pop`.
* `Lanes.remove`: a call leaves before its turn.
* `WaitingRoom`: lanes with a counter, and these operations on both.
-/

set_option autoImplicit false

namespace RpcPipeline

/-- A call that waits. -/
structure Waiter where
  id : Nat
  endpoint : Endpoint
  request : Request
  deriving Repr

/-- The calls with the same key, in order. -/
structure Lane where
  key : Option Endpoint
  waiters : List Waiter
  deriving Repr

/-- The lanes, in the order of their turns. -/
abbrev Lanes := List Lane

/-- The key of the lane that a call belongs to. -/
def Fairness.key (f : Fairness) (w : Waiter) : Option Endpoint :=
  match f with
  | .fifo => none
  | .roundRobin => some w.endpoint

namespace Lanes

/-- All waiting calls, lane by lane. -/
def waiters (ls : Lanes) : List Waiter := ls.flatMap Lane.waiters

/-- The number of waiting calls. -/
def count (ls : Lanes) : Nat := ls.waiters.length

/-- Adds a call to the end of the lane of a key, which is a new one at the back if
there is none yet. -/
def join (key : Option Endpoint) (w : Waiter) : Lanes → Lanes
  | [] => [⟨key, [w]⟩]
  | l :: ls =>
    if l.key = key then { l with waiters := l.waiters ++ [w] } :: ls else l :: join key w ls

/-- A call joins the end of its lane. -/
def push (fairness : Fairness) (w : Waiter) (ls : Lanes) : Lanes := ls.join (fairness.key w) w

/-- Takes the call at the head of the front lane, and sends that lane to the back
if calls are left in it. -/
def pop : Lanes → Option (Waiter × Lanes)
  | [] => none
  | ⟨_, []⟩ :: _ => none
  | ⟨_, [w]⟩ :: ls => some (w, ls)
  | ⟨key, w :: rest⟩ :: ls => some (w, ls ++ [⟨key, rest⟩])

/-- The calls of a key. -/
def waitersOf (key : Option Endpoint) (ls : Lanes) : List Waiter :=
  match ls.find? (·.key = key) with
  | some l => l.waiters
  | none => []

/-- Puts a call that was just taken back to the head of its lane, and that lane
to the front. -/
def restore (fairness : Fairness) (w : Waiter) (ls : Lanes) : Lanes :=
  let key := fairness.key w
  ⟨key, w :: ls.waitersOf key⟩ :: ls.eraseP (·.key = key)

/-- A call leaves. A lane without calls goes with it. -/
def remove (id : Nat) (ls : Lanes) : Lanes :=
  (ls.map fun l => { l with waiters := l.waiters.filter (·.id ≠ id) }).filter
    fun l => !l.waiters.isEmpty

/-- Whether a call waits. -/
def has (id : Nat) (ls : Lanes) : Bool := ls.waiters.any (·.id = id)

end Lanes

/-- Lanes, and how many calls wait. -/
structure WaitingRoom where
  lanes : Lanes
  /-- The number of waiting calls. A call that was taken counts until that is settled or it
  is put back. -/
  len : Nat
  deriving Repr

namespace WaitingRoom

/-- Nothing waits. -/
def empty : WaitingRoom := ⟨[], 0⟩

/-- A call joins. -/
def push (fairness : Fairness) (w : Waiter) (r : WaitingRoom) : WaitingRoom :=
  { lanes := r.lanes.push fairness w, len := r.len + 1 }

/-- Takes the next call, which still counts. -/
def pop (r : WaitingRoom) : Option (Waiter × WaitingRoom) :=
  r.lanes.pop.map fun (w, lanes) => (w, { r with lanes := lanes })

/-- Stops counting a call that was taken. -/
def settle (r : WaitingRoom) : WaitingRoom := { r with len := r.len - 1 }

/-- Puts a call back that was taken. -/
def restore (fairness : Fairness) (w : Waiter) (r : WaitingRoom) : WaitingRoom :=
  { r with lanes := r.lanes.restore fairness w }

/-- A call leaves, if it waits. -/
def remove? (id : Nat) (r : WaitingRoom) : Option WaitingRoom :=
  if r.lanes.has id then some { lanes := r.lanes.remove id, len := r.len - 1 } else none

/-- All waiting calls leave. -/
def drain (r : WaitingRoom) : List Waiter × WaitingRoom := (r.lanes.waiters, empty)

end WaitingRoom

end RpcPipeline
