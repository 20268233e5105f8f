import RpcPipeline.Table
import RpcPipeline.Time.Manual
import RpcPipeline.Transport.Outside

/-!
# `RpcPipeline.Scenario.Desk`: calls that are polled by hand

A desk holds the calls that somebody has made and not finished, under names, and
the responses that were kept, next to the state of whatever the calls go to.
Calls proceed only when the desk polls them, one at a time. Time passes only at
the desk, too, and what happens in the background happens whenever the desk has
done something.

What the calls go to is a `Machine`. It gets the whole desk, since it may make
and drop calls itself.

* `Desk.put`, `Desk.poll`, `Desk.drop`: one call.
* `Desk.pollAll`, `Desk.run`: polling until something happens.
* `Desk.advance`: lets time pass.
-/

set_option autoImplicit false

namespace RpcPipeline

/-- Calls of type `γ`, kept responses, and a state of type `τ`. -/
structure Desk (γ τ : Type) where
  calls : Table String γ
  kept : Table String (Response CloseHook)
  state : τ

/-- How time passes. -/
inductive ClockKind where
  /-- By nanoseconds, and nothing waits for it. -/
  | manual
  /-- By whole milliseconds, and alarms go off. -/
  | timed
  deriving Repr, DecidableEq

/-- What the calls on a desk go to. -/
structure Machine (α γ τ : Type) where
  poll : γ → Desk γ τ → Option HostResult × γ × Desk γ τ
  /-- Drops a call before it has ended. -/
  drop : γ → Desk γ τ → Desk γ τ
  outside : τ → Outside α
  onOutside : (Outside α → Outside α) → τ → τ
  /-- What happens in the background at the present time. -/
  tend : Desk γ τ → Desk γ τ := fun d => d
  /-- The next time at which something happens in the background. -/
  nextAlarm : τ → Option Instant := fun _ => none
  clock : τ → ClockKind := fun _ => .timed

/-- What a poll shows. -/
inductive Polled where
  | pending
  | answered (status : Nat)
  | failed (error : CallError)
  /-- There is no such call. -/
  | missing
  deriving Repr, DecidableEq

namespace Desk

variable {α γ τ : Type}

/-- A desk without calls. -/
def new (state : τ) : Desk γ τ := ⟨{}, {}, state⟩

/-- Changes the state. -/
def onState (d : Desk γ τ) (f : τ → τ) : Desk γ τ := { d with state := f d.state }

/-- Changes what lies outside. -/
def onOutside (m : Machine α γ τ) (f : Outside α → Outside α) (d : Desk γ τ) : Desk γ τ :=
  d.onState (m.onOutside f)

/-- The time. -/
def now (m : Machine α γ τ) (d : Desk γ τ) : Instant := (m.outside d.state).now

/-- Puts a call on the desk. A call that had its name is dropped. -/
def put (m : Machine α γ τ) (id : String) (c : γ) (d : Desk γ τ) : Desk γ τ :=
  let older := d.calls.get? id
  let d := { d with calls := d.calls.insert id c }
  match older with
  | some c => m.drop c d
  | none => d

/-- Drops a call, and says whether there was one. -/
def drop (m : Machine α γ τ) (id : String) (d : Desk γ τ) : Bool × Desk γ τ :=
  match d.calls.get? id with
  | some c => (true, m.drop c { d with calls := d.calls.erase id })
  | none => (false, d)

/-- Closes a kept response, and says whether there was one. -/
def closeKept (m : Machine α γ τ) (id : String) (d : Desk γ τ) : Bool × Desk γ τ :=
  match d.kept.get? id with
  | some r => (true, { d with kept := d.kept.erase id }.onOutside m (·.close r))
  | none => (false, d)

/-- Keeps a response. One that was kept under the same name is closed. -/
def keep (m : Machine α γ τ) (id : String) (r : Response CloseHook) (d : Desk γ τ) :
    Desk γ τ :=
  let older := d.kept.get? id
  let d := { d with kept := d.kept.insert id r }
  match older with
  | some r => d.onOutside m (·.close r)
  | none => d

/-- Polls a call. One that has ended leaves the desk; its response is kept or
closed. -/
def poll (m : Machine α γ τ) (id : String) (keeping : Bool) (d : Desk γ τ) :
    Polled × Desk γ τ :=
  match d.calls.get? id with
  | none => (.missing, d)
  | some c =>
    match m.poll c { d with calls := d.calls.erase id } with
    -- The call may have been replaced under its name while it ran.
    | (none, c, d) => (.pending, d.put m id c)
    | (some (.ok r), _, d) =>
      (.answered r.status, if keeping then d.keep m id r else d.onOutside m (·.close r))
    | (some (.error e), _, d) => (.failed e, d)

/-- Polls calls in order. -/
def pollEach (m : Machine α γ τ) (keeping : Bool) :
    List String → Desk γ τ → List (String × Polled) × Desk γ τ
  | [], d => ([], d)
  | id :: ids, d =>
    let (polled, d) := d.poll m id keeping
    let (rest, d) := pollEach m keeping ids d
    ((id, polled) :: rest, d)

/-- Polls every call once, in ascending order of names. -/
def pollAll (m : Machine α γ τ) (keeping : Bool) (d : Desk γ τ) :
    List (String × Polled) × Desk γ τ :=
  pollEach m keeping d.calls.keys d

/-- Sets the time and lets happen what happens then. -/
def setTime (m : Machine α γ τ) (now : Instant) (d : Desk γ τ) : Desk γ τ :=
  m.tend (d.onOutside m fun o => { o with now := now })

/-- Lets time pass until an instant, from one alarm to the next, of which there
are no more than the first argument says. -/
def passUntil (m : Machine α γ τ) : Nat → Instant → Desk γ τ → Desk γ τ
  | 0, target, d => d.setTime m target
  | fuel + 1, target, d =>
    match m.nextAlarm d.state with
    | some rings =>
      if d.now m < rings && rings ≤ target then
        passUntil m fuel target (d.setTime m rings)
      else d.setTime m target
    | none => d.setTime m target

/-- Lets time pass: whole milliseconds, and with a manual clock also
nanoseconds. -/
def advance (m : Machine α γ τ) (ns ms : Nat) (d : Desk γ τ) : Desk γ τ :=
  match m.clock d.state with
  | .manual =>
    d.setTime m (ManualClock.advance (d.now m) (ns + Nanos.millis ms))
  | .timed => passUntil m ms (d.now m + Nanos.millis ms) d

/-- Polls a call every millisecond until it ends or the time is up: what the last
poll shows, and the milliseconds that have passed. -/
def runFor (m : Machine α γ τ) (id : String) (keeping : Bool) :
    Nat → Nat → Desk γ τ → (Polled × Nat) × Desk γ τ
  | 0, elapsed, d =>
    let (polled, d) := d.poll m id keeping
    ((polled, elapsed), d)
  | left + 1, elapsed, d =>
    match d.poll m id keeping with
    | (.pending, d) => runFor m id keeping left (elapsed + 1) ((m.tend d).advance m 0 1)
    | (polled, d) => ((polled, elapsed), d)

/-- Polls a call every millisecond until it ends, for some milliseconds at
most. -/
def run (m : Machine α γ τ) (id : String) (keeping : Bool) (most : Nat) (d : Desk γ τ) :
    (Polled × Nat) × Desk γ τ :=
  runFor m id keeping most 0 d

end Desk

end RpcPipeline
