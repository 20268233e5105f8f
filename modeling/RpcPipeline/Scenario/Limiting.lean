import RpcPipeline.Hosts.Limited
import RpcPipeline.Scenario.Desk

/-!
# `RpcPipeline.Scenario.Limiting`: one limiter with its host

A limiter is put to work on its own: slots are claimed and given back under
names, and calls are sent to its host.
-/

set_option autoImplicit false

namespace RpcPipeline

/-- A limiter, the names under which slots are claimed, and what lies outside. -/
structure LimiterBench (α : Type) where
  limiter : Limiter α
  permits : Table String Unit
  outside : Outside α

namespace LimiterBench

variable {α : Type} [Scalar α]

/-- The name of the host. -/
def host : String := "h"

/-- A bench with a limiter of given settings. -/
def new (config : LimitConfig α) : LimiterBench α :=
  ⟨.new host config 0, {}, Outside.start.onNetwork (·.meet host)⟩

/-- Replaces the settings. -/
def configure (b : LimiterBench α) (config : LimitConfig α) : LimiterBench α :=
  let (limiter, events) := b.limiter.configure config
  { b with limiter := limiter, outside := b.outside.emit events }

omit [Scalar α] in
/-- Gives a slot back. -/
def giveBack (b : LimiterBench α) : LimiterBench α :=
  let (limiter, outside) := b.limiter.giveBack b.outside
  { b with limiter := limiter, outside := outside }

/-- Claims a slot under a name. A slot claimed under that name before is given
back. -/
def acquire (b : LimiterBench α) (id : String) : Bool × LimiterBench α :=
  match b.limiter.claim b.outside with
  | (false, limiter, outside) => (false, { b with limiter := limiter, outside := outside })
  | (true, limiter, outside) =>
    let held := b.permits.contains id
    let b := { b with limiter := limiter, outside := outside, permits := b.permits.insert id () }
    (true, if held then b.giveBack else b)

omit [Scalar α] in
/-- Gives back the slot claimed under a name, and says whether there was one. -/
def release (b : LimiterBench α) (id : String) : Bool × LimiterBench α :=
  if b.permits.contains id then (true, { b with permits := b.permits.erase id }.giveBack)
  else (false, b)

/-- Sends a call to the host if there is a slot for it. -/
def call (b : LimiterBench α) (endpoint : String) : Option LimitedCall × LimiterBench α :=
  let (c, limiter, outside) := b.limiter.offer host endpoint b.outside
  (c, { b with limiter := limiter, outside := outside })

/-- The bench as what calls go to. -/
def machine : Machine α LimitedCall (LimiterBench α) where
  poll c d :=
    let (result, c, limiter, outside) := d.state.limiter.poll c d.state.outside
    (result, c, d.onState fun b => { b with limiter := limiter, outside := outside })
  drop c d :=
    let (limiter, outside) := d.state.limiter.drop c d.state.outside
    d.onState fun b => { b with limiter := limiter, outside := outside }
  outside b := b.outside
  onOutside f b := { b with outside := f b.outside }
  clock _ := .manual

end LimiterBench

end RpcPipeline
