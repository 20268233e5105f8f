import RpcPipeline.Hosts.Id
import RpcPipeline.Random.Stream
import RpcPipeline.Table

/-!
# `RpcPipeline.Selection.Ranking`: the host with the lowest score

A host's score is the number of calls it is busy with, plus a penalty for recent
trouble, plus a random number below one. Penalties add up and decay: after the
half-life, half of one is left. Hosts are tried in ascending order of their
scores; hosts with equal scores keep their order.

Penalties are kept for the hosts in use and for no other host, so that a call
that outlives its host leaves nothing behind.

* `Ranking.track`: follows the hosts in use.
* `Ranking.rank`: the order in which hosts are tried.
* `Ranking.penalize`: adds to a penalty.
-/

set_option autoImplicit false

namespace RpcPipeline

/-- A penalty and when it had that value. -/
structure Penalty (α : Type) where
  value : α
  since : Instant
  deriving Repr

/-- What is left of a penalty. -/
def Penalty.decayed {α : Type} [Scalar α] (p : Penalty α) (now : Instant) (halfLife : Nanos) : α :=
  Scalar.decay p.value (now - p.since) halfLife

/-- What balanced selection remembers. -/
structure Ranking (α : Type) where
  penalties : Table HostId (Penalty α)
  /-- The version of the hosts that penalties are kept for. -/
  seenVersion : Option Nat
  random : RandomStream

namespace Ranking

variable {α : Type}

/-- Remembers nothing yet. -/
def new (random : RandomStream) : Ranking α := ⟨{}, none, random⟩

variable [Scalar α]

/-- Keeps penalties for exactly the hosts in use, once for each version of them. A
new host starts without penalty. -/
def track (b : Ranking α) (now : Instant) (version : Nat) (ids : List HostId) : Ranking α :=
  if b.seenVersion = some version then b
  else
    let kept := b.penalties.filter fun id _ => ids.contains id
    let add (t : Table HostId (Penalty α)) (id : HostId) : Table HostId (Penalty α) :=
      if t.contains id then t else t.insert id ⟨0, now⟩
    { b with penalties := ids.foldl add kept, seenVersion := some version }

/-- The penalty of a host. -/
def penalty (b : Ranking α) (now : Instant) (halfLife : Nanos) (id : HostId) : α :=
  match b.penalties.get? id with
  | some p => p.decayed now halfLife
  | none => 0

/-- The score of a host that is busy with `load` calls. -/
def score (b : Ranking α) (now : Instant) (halfLife : Nanos) (id : HostId) (load : Nat)
    (jitter : α) : α :=
  Scalar.ofNat load + b.penalty now halfLife id + jitter

/-- One random number for each entry of a list, in order. -/
def jitters {β : Type} (random : RandomStream) : List β → List (α × β) × RandomStream
  | [] => ([], random)
  | x :: xs =>
    let (jitter, random) : α × RandomStream := random.unit53
    let (rest, random) := jitters random xs
    ((jitter, x) :: rest, random)

/-- Hosts in the order in which they are tried. -/
def rank {β : Type} (b : Ranking α) (now : Instant) (halfLife : Nanos) (id : β → HostId)
    (load : β → Nat) (hosts : List β) : List β × Ranking α :=
  -- The numbers are drawn in the order of the hosts, before any score is compared.
  let (drawn, random) := jitters b.random hosts
  let scored := drawn.map fun (jitter, h) => (b.score now halfLife (id h) (load h) jitter, h)
  let sorted := scored.mergeSort fun (x y : α × β) => Scalar.ranksBefore x.1 y.1
  (sorted.map (·.2), { b with random := random })

/-- Adds to the penalty of a host, if penalties are kept for it. -/
def penalize (b : Ranking α) (now : Instant) (halfLife : Nanos) (id : HostId) (added : α) :
    Ranking α :=
  { b with
    penalties := b.penalties.modify id fun p => ⟨p.decayed now halfLife + added, now⟩ }

end Ranking

end RpcPipeline
