import RpcPipeline.Call.Response
import RpcPipeline.Config.Sections
import RpcPipeline.Hosts.Id
import RpcPipeline.Metrics.Event
import RpcPipeline.Random.Stream
import RpcPipeline.Table

/-!
# `RpcPipeline.Hosts.Blacklist`: hosts that are left out for a while

A host that fails is excluded at once, and a host that answers with overloads
after as many in a row as the settings say. An exclusion lasts for a cooldown,
which a random share may lengthen, and ends by itself: nothing removes it but
the passage of time, which shows when it is looked up.

Once the hosts in use are known, nothing is kept about any other host.

* `Blacklist.entry?`: the exclusion of a host.
* `Blacklist.exclude`: excludes a host.
* `Blacklist.record`: learns from the outcome of a call.
* `Blacklist.retain`: sets the hosts in use.
-/

set_option autoImplicit false

namespace RpcPipeline

/-- Why a host is excluded. -/
inductive BlacklistReason where
  | hostFailure
  | overloaded
  deriving Repr, DecidableEq

/-- The name of a reason. -/
def BlacklistReason.label : BlacklistReason → String
  | hostFailure => "host_failure"
  | overloaded => "overloaded"

/-- The exclusion of a host: it is over from the instant `ends` on. -/
structure Exclusion where
  ends : Instant
  reason : BlacklistReason
  deriving Repr, DecidableEq

/-- The hosts that are excluded, and what may lead to it. -/
structure Blacklist (α : Type) where
  config : BlacklistConfig α
  exclusions : Table HostId Exclusion
  /-- Overloads in a row. -/
  overloads : Table HostId Nat
  /-- The hosts in use, once they are known. -/
  members : Option (List HostId)
  /-- Where the random shares of cooldowns come from. -/
  random : RandomStream

namespace Blacklist

variable {α : Type}

/-- A blacklist without hosts. -/
def new (config : BlacklistConfig α) (random : RandomStream) : Blacklist α :=
  { config := config, exclusions := {}, overloads := {}, members := none, random := random }

/-- The exclusion of a host, unless it is over. -/
def entry? (b : Blacklist α) (now : Instant) (id : HostId) : Option Exclusion :=
  (b.exclusions.get? id).filter fun e => now < e.ends

/-- Whether a host is excluded. -/
def excludes (b : Blacklist α) (now : Instant) (id : HostId) : Bool := (b.entry? now id).isSome

/-- The number of hosts that are excluded. -/
def count (b : Blacklist α) (now : Instant) : Nat :=
  (b.exclusions.filter fun _ e => now < e.ends).size

/-- The blacklist as debug texts show it. -/
def debugText (b : Blacklist α) (now : Instant) : String :=
  Text.record "Blacklist" [("active", toString (b.count now))]

/-- Whether a host is in use, as far as that is known. -/
def isMember (b : Blacklist α) (id : HostId) : Bool :=
  match b.members with
  | some ids => ids.contains id
  | none => true

/-- Replaces the settings. Exclusions stay as they are. -/
def configure (b : Blacklist α) (config : BlacklistConfig α) : Blacklist α :=
  { b with config := config }

/-- Sets the hosts in use, and forgets the others and what is over. -/
def retain (b : Blacklist α) (now : Instant) (ids : List HostId) : Blacklist α :=
  { b with
    members := some ids
    exclusions := b.exclusions.filter fun id e => ids.contains id && now < e.ends
    overloads := b.overloads.filter fun id _ => ids.contains id }

/-- Forgets every exclusion and every count. -/
def clear (b : Blacklist α) : Blacklist α := { b with exclusions := {}, overloads := {} }

variable [Scalar α]

/-- Draws the length of an exclusion: the cooldown, lengthened by a random share
up to the one in the settings. Without such a share nothing is drawn. -/
def drawCooldown (b : Blacklist α) : Nanos × Blacklist α :=
  if (0 : α) < b.config.cooldownJitter then
    let draw : α × RandomStream := b.random.unit52
    (Scalar.stretch b.config.cooldown ((1 : α) + (draw.1 * b.config.cooldownJitter + 0)),
      { b with random := draw.2 })
  else (Scalar.stretch b.config.cooldown ((1 : α) + 0), b)

/-- Excludes a host: when that ends, or nothing if the host is not in use. -/
def exclude (b : Blacklist α) (now : Instant) (id : HostId) (reason : BlacklistReason) :
    Option Instant × Blacklist α × List (Event α) :=
  -- The draw is made for every host, so that it does not depend on who is in use.
  let (cooldown, b) := b.drawCooldown
  if b.isMember id then
    let ends := now + cooldown
    (some ends, { b with exclusions := b.exclusions.insert id ⟨ends, reason⟩ },
      [.blacklisted id.text reason.label])
  else (none, b, [])

/-- Learns from the outcome of a call to a host in use. -/
def record (b : Blacklist α) (now : Instant) (id : HostId) (outcome : Outcome) :
    Blacklist α × List (Event α) :=
  if !b.isMember id then (b, [])
  else
    match outcome with
    | .success | .serverError => ({ b with overloads := b.overloads.erase id }, [])
    | .overloaded =>
      let count := (b.overloads.get? id).getD 0 + 1
      if b.config.overloadThreshold.toNat ≤ count then
        ({ b with overloads := b.overloads.insert id 0 }.exclude now id .overloaded).2
      else ({ b with overloads := b.overloads.insert id count }, [])
    | .hostFailure =>
      ({ b with overloads := b.overloads.erase id }.exclude now id .hostFailure).2
    | .ignored => (b, [])

end Blacklist

end RpcPipeline
