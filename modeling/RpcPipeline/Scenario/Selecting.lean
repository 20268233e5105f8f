import RpcPipeline.Report.Run
import RpcPipeline.Scenario.Desk
import RpcPipeline.Selection.Selection

/-!
# `RpcPipeline.Scenario.Selecting`: selection over a fleet

Selection is put to work without a queue: a call is offered to the hosts, and is
lost if none takes it. What names were resolved to is set by hand.
-/

set_option autoImplicit false

namespace RpcPipeline

/-- Selection, and the hosts that the last report showed. -/
structure SelectionBench (α : Type) where
  selection : Selection α
  roster : Fleet.Roster
  /-- Whether time passes by whole milliseconds. -/
  timed : Bool

namespace SelectionBench

variable {α : Type}

/-- Selection over a new fleet. Without addresses names are left to the
transport. -/
def new (config : ClientConfig α) (addresses : Option DnsSnapshot)
    (blacklistSeed : UInt64) (timed : Bool) : SelectionBench α :=
  let fleet :=
    Fleet.new .start (.new config) (addresses.map .new)
      (.new config.blacklist (.ofSeed blacklistSeed))
  ⟨.new fleet (.ofSeed 0), {}, timed⟩

/-- Changes the fleet. -/
def onFleet (b : SelectionBench α) (f : Fleet α → Fleet α) : SelectionBench α :=
  { b with selection := b.selection.onFleet f }

/-- The settings. -/
def config (b : SelectionBench α) : ClientConfig α := b.selection.fleet.config.value

/-- Replaces the settings. -/
def update (b : SelectionBench α) (config : ClientConfig α) : SelectionBench α :=
  b.onFleet fun f => { f with config := f.config.update config }

/-- Replaces what names were resolved to, if names are resolved at all. -/
def resolve (b : SelectionBench α) (addresses : DnsSnapshot) : SelectionBench α :=
  b.onFleet fun f => { f with dns := f.dns.map (·.update addresses) }

/-- Ends every exclusion. -/
def clearBlacklist (b : SelectionBench α) : SelectionBench α :=
  b.onFleet fun f => { f with blacklist := f.blacklist.clear }

variable [Scalar α]

/-- Offers a call to the hosts. -/
def offer (b : SelectionBench α) (e : Endpoint) (r : Request) :
    Option (SelectedCall α) × SelectionBench α :=
  let (c, s) := b.selection.offer e r
  (c, { b with selection := s })

/-- Excludes a host: when that ends, or nothing if the host is not in use. -/
def exclude (b : SelectionBench α) (id : HostId) (reason : BlacklistReason) :
    Option Instant × SelectionBench α :=
  let (ends, fleet) := b.selection.fleet.exclude id reason
  (ends, b.onFleet fun _ => fleet)

/-- Brings the hosts in use up to date and reports them. -/
def report (b : SelectionBench α) : Value α × SelectionBench α :=
  let b := b.onFleet Fleet.refresh
  (b.selection.fleet.report b.roster, { b with roster := b.selection.fleet.roster })

/-- The report of the strategy in use. -/
def reportState (b : SelectionBench α) : Value α :=
  let s := b.selection
  .record
    [ ("strategy", .text s.strategy.name),
      ("pinned", .orNull (fun id => .text id.text) s.pinned),
      ("blacklisted", .natural (s.fleet.blacklist.count s.now)) ]

/-- Selection as what calls go to. -/
def machine : Machine α (SelectedCall α) (SelectionBench α) where
  poll c d :=
    let (result, c, s) := d.state.selection.poll c
    (result, c, d.onState fun b => { b with selection := s })
  drop c d := d.onState fun b => { b with selection := b.selection.drop c }
  outside b := b.selection.fleet.outside
  onOutside f b := b.onFleet fun fleet => { fleet with outside := f fleet.outside }
  clock b := if b.timed then .timed else .manual

end SelectionBench

end RpcPipeline
