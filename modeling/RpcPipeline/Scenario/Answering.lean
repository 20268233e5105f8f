import RpcPipeline.Transport.Outside

/-!
# `RpcPipeline.Scenario.Answering`: one host by itself

A scripted host is called directly. A call is polled once, and is dropped if it
has not ended by then. Responses may be kept, and are closed in the reverse
order.
-/

set_option autoImplicit false

namespace RpcPipeline

/-- A host, and the responses that were kept, the latest first. -/
structure HostBench (α : Type) where
  name : String
  kept : List (Response CloseHook)
  outside : Outside α

namespace HostBench

variable {α : Type}

/-- A bench with a host. -/
def new (name : String) : HostBench α := ⟨name, [], .start⟩

/-- The host. -/
def host (b : HostBench α) : ScriptedHost := b.outside.network.host b.name

/-- Adds an outcome to the script. -/
def push (b : HostBench α) (outcome : Scripted) : HostBench α :=
  { b with outside := b.outside.onNetwork (·.addScript b.name [outcome]) }

/-- Calls the host and polls the call once: its result, if it has ended. -/
def call (b : HostBench α) (endpoint : String) (keeping : Bool) :
    Option HostResult × HostBench α :=
  let (c, o) := b.outside.dial b.name endpoint
  match o.poll c with
  | (none, c) => (none, { b with outside := o.drop c })
  | (some (.ok r), _) =>
    (some (.ok r),
      if keeping then { b with outside := o, kept := r :: b.kept }
      else { b with outside := o.close r })
  | (some (.error e), _) => (some (.error e), { b with outside := o })

/-- Calls the host and drops the call at once. -/
def callAndDrop (b : HostBench α) (endpoint : String) : HostBench α :=
  let (c, o) := b.outside.dial b.name endpoint
  { b with outside := o.drop c }

/-- Closes the response kept last, and says whether there was one. -/
def close (b : HostBench α) : Bool × HostBench α :=
  match b.kept with
  | r :: rest => (true, { b with outside := b.outside.close r, kept := rest })
  | [] => (false, b)

end HostBench

end RpcPipeline
