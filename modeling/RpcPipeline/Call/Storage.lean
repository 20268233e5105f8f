import RpcPipeline.Call.Request

/-!
# `RpcPipeline.Call.Storage`: values that are shared until they are changed

A storage keeps values under marks, each with the number of handles on it. A value may have
any number of handles. Before it is changed through one of several handles, that handle is
exchanged for the only one on a copy; through its only handle it is changed where it is. With
its last handle a value is gone.

* `Storage.put`, `Storage.share`, `Storage.release`: handles come and go.
* `Storage.own`, `Storage.set`: changing a value.
-/

set_option autoImplicit false

namespace RpcPipeline

/-- A value, and the number of handles on it. -/
structure Stored (τ : Type) where
  handles : Nat
  value : τ
  deriving Repr

/-- Values under marks. -/
structure Storage (τ : Type) where
  cells : Table Mark (Stored τ)
  /-- The mark of the next value. No mark is used twice. -/
  next : Mark
  deriving Repr

namespace Storage

variable {τ : Type}

/-- The storage without values. -/
def empty : Storage τ := ⟨{}, 0⟩

/-- The number of handles on a value. -/
def handles (s : Storage τ) (m : Mark) : Nat := ((s.cells.get? m).map Stored.handles).getD 0

/-- Stores a value of which nobody has a handle yet, and gives the first one out. -/
def put (s : Storage τ) (value : τ) : Mark × Storage τ :=
  (s.next, ⟨s.cells.insert s.next ⟨1, value⟩, s.next + 1⟩)

/-- Gives out one more handle on a value. -/
def share (s : Storage τ) (m : Mark) : Storage τ :=
  { s with cells := s.cells.modify m fun c => { c with handles := c.handles + 1 } }

/-- Takes a handle back. -/
def release (s : Storage τ) (m : Mark) : Storage τ :=
  if s.handles m ≤ 1 then { s with cells := s.cells.erase m }
  else { s with cells := s.cells.modify m fun c => { c with handles := c.handles - 1 } }

/-- Writes a value over another, for all handles. -/
def overwrite (s : Storage τ) (m : Mark) (value : τ) : Storage τ :=
  { s with cells := s.cells.modify m fun c => { c with value } }

variable [Inhabited τ]

/-- The value that a handle is on. -/
def read (s : Storage τ) (m : Mark) : τ := ((s.cells.get? m).map Stored.value).getD default

/-- Makes sure that a handle is the only one on its value. One of several handles is
exchanged for one on a copy. -/
def own (s : Storage τ) (m : Mark) : Mark × Storage τ :=
  if s.handles m = 1 then (m, s)
  else
    let (copy, s) := s.put (s.read m)
    (copy, s.release m)

/-- Changes a value for one handle. -/
def set (s : Storage τ) (m : Mark) (value : τ) : Mark × Storage τ :=
  let (m, s) := s.own m
  (m, s.overwrite m value)

end Storage

end RpcPipeline
