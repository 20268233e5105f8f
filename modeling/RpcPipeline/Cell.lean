import RpcPipeline.Text.Quoted

/-!
# `RpcPipeline.Cell`: values that are replaced while they are used

A cell holds a value that can be replaced. Every replacement gives it a new
version, also one by an equal value, so that a user can tell whether anything
happened since it last looked.

* `Cell.get`, `Cell.update`: reading and replacing.
* `Watch`: what a user remembers, and `Watch.changed` whether there is news.
-/

set_option autoImplicit false

namespace RpcPipeline

/-- A value that can be replaced. -/
structure Cell (τ : Type) where
  value : τ
  version : Nat
  deriving Repr

namespace Cell

variable {τ : Type}

/-- A cell with its first value. -/
def new (value : τ) : Cell τ := ⟨value, 0⟩

/-- Replaces the value. -/
def update (c : Cell τ) (value : τ) : Cell τ := ⟨value, c.version + 1⟩

/-- A cell as debug texts show it. -/
def debugText (render : τ → String) (c : Cell τ) : String := "Refreshable(" ++ render c.value ++ ")"

end Cell

/-- The version that a user of a cell last saw. -/
structure Watch where
  seen : Nat
  deriving Repr, DecidableEq

namespace Watch

variable {τ : Type}

/-- Starts to watch a cell; its present value is no news. -/
def start (c : Cell τ) : Watch := ⟨c.version⟩

/-- Whether the value was replaced since it was last seen. -/
def changed (w : Watch) (c : Cell τ) : Bool := w.seen ≠ c.version

/-- Marks the present value as seen. -/
def mark (_ : Watch) (c : Cell τ) : Watch := ⟨c.version⟩

end Watch

end RpcPipeline
