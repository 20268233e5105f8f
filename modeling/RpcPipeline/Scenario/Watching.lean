import RpcPipeline.Cell
import RpcPipeline.Table

/-!
# `RpcPipeline.Scenario.Watching`: a cell and its users

Users of a cell have names. A user may hold on to a value, which stays what it
was when the cell is given another, or watch the cell for news.
-/

set_option autoImplicit false

namespace RpcPipeline

/-- A cell, the values that users hold, and what users have seen. -/
structure WatchBench (τ : Type) where
  cell : Cell τ
  held : Table String τ
  watches : Table String Watch

namespace WatchBench

variable {τ : Type}

/-- A cell without users. -/
def new (value : τ) : WatchBench τ := ⟨.new value, {}, {}⟩

/-- A user holds on to the present value. -/
def hold (b : WatchBench τ) (user : String) : WatchBench τ :=
  { b with held := b.held.insert user b.cell.value }

/-- Replaces the value. -/
def update (b : WatchBench τ) (value : τ) : WatchBench τ :=
  { b with cell := b.cell.update value }

/-- A user begins to watch the cell. -/
def subscribe (b : WatchBench τ) (user : String) : WatchBench τ :=
  { b with watches := b.watches.insert user (.start b.cell) }

/-- A user looks whether there is news, and has then seen the present value.
Nothing if the user does not watch the cell. -/
def look (b : WatchBench τ) (user : String) : Option Bool × WatchBench τ :=
  match b.watches.get? user with
  | some w => (some (w.changed b.cell), { b with watches := b.watches.insert user (w.mark b.cell) })
  | none => (none, b)

end WatchBench

end RpcPipeline
