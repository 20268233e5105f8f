import RpcPipeline.Call.Error
import RpcPipeline.Data.Value
import RpcPipeline.Table

/-!
# `RpcPipeline.Report.Basic`: what happened, as plain data

Reports say in plain data what a pipeline is and does, for whoever watches it.
Here are the parts that all reports are made of.
-/

set_option autoImplicit false

namespace RpcPipeline

namespace Value

variable {α τ : Type}

/-- The report of something that may be absent. -/
def orNull (report : τ → Value α) : Option τ → Value α
  | some x => report x
  | none => .null

/-- Texts as a list. -/
def texts (xs : List String) : Value α := .list (xs.map .text)

/-- A report with several parts under names. -/
def record (parts : List (String × Value α)) : Value α := .object (Table.ofList parts).entries

/-- The report of a failure: its kind and its text. -/
def failure (kind message : String) : Value α :=
  record [("error", .text kind), ("message", .text message)]

end Value

/-- The report of a failed call. -/
def CallError.report {α : Type} (e : CallError) : Value α := .failure e.label e.message

end RpcPipeline
