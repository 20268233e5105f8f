import RpcPipeline.Text.Percent
import RpcPipeline.Text.Pieces

/-!
# `RpcPipeline.Unicode.Runs`: properties of code points in runs

Neighbouring code points mostly share a property. A property is therefore a row
of runs in ascending order, and the value of a run holds from its first code point
up to the next run.

As text a run is a word: the first code point in hexadecimal digits, a colon, and
the value. A word without a colon is the run that starts right behind the first
code point of the run before it.

* `Runs.read`: the runs of a text.
* `Runs.find?`: the run that a code point lies in.
* `start_le_of_search`: a run that is found starts no later than the code point.
-/

set_option autoImplicit false

namespace RpcPipeline.Unicode

/-- A value that holds from a code point on. -/
structure Run (τ : Type) where
  start : Nat
  value : τ

/-- The runs of a property, in ascending order. -/
structure Runs (τ : Type) where
  runs : Array (Run τ)

/-- The number that hexadecimal digits stand for. -/
def ofHex (digits : List Char) : Nat :=
  digits.foldl (fun n c => 16 * n + (Text.Percent.hexValue? c).getD 0) 0

/-- The words of a text, between spaces and line ends. -/
def words (text : String) : Array String :=
  let push (found : Array String) (word : String) : Array String :=
    if word.isEmpty then found else found.push word
  let (found, last) :=
    text.foldl
      (fun (found, word) c =>
        if c = ' ' || c = '\n' then (push found word, "") else (found, word.push c))
      (#[], "")
  push found last

namespace Runs

variable {τ : Type}

/-- The runs of a text, given how a value is written. -/
def read (value : List Char → τ) (text : String) : Runs τ :=
  ⟨(words text).foldl
    (fun runs word =>
      match Text.pieces (· = ':') word.toList with
      | [start, v] => runs.push ⟨ofHex start, value v⟩
      | _ => runs.push ⟨(runs.back?.map (·.start + 1)).getD 0, value word.toList⟩)
    #[]⟩

/-- The last run from place `low` up to, but without, place `high` that starts no
later than a code point; if there is none, the one that was found before. -/
def search (runs : Array (Run τ)) (n low high : Nat) (found : Option (Run τ)) :
    Option (Run τ) :=
  if low < high then
    let middle := (low + high) / 2
    match runs[middle]? with
    | some run =>
      if run.start ≤ n then search runs n (middle + 1) high (some run)
      else search runs n low middle found
    | none => found
  else found
termination_by high - low

/-- A run that is found starts no later than the code point. -/
theorem start_le_of_search {runs : Array (Run τ)} {n low high : Nat} {found : Option (Run τ)}
    (hfound : ∀ run, found = some run → run.start ≤ n) {run : Run τ}
    (h : search runs n low high found = some run) : run.start ≤ n := by
  fun_induction search runs n low high found with
  | case1 low high found hlt middle next hnext hle ih =>
    exact ih (fun run hrun => Option.some.inj hrun ▸ hle) h
  | case2 low high found hlt middle next hnext hle ih => exact ih hfound h
  | case3 low high found hlt middle hnone => exact hfound run h
  | case4 low high found hge => exact hfound run h

/-- The run that a code point lies in. -/
def find? (t : Runs τ) (n : Nat) : Option (Run τ) := search t.runs n 0 t.runs.size none

/-- The value that holds for a character. -/
def get? (t : Runs τ) (c : Char) : Option τ := (t.find? c.toNat).map (·.value)

end Runs

end RpcPipeline.Unicode
