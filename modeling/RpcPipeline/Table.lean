/-!
# `RpcPipeline.Table`: finite maps in ascending order of their keys

A table is a list of keys with their values, in ascending order. Whatever lists
its entries therefore shows them in that order, and two tables filled in
different orders are equal.

* `Table.get?`, `Table.insert`, `Table.erase`: one entry.
* `Table.filter`, `Table.keys`: all entries.
* `get?_insert`, `get?_erase`, `get?_modify`: what one entry's change does to look-ups.
-/

set_option autoImplicit false

namespace RpcPipeline

/-- A finite map from keys to values. -/
structure Table (κ ν : Type) where
  entries : List (κ × ν)
  deriving Repr, DecidableEq

namespace Table

variable {κ ν : Type}

/-- The table without entries. -/
def empty : Table κ ν := ⟨[]⟩

instance : EmptyCollection (Table κ ν) := ⟨empty⟩

instance : Inhabited (Table κ ν) := ⟨empty⟩

/-- The number of entries. -/
def size (t : Table κ ν) : Nat := t.entries.length

/-- Whether there is no entry. -/
def isEmpty (t : Table κ ν) : Bool := t.entries.isEmpty

/-- The keys, in ascending order. -/
def keys (t : Table κ ν) : List κ := t.entries.map (·.1)

/-- The values, in ascending order of their keys. -/
def values (t : Table κ ν) : List ν := t.entries.map (·.2)

/-- The entries that a test on key and value lets pass. -/
def filter (p : κ → ν → Bool) (t : Table κ ν) : Table κ ν :=
  ⟨t.entries.filter fun (k, v) => p k v⟩

/-- The table with every value replaced. -/
def map {μ : Type} (f : ν → μ) (t : Table κ ν) : Table κ μ :=
  ⟨t.entries.map fun (k, v) => (k, f v)⟩

variable [DecidableEq κ]

/-- The value of a key in a list of entries. -/
def find? (key : κ) : List (κ × ν) → Option ν
  | [] => none
  | (k, v) :: rest => if k = key then some v else find? key rest

/-- The value of a key. -/
def get? (t : Table κ ν) (key : κ) : Option ν := find? key t.entries

/-- Whether a key has a value. -/
def contains (t : Table κ ν) (key : κ) : Bool := (t.get? key).isSome

/-- The table without a key. -/
def erase (t : Table κ ν) (key : κ) : Table κ ν :=
  ⟨t.entries.filter fun (k, _) => k ≠ key⟩

variable [LT κ] [DecidableLT κ]

/-- Puts an entry into a list of entries, before the first greater key. -/
def place (key : κ) (value : ν) : List (κ × ν) → List (κ × ν)
  | [] => [(key, value)]
  | (k, v) :: rest =>
    if k = key then (key, value) :: rest
    else if key < k then (key, value) :: (k, v) :: rest
    else (k, v) :: place key value rest

/-- The table with a key set to a value. -/
def insert (t : Table κ ν) (key : κ) (value : ν) : Table κ ν :=
  ⟨place key value t.entries⟩

/-- The table with the value of a key replaced by a function of it; a key
without value stays so. -/
def modify (t : Table κ ν) (key : κ) (f : ν → ν) : Table κ ν :=
  ⟨t.entries.map fun (k, v) => if k = key then (k, f v) else (k, v)⟩

/-- The table of a list of entries, of which the last of several with the same
key counts. -/
def ofList (entries : List (κ × ν)) : Table κ ν :=
  entries.foldl (fun t (k, v) => t.insert k v) empty

omit [LT κ] [DecidableLT κ] in
@[simp] theorem get?_empty (key : κ) : (empty : Table κ ν).get? key = none := rfl

theorem find?_place (key : κ) (value : ν) (other : κ) (entries : List (κ × ν)) :
    find? other (place key value entries) =
      if other = key then some value else find? other entries := by
  induction entries with
  | nil => by_cases h : key = other <;> simp [place, find?, h, eq_comm]
  | cons entry rest ih =>
    obtain ⟨k, v⟩ := entry
    simp only [place]
    split
    · next h =>
      subst h
      by_cases h : k = other <;> grind [find?]
    · next h =>
      split
      · by_cases h' : key = other <;> simp [find?, h', eq_comm]
      · by_cases h' : k = other
        · subst h'; simp [find?, h]
        · simp [find?, h', ih]

/-- A look-up sees the entry that was put in last, and otherwise what it saw
before. -/
@[simp] theorem get?_insert (t : Table κ ν) (key : κ) (value : ν) (other : κ) :
    (t.insert key value).get? other = if other = key then some value else t.get? other :=
  find?_place key value other t.entries

omit [LT κ] [DecidableLT κ] in
/-- A look-up of an erased key finds nothing; others see what they saw before. -/
@[simp] theorem get?_erase (t : Table κ ν) (key other : κ) :
    (t.erase key).get? other = if other = key then none else t.get? other := by
  obtain ⟨entries⟩ := t
  simp only [get?, erase]
  induction entries with
  | nil => simp [find?]
  | cons entry rest ih =>
    obtain ⟨k, v⟩ := entry
    by_cases h : k = key
    · subst h
      by_cases h' : other = k
      · subst h'; simpa [find?] using ih
      · simpa [find?, Ne.symm h', h'] using ih
    · by_cases h' : k = other
      · subst h'; simp [find?, h]
      · simpa [find?, h, h'] using ih

omit [LT κ] [DecidableLT κ] in
/-- A look-up of a modified key finds the modified value; others see what they saw
before. -/
@[simp] theorem get?_modify (t : Table κ ν) (key : κ) (f : ν → ν) (other : κ) :
    (t.modify key f).get? other = if other = key then (t.get? key).map f else t.get? other := by
  obtain ⟨entries⟩ := t
  simp only [get?, modify]
  induction entries with
  | nil => simp [find?]
  | cons entry rest ih =>
    obtain ⟨k, v⟩ := entry
    by_cases h : k = key
    · subst h
      by_cases h' : other = k
      · subst h'; simp [find?]
      · simpa [find?, Ne.symm h', h'] using ih
    · by_cases h' : k = other
      · subst h'; simp [find?, h]
      · simpa [find?, h, h'] using ih

omit [LT κ] [DecidableLT κ] in
/-- The keys are what a look-up finds. -/
theorem mem_keys {t : Table κ ν} {key : κ} : key ∈ t.keys ↔ (t.get? key).isSome := by
  obtain ⟨entries⟩ := t
  simp only [keys, get?]
  induction entries with
  | nil => simp [find?]
  | cons entry rest ih =>
    obtain ⟨k, v⟩ := entry
    by_cases h : k = key
    · simp [find?, h]
    · simpa [find?, h, Ne.symm h] using ih

end Table

end RpcPipeline
