import Mathlib.Data.List.Forall2
import Mathlib.Data.List.Pairwise
import Mathlib.Logic.Function.Conjugate
import RpcPipeline.Data.Codec
import RpcPipeline.Proofs.Except
import RpcPipeline.Proofs.Table
import RpcPipeline.Proofs.Time.Human

/-!
# `RpcPipeline.Proofs.Data.Codec`: what is written is read again

A codec restores a value if it reads what it wrote for it. Simple codecs do so by themselves,
and composite ones if their parts do. Records take more: a record is written field by field,
but its entries are read in the order of their names, on top of standard values. Each entry
puts one field in place, whatever is in the others (`Field.Copies`), so the order does not
count (`foldlM_perm`), and once all entries are read nothing is left of the standard values.

* `Codec.Restores`: what is written is read again.
* `bool_restores`, `text_restores`, `natural_restores`, `real_restores`, `span_restores`:
  simple values.
* `optional_restores`, `list_restores`, `choice_restores`: composite ones.
* `record_restores`: records.
-/

set_option autoImplicit false

namespace RpcPipeline

/-- A codec reads what it wrote for a value. -/
def Codec.Restores {α τ : Type} (c : Codec α τ) (x : τ) : Prop := c.read (c.write x) = .ok x

/-- Reading what a field wrote of a record puts it in place, in any record. -/
def Field.Copies {α σ : Type} (f : Field α σ) (s : σ) (put : σ → σ) : Prop :=
  ∀ s', f.read (f.write s) s' = .ok (put s')

namespace Codec

variable {α σ τ : Type}

/-! ### Simple values -/

theorem bool_restores (b : Bool) : (bool : Codec α Bool).Restores b := rfl

theorem text_restores (s : String) : (text : Codec α String).Restores s := rfl

theorem natural_restores {bound : Nat} {expected : String} {make : Nat → τ} {value : τ → Nat}
    {x : τ} (hbound : value x < bound) (hmake : make (value x) = x) :
    (natural bound expected make value : Codec α τ).Restores x := by
  show (if value x < bound then _ else _) = _
  rw [if_pos hbound, hmake]

theorem word16_restores (x : UInt16) : (word16 : Codec α UInt16).Restores x :=
  natural_restores x.toNat_lt UInt16.ofNat_toNat

theorem word32_restores (x : UInt32) : (word32 : Codec α UInt32).Restores x :=
  natural_restores x.toNat_lt UInt32.ofNat_toNat

theorem word64_restores (x : UInt64) : (word64 : Codec α UInt64).Restores x :=
  natural_restores x.toNat_lt UInt64.ofNat_toNat

theorem size_restores (x : UInt64) : (size : Codec α UInt64).Restores x :=
  natural_restores x.toNat_lt UInt64.ofNat_toNat

/-- Only finite numbers can be written. -/
theorem real_restores [Scalar α] {x : α} (h : Scalar.isFinite x = true) :
    (real : Codec α α).Restores x := by
  show real.read (if Scalar.isFinite x = true then .real x else .null) = _
  rw [if_pos h]
  rfl

theorem span_restores {x : Nanos} (h : x ≤ Nanos.longest) : (span : Codec α Nanos).Restores x := by
  simp only [Restores, span, Human.parse?_render h]

/-! ### Composite values -/

/-- A value that may be absent is restored, unless it is written like an absent one. -/
theorem optional_restores {c : Codec α τ} {o : Option τ}
    (h : ∀ x ∈ o, c.write x ≠ .null ∧ c.Restores x) : (optional c).Restores o := by
  cases o with
  | none => rfl
  | some x =>
    obtain ⟨hnull, hrestores⟩ := h x rfl
    show (optional c).read (c.write x) = _
    have hread : (optional c).read (c.write x) = some <$> c.read (c.write x) := by
      cases hwrite : c.write x with
      | null => exact absurd hwrite hnull
      | _ => rfl
    rw [hread, hrestores]
    rfl

theorem list_restores {c : Codec α τ} {xs : List τ} (h : ∀ x ∈ xs, c.Restores x) :
    (list c).Restores xs := by
  show (xs.map c.write).mapM c.read = .ok xs
  induction xs with
  | nil => rfl
  | cons x xs ih =>
    have hx : c.read (c.write x) = .ok x := h x List.mem_cons_self
    rw [List.map_cons, List.mapM_cons, hx, ih fun y hy => h y (List.mem_cons_of_mem x hy)]
    rfl

/-- A value is restored if its name is its own. -/
theorem choice_restores [BEq τ] {names : List (String × τ)} {name : String} {x : τ}
    (hname : names.find? (·.2 == x) = some (name, x))
    (hvalue : names.find? (·.1 = name) = some (name, x)) :
    (choice names : Codec α τ).Restores x := by
  have hwrite : (choice names : Codec α τ).write x = .text name := by
    simp only [choice, hname]
  rw [Restores, hwrite]
  simp only [choice, hvalue]

/-! ### Records -/

/-- Steps that can change places lead to the same in any order. -/
theorem foldlM_perm {ε β : Type} {f : σ → β → Except ε σ} {l l' : List β} (h : l.Perm l')
    (hcomm : ∀ a ∈ l, ∀ b ∈ l, ∀ s, (f s a >>= fun s' => f s' b) = f s b >>= fun s' => f s' a)
    (s : σ) : l.foldlM f s = l'.foldlM f s := by
  -- By the way one list is rearranged into the other, two neighbours at a time.
  induction h generalizing s with
  | nil => rfl
  | cons a h ih =>
    rw [List.foldlM_cons, List.foldlM_cons]
    refine bind_congr fun s' => ih (fun b hb c hc => ?_) s'
    exact hcomm b (List.mem_cons_of_mem a hb) c (List.mem_cons_of_mem a hc)
  | swap a b l =>
    simp only [List.foldlM_cons, ← bind_assoc]
    rw [hcomm b List.mem_cons_self a (List.mem_cons_of_mem b List.mem_cons_self) s]
  | trans h h' ih ih' =>
    rw [ih hcomm, ih' fun a ha b hb => hcomm a (h.mem_iff.mpr ha) b (h.mem_iff.mpr hb)]

/-- Steps each of which puts something in place put it all in place. -/
theorem foldlM_puts {ε β : Type} {f : σ → β → Except ε σ} {l : List β} {puts : List (σ → σ)}
    (h : List.Forall₂ (fun a put => ∀ s, f s a = .ok (put s)) l puts) (s : σ) :
    l.foldlM f s = .ok (puts.foldl (fun s put => put s) s) := by
  induction h generalizing s with
  | nil => rfl
  | cons hput _ ih =>
    rw [List.foldlM_cons, List.foldl_cons, hput]
    exact ih _

/-- Steps that put different things in place can change places. -/
theorem comm_of_puts {ε β : Type} {f : σ → β → Except ε σ} {l : List β} {puts : List (σ → σ)}
    (h : List.Forall₂ (fun a put => ∀ s, f s a = .ok (put s)) l puts)
    (hcomm : puts.Pairwise Function.Commute) :
    ∀ a ∈ l, ∀ b ∈ l, ∀ s, (f s a >>= fun s' => f s' b) = f s b >>= fun s' => f s' a := by
  intro a ha b hb s
  obtain ⟨put, hmem, hput⟩ := exists_of_forall₂ h.flip ha
  obtain ⟨put', hmem', hput'⟩ := exists_of_forall₂ h.flip hb
  -- Both steps may be the same one, and a step can change places with itself.
  have : Std.Symm (Function.Commute (α := σ)) := ⟨fun _ _ => Function.Commute.symm⟩
  have hswap : Function.Commute put put' :=
    hcomm.forall_of_forall (fun put _ => Function.Commute.refl put) hmem hmem'
  rw [hput, hput']
  show f (put s) b = f (put' s) a
  rw [hput', hput, hswap s]

/-- An entry is read by the field with its name. -/
theorem readEntry_of_mem {fields : List (Field α σ)} (hnames : (fields.map (·.name)).Nodup)
    {f : Field α σ} (hf : f ∈ fields) (v : Value α) (s : σ) :
    readEntry fields s (f.name, v) = f.read v s := by
  have hfind : fields.find? (·.name = f.name) = some f := by
    induction fields with
    | nil => cases hf
    | cons g rest ih =>
      obtain ⟨hfirst, hrest⟩ := List.nodup_cons.mp hnames
      rw [List.find?_cons]
      rcases List.mem_cons.mp hf with rfl | hf
      · simp
      · have hne : g.name ≠ f.name := by
          intro heq
          exact hfirst (List.mem_map.mpr ⟨f, hf, heq.symm⟩)
        simp only [hne, decide_false]
        exact ih hrest hf
  rw [readEntry, hfind]

theorem field_copies {name : String} {c : Codec α τ} {get : σ → τ} {set : τ → σ → σ} {s : σ}
    (h : c.Restores (get s)) : (field name c get set).Copies s (set (get s)) := by
  intro s'
  show (c.read (c.write (get s))).map (set · s') = _
  rw [h]
  rfl

/-- A record is restored if each of its fields puts its own part in place, and all of them
together the whole. -/
theorem record_restores {expected : String} {default s : σ} {fields : List (Field α σ)}
    {puts : List (σ → σ)} (hnames : (fields.map (·.name)).Nodup)
    (hcopies : List.Forall₂ (fun f put => f.Copies s put) fields puts)
    (hcomm : puts.Pairwise Function.Commute)
    (hall : puts.foldl (fun s' put => put s') default = s) :
    (record expected default fields).Restores s := by
  obtain ⟨written, hwritten⟩ :
    ∃ written, written = fields.map fun f => (f.name, f.write s) := ⟨_, rfl⟩
  have hreads : List.Forall₂ (fun entry put => ∀ s', readEntry fields s' entry = .ok (put s'))
      written puts := by
    rw [hwritten, List.forall₂_map_left_iff]
    refine ((List.forall₂_and_left _ _).mpr ⟨fun f hf => hf, hcopies⟩).imp ?_
    intro f put hcopy s'
    rw [readEntry_of_mem hnames hcopy.1]
    exact hcopy.2 s'
  -- The entries are read in the order of their names, not of the fields.
  have hperm : written.Perm (Table.ofList written).entries := by
    refine (Table.ofList_perm ?_).symm
    rw [hwritten, List.map_map]
    exact hnames
  show (Table.ofList (fields.map fun f => (f.name, f.write s))).entries.foldlM
    (readEntry fields) default = .ok s
  rw [← hwritten, ← foldlM_perm hperm (comm_of_puts hreads hcomm), foldlM_puts hreads, hall]

end Codec

end RpcPipeline
