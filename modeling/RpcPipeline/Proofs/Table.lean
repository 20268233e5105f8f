import Mathlib.Order.Defs.Unbundled
import RpcPipeline.Table

/-!
# `RpcPipeline.Proofs.Table`: tables stay in order

A table lists its keys in ascending order, so that each key stands in it once. Only because
of that does a look-up in a filtered table find what the filter says about the value that was
found before: in a list with two entries for a key, a filter could uncover the second one.

* `Table.Sorted`: the keys are in ascending order, which every operation keeps.
* `get?_filter`, `get?_map`: look-ups in a filtered table, and in a table of images.
* `Sorted.values_insert`: the values after an entry is put in.
* `ofList_sorted`, `get?_ofList`: the table of a list of entries, of which the last one for a
  key counts.
-/

set_option autoImplicit false

namespace RpcPipeline

namespace Table

variable {κ ν : Type} [LT κ]

/-- The keys are in ascending order. -/
def Sorted (t : Table κ ν) : Prop := t.entries.Pairwise fun a b => a.1 < b.1

theorem empty_sorted : (∅ : Table κ ν).Sorted := List.Pairwise.nil

theorem Sorted.filter {t : Table κ ν} (h : t.Sorted) (p : κ → ν → Bool) : (t.filter p).Sorted :=
  List.Pairwise.filter _ h

variable [DecidableEq κ]

theorem Sorted.erase {t : Table κ ν} (h : t.Sorted) (key : κ) : (t.erase key).Sorted :=
  List.Pairwise.filter _ h

omit [LT κ] in
/-- What a look-up finds is an entry. -/
theorem mem_of_find? {key : κ} {value : ν} {entries : List (κ × ν)}
    (h : find? key entries = some value) : (key, value) ∈ entries := by
  induction entries with
  | nil => cases h
  | cons entry rest ih =>
    obtain ⟨k, v⟩ := entry
    unfold find? at h
    split at h
    · next heq =>
      subst heq
      cases h
      exact List.mem_cons_self
    · exact List.mem_cons_of_mem _ (ih h)

theorem find?_filter [Std.Irrefl (α := κ) (· < ·)] {entries : List (κ × ν)}
    (h : entries.Pairwise fun a b => a.1 < b.1) (p : κ → ν → Bool) (key : κ) :
    find? key (entries.filter fun (k, v) => p k v) = (find? key entries).filter (p key) := by
  induction entries with
  | nil => rfl
  | cons entry rest ih =>
    obtain ⟨k, v⟩ := entry
    obtain ⟨hfirst, hrest⟩ := List.pairwise_cons.mp h
    have htail := ih hrest
    have hfilter : ((k, v) :: rest).filter (fun (k, v) => p k v) =
        if p k v then (k, v) :: rest.filter (fun (k, v) => p k v)
        else rest.filter (fun (k, v) => p k v) := List.filter_cons
    rw [hfilter]
    by_cases heq : k = key
    · subst heq
      have hfound : find? k ((k, v) :: rest) = some v := by rw [find?, if_pos rfl]
      rw [hfound, Option.filter_some]
      cases p k v with
      | true => rw [if_pos rfl, if_pos rfl, find?, if_pos rfl]
      | false =>
        -- The key does not occur a second time, so nothing takes the place of its entry.
        have hnone : find? k rest = none := by
          refine Option.eq_none_iff_forall_ne_some.mpr fun v' hfind => ?_
          exact Std.Irrefl.irrefl k (hfirst _ (mem_of_find? hfind))
        rw [if_neg Bool.false_ne_true, if_neg Bool.false_ne_true, htail, hnone]
        rfl
    · have hskip : find? key ((k, v) :: rest) = find? key rest := by rw [find?, if_neg heq]
      rw [hskip, ← htail]
      cases p k v with
      | true => rw [if_pos rfl, find?, if_neg heq]
      | false => rw [if_neg Bool.false_ne_true]

/-- A look-up in a filtered table finds what it found before, if that passes. -/
theorem Sorted.get?_filter [Std.Irrefl (α := κ) (· < ·)] {t : Table κ ν} (h : t.Sorted)
    (p : κ → ν → Bool) (key : κ) : (t.filter p).get? key = (t.get? key).filter (p key) :=
  find?_filter h p key

omit [LT κ] in
/-- If whole keys are filtered out, a look-up of one that stays finds what it found before. -/
theorem get?_filter_key (t : Table κ ν) {p : κ → Bool} {key : κ} (hkey : p key = true) :
    (t.filter fun k _ => p k).get? key = t.get? key := by
  obtain ⟨entries⟩ := t
  show find? key (entries.filter fun (k, _) => p k) = find? key entries
  induction entries with
  | nil => rfl
  | cons entry rest ih =>
    obtain ⟨k, v⟩ := entry
    by_cases heq : k = key
    · subst heq
      simp [find?, hkey]
    · cases hk : p k with
      | true => simpa [find?, hk, heq] using ih
      | false => simpa [find?, hk, heq] using ih

omit [LT κ] in
/-- A look-up in a table of images finds the image of what it found before. -/
@[simp] theorem get?_map {μ : Type} (t : Table κ ν) (f : ν → μ) (key : κ) :
    (t.map f).get? key = (t.get? key).map f := by
  obtain ⟨entries⟩ := t
  show find? key (entries.map fun (k, v) => (k, f v)) = (find? key entries).map f
  induction entries with
  | nil => rfl
  | cons entry rest ih =>
    obtain ⟨k, v⟩ := entry
    rw [List.map_cons, find?, find?]
    split
    · rfl
    · exact ih

omit [LT κ] in
theorem mem_values_of_get? {t : Table κ ν} {key : κ} {value : ν} (h : t.get? key = some value) :
    value ∈ t.values := List.mem_map_of_mem (mem_of_find? h)

omit [LT κ] in
/-- Only the keys that are listed are found. -/
theorem find?_eq_none {key : κ} {entries : List (κ × ν)} :
    find? key entries = none ↔ key ∉ entries.map (·.1) := by
  have hkeys : key ∈ keys ⟨entries⟩ ↔ (get? ⟨entries⟩ key).isSome := mem_keys
  rw [keys, get?] at hkeys
  rw [hkeys, Option.not_isSome_iff_eq_none]

omit [LT κ] in
/-- A key that is filtered out is not found any more. -/
theorem get?_filter_key_none (t : Table κ ν) {p : κ → Bool} {key : κ} (hkey : p key = false) :
    (t.filter fun k _ => p k).get? key = none := by
  refine find?_eq_none.mpr fun hmem => ?_
  obtain ⟨entry, hentry, rfl⟩ := List.mem_map.mp hmem
  have hpass : p entry.1 = true := (List.mem_filter.mp hentry).2
  rw [hkey] at hpass
  cases hpass

variable [DecidableLT κ]

/-- Putting in an entry adds its key to the keys. -/
theorem mem_place {key : κ} {value : ν} {entries : List (κ × ν)} {x : κ × ν}
    (h : x ∈ place key value entries) : x.1 = key ∨ x ∈ entries := by
  induction entries with
  | nil =>
    rw [place, List.mem_singleton] at h
    exact .inl (congrArg Prod.fst h)
  | cons entry rest ih =>
    obtain ⟨k, v⟩ := entry
    unfold place at h
    split at h
    · rcases List.mem_cons.mp h with rfl | h
      · exact .inl rfl
      · exact .inr (List.mem_cons_of_mem _ h)
    · split at h
      · rcases List.mem_cons.mp h with rfl | h
        · exact .inl rfl
        · exact .inr h
      · rcases List.mem_cons.mp h with rfl | h
        · exact .inr List.mem_cons_self
        · exact (ih h).imp_right (List.mem_cons_of_mem _)

theorem place_sorted [IsTrans κ (· < ·)] [Std.Trichotomous (α := κ) (· < ·)] (key : κ)
    (value : ν) {entries : List (κ × ν)} (h : entries.Pairwise fun a b => a.1 < b.1) :
    (place key value entries).Pairwise fun a b => a.1 < b.1 := by
  induction entries with
  | nil => exact List.pairwise_singleton _ _
  | cons entry rest ih =>
    obtain ⟨k, v⟩ := entry
    obtain ⟨hfirst, hrest⟩ := List.pairwise_cons.mp h
    unfold place
    split
    · next heq =>
      subst heq
      exact List.pairwise_cons.mpr ⟨hfirst, hrest⟩
    · next hne =>
      split
      · next hlt =>
        refine List.pairwise_cons.mpr ⟨fun x hx => ?_, h⟩
        rcases List.mem_cons.mp hx with rfl | hx
        · exact hlt
        · exact IsTrans.trans _ _ _ hlt (hfirst x hx)
      · next hnot =>
        -- The new key is neither the first one nor before it, so it comes later.
        have hlt : k < key := Classical.byContradiction fun hge =>
          hne (Std.Trichotomous.trichotomous _ _ hge hnot)
        refine List.pairwise_cons.mpr ⟨fun x hx => ?_, ih hrest⟩
        rcases mem_place hx with hkey | hx
        · rw [hkey]
          exact hlt
        · exact hfirst x hx

theorem Sorted.insert [IsTrans κ (· < ·)] [Std.Trichotomous (α := κ) (· < ·)] {t : Table κ ν}
    (h : t.Sorted) (key : κ) (value : ν) : (t.insert key value).Sorted :=
  place_sorted key value h

omit [DecidableEq κ] [DecidableLT κ] in
theorem Sorted.keys_nodup [Std.Irrefl (α := κ) (· < ·)] {t : Table κ ν} (h : t.Sorted) :
    t.keys.Nodup := by
  refine List.pairwise_map.mpr (h.imp fun {a b} hlt heq => ?_)
  rw [heq] at hlt
  exact Std.Irrefl.irrefl b.1 hlt

/-! ### Tables of lists of entries -/

omit [LT κ] [DecidableLT κ] in
theorem find?_append (key : κ) (entries more : List (κ × ν)) :
    find? key (entries ++ more) = (find? key entries).or (find? key more) := by
  induction entries with
  | nil => rfl
  | cons entry rest ih =>
    obtain ⟨k, v⟩ := entry
    rw [List.cons_append, find?, find?]
    split
    · rfl
    · exact ih

omit [LT κ] [DecidableLT κ] in
/-- Modifying what is not there changes nothing. -/
theorem modify_of_none {t : Table κ ν} {key : κ} (h : t.get? key = none) (f : ν → ν) :
    t.modify key f = t := by
  obtain ⟨entries⟩ := t
  have hnot : key ∉ entries.map (·.1) := find?_eq_none.mp h
  have hsame : ∀ entry ∈ entries,
      (if entry.1 = key then (entry.1, f entry.2) else (entry.1, entry.2)) = entry := by
    intro entry hentry
    have hne : entry.1 ≠ key := fun heq => hnot (heq ▸ List.mem_map_of_mem hentry)
    rw [if_neg hne]
  show (⟨entries.map fun entry => _⟩ : Table κ ν) = ⟨entries⟩
  rw [List.map_congr_left hsame, List.map_id']

omit [LT κ] [DecidableLT κ] in
/-- Where no key is listed twice, every entry is found. -/
theorem find?_of_mem {key : κ} {value : ν} {entries : List (κ × ν)}
    (hnodup : (entries.map (·.1)).Nodup) (h : (key, value) ∈ entries) :
    find? key entries = some value := by
  induction entries with
  | nil => cases h
  | cons entry rest ih =>
    obtain ⟨k, v⟩ := entry
    obtain ⟨hfirst, hrest⟩ := List.nodup_cons.mp hnodup
    rcases List.mem_cons.mp h with heq | hmem
    · cases heq
      rw [find?, if_pos rfl]
    · have hne : k ≠ key := by
        rintro rfl
        exact hfirst (List.mem_map.mpr ⟨_, hmem, rfl⟩)
      rw [find?, if_neg hne]
      exact ih hrest hmem

omit [LT κ] [DecidableLT κ] in
/-- A list of keys with the values of a function. -/
theorem find?_map (f : κ → ν) (key : κ) (names : List κ) :
    find? key (names.map fun k => (k, f k)) = if key ∈ names then some (f key) else none := by
  induction names with
  | nil => rfl
  | cons k rest ih =>
    by_cases heq : k = key
    · simp [find?, heq]
    · simp [find?, heq, Ne.symm heq, ih]

theorem ofList_sorted [IsTrans κ (· < ·)] [Std.Trichotomous (α := κ) (· < ·)]
    (entries : List (κ × ν)) : (ofList entries).Sorted := by
  have hfold : ∀ (entries : List (κ × ν)) (t : Table κ ν), t.Sorted →
      (entries.foldl (fun t (k, v) => t.insert k v) t).Sorted := by
    intro entries
    induction entries with
    | nil => exact fun t h => h
    | cons entry rest ih => exact fun t h => ih _ (h.insert entry.1 entry.2)
  exact hfold entries _ empty_sorted

/-- Putting in an entry with a new key adds the entry. -/
theorem place_perm {key : κ} {entries : List (κ × ν)} (h : key ∉ entries.map (·.1)) (value : ν) :
    (place key value entries).Perm ((key, value) :: entries) := by
  induction entries with
  | nil => exact .refl _
  | cons entry rest ih =>
    obtain ⟨k, v⟩ := entry
    obtain ⟨hne, hrest⟩ := List.ne_and_not_mem_of_not_mem_cons h
    rw [place, if_neg (Ne.symm hne)]
    split
    · exact .refl _
    · exact ((ih hrest).cons (k, v)).trans (.swap ..)

/-- Putting in an entry with a known key exchanges its value for the one before. -/
theorem values_place_perm [Std.Irrefl (α := κ) (· < ·)] [IsTrans κ (· < ·)] {key : κ}
    {entries : List (κ × ν)} (hsorted : entries.Pairwise fun a b => a.1 < b.1) {older : ν}
    (h : find? key entries = some older) (value : ν) :
    (older :: (place key value entries).map (·.2)).Perm (value :: entries.map (·.2)) := by
  induction entries with
  | nil => cases h
  | cons entry rest ih =>
    obtain ⟨k, v⟩ := entry
    obtain ⟨hfirst, hrest⟩ := List.pairwise_cons.mp hsorted
    rw [find?] at h
    rw [place]
    split
    · next heq =>
      rw [if_pos heq] at h
      cases h
      exact .swap ..
    · next hne =>
      rw [if_neg hne] at h
      -- The key comes later, where all keys are greater than the first.
      have hlt : k < key := hfirst _ (mem_of_find? h)
      rw [if_neg fun hgt => Std.Irrefl.irrefl k (IsTrans.trans _ _ _ hlt hgt)]
      exact ((List.Perm.swap ..).trans ((ih hrest h).cons v)).trans (.swap ..)

/-- What a key gets in a table comes to its values, in exchange for what it had. -/
theorem Sorted.values_insert [Std.Irrefl (α := κ) (· < ·)] [IsTrans κ (· < ·)] {t : Table κ ν}
    (h : t.Sorted) (key : κ) (value : ν) :
    ((t.get? key).toList ++ (t.insert key value).values).Perm (value :: t.values) := by
  cases hget : t.get? key with
  | some older => exact values_place_perm h hget value
  | none => exact (place_perm (find?_eq_none.mp hget) value).map (·.2)

/-- The table of entries with different keys has exactly these entries. -/
theorem ofList_perm {entries : List (κ × ν)} (h : (entries.map (·.1)).Nodup) :
    (ofList entries).entries.Perm entries := by
  have hfold : ∀ (entries : List (κ × ν)) (t : Table κ ν),
      ((entries ++ t.entries).map (·.1)).Nodup →
        (entries.foldl (fun t (k, v) => t.insert k v) t).entries.Perm (entries ++ t.entries) := by
    intro entries
    induction entries with
    | nil => exact fun t _ => .refl _
    | cons entry rest ih =>
      intro t hnodup
      obtain ⟨k, v⟩ := entry
      -- The first entry is put in before the others, so it comes behind them.
      have hmove : (rest ++ (k, v) :: t.entries).Perm ((k, v) :: (rest ++ t.entries)) :=
        List.perm_middle
      have hnew : k ∉ t.entries.map (·.1) := by
        intro hmem
        have hrest : k ∉ (rest ++ t.entries).map (·.1) := (List.nodup_cons.mp hnodup).1
        rw [List.map_append] at hrest
        exact hrest (List.mem_append_right _ hmem)
      have hplace : (rest ++ (t.insert k v).entries).Perm ((k, v) :: (rest ++ t.entries)) :=
        ((place_perm hnew v).append_left rest).trans hmove
      exact (ih _ ((hplace.map _).nodup_iff.mpr hnodup)).trans hplace
  have hall := hfold entries empty (by rwa [empty, List.append_nil])
  rwa [empty, List.append_nil] at hall

/-- The last entry for a key is the one that counts. -/
theorem get?_ofList (entries : List (κ × ν)) (key : κ) :
    (ofList entries).get? key = find? key entries.reverse := by
  have hfold : ∀ (entries : List (κ × ν)) (t : Table κ ν),
      (entries.foldl (fun t (k, v) => t.insert k v) t).get? key =
        (find? key entries.reverse).or (t.get? key) := by
    intro entries
    induction entries with
    | nil => exact fun t => rfl
    | cons entry rest ih =>
      intro t
      obtain ⟨k, v⟩ := entry
      rw [List.foldl_cons, ih, get?_insert, List.reverse_cons, find?_append, find?, find?]
      by_cases heq : key = k
      · simp [heq]
      · simp [heq, Ne.symm heq]
  rw [ofList, hfold, get?_empty, Option.or_none]

end Table

end RpcPipeline
