import RpcPipeline.Proofs.Text.Pieces
import RpcPipeline.Proofs.Uri.Base

/-!
# `RpcPipeline.Proofs.Uri.Address`: addresses read back

The text of an address is read as that address, in each of its forms: four numbers, eight
groups, groups with a run of zeros left out, and groups that end in an address of version 4.
So no two addresses have one text.

What is left out of an address of version 6 is found again because the double colon stands
only there (`V6.cut?_intercalate`) and because only zeros are left out, as many as are missing
from eight groups (`V6.eq_of_longestZeros`).

* `V4.parse?_text`, `V6.parse?_text`: the text is read back.
* `Address.text_injective`: no two addresses have one text.
-/

set_option autoImplicit false

namespace RpcPipeline

/-- Writing and reading a list piece by piece leads back to it. -/
theorem mapM_map_eq_some {β γ : Type} {write : β → γ} {read : γ → Option β}
    (h : ∀ b, read (write b) = some b) (l : List β) : (l.map write).mapM read = some l := by
  have hback : read ∘ write = some := funext h
  rw [List.mapM_map, hback]
  exact List.mapM_pure.trans (congrArg some (List.map_id l))

/-- What is read back from its text has a text of its own. -/
theorem injective_of_read {β : Type} {text : β → String} {read : List Char → Option β}
    (h : ∀ b, read (text b).toList = some b) : Function.Injective text := by
  intro b b' heq
  have hread := h b
  rw [heq, h b'] at hread
  exact (Option.some.inj hread).symm

/-! ### Version 4 -/

namespace V4

theorem parseByte?_toString (b : UInt8) : parseByte? (toString b.toNat).toList = some b := by
  have hbytes : ∀ n < 256, parseByte? (toString n).toList = some (UInt8.ofNat n) := by
    decide +kernel
  rw [hbytes b.toNat b.toNat_lt, UInt8.ofNat_toNat]

/-- Decimal numbers hold no dots. -/
theorem pieces_text (bytes : V4) : Text.pieces (· = '.') bytes.text.toList =
    bytes.toList.map fun b => (toString b.toNat).toList := by
  have hdots : ∀ piece ∈ bytes.toList.map fun b => (toString b.toNat).toList, '.' ∉ piece := by
    intro piece hpiece
    obtain ⟨b, -, rfl⟩ := List.mem_map.mp hpiece
    rw [Nat.toString_eq_repr, Nat.toList_repr]
    exact fun hdot => absurd (Nat.isDigit_of_mem_toDigits (by decide) (by decide) hdot) (by decide)
  have hne : (bytes.toList.map fun b => (toString b.toNat).toList) ≠ [] := by
    rw [Ne, List.map_eq_nil_iff, Vector.toList_eq_nil_iff]
    decide
  rw [text, String.toList_intercalate, List.map_map, Text.pieces_eq_splitOn]
  exact List.splitOn_intercalate '.' hdots hne

theorem exists_bytes (bytes : V4) : ∃ a b c d, bytes = #v[a, b, c, d] :=
  ⟨bytes[0], bytes[1], bytes[2], bytes[3], Vector.ext fun
    | 0, _ | 1, _ | 2, _ | 3, _ => rfl⟩

theorem parse?_text (bytes : V4) : parse? bytes.text.toList = some bytes := by
  unfold parse?
  rw [pieces_text, mapM_map_eq_some parseByte?_toString]
  obtain ⟨a, b, c, d, rfl⟩ := bytes.exists_bytes
  rfl

theorem text_injective : Function.Injective text := injective_of_read parse?_text

end V4

/-! ### Groups -/

namespace V6

theorem hexValue?_digitChar : ∀ d < 16, Text.Percent.hexValue? (Nat.digitChar d) = some d := by
  decide

/-- The digits of a number add up to it. -/
theorem foldlM_toDigits (n : Nat) :
    (Nat.toDigits 16 n).foldlM (fun n c => (Text.Percent.hexValue? c).map (16 * n + ·)) 0 =
      some n := by
  -- By the number: the digits before the last one are those of a smaller number.
  induction n using Nat.strongRecOn with
  | ind n ih =>
    rw [Nat.toDigits_eq_if (by decide)]
    split
    · next hlt =>
      rw [List.foldlM_cons, hexValue?_digitChar n hlt]
      exact congrArg some (Nat.zero_add n)
    · have hlast : n % 16 < 16 := Nat.mod_lt n (by decide)
      rw [List.foldlM_append, ih (n / 16) (by omega), Option.bind_eq_bind, Option.bind_some,
        List.foldlM_cons, hexValue?_digitChar _ hlast]
      exact congrArg some (Nat.div_add_mod n 16)

theorem parseGroup?_groupText (g : UInt16) : parseGroup? (groupText g).toList = some g := by
  have hlength : (Nat.toDigits 16 g.toNat).length ≤ 4 :=
    (Nat.length_toDigits_le_iff (by decide) (by decide)).mpr g.toNat_lt
  have hsome : (Nat.toDigits 16 g.toNat).isEmpty = false :=
    List.isEmpty_eq_false_iff.mpr Nat.toDigits_ne_nil
  rw [groupText, String.toList_ofList, parseGroup?, hsome, decide_eq_false (by omega),
    foldlM_toDigits]
  exact congrArg some UInt16.ofNat_toNat

/-- What holds a character that is no hexadecimal digit is no group. -/
theorem parseGroup?_eq_none {cs : List Char} {c : Char} (hc : c ∈ cs)
    (hnone : Text.Percent.hexValue? c = none) : parseGroup? cs = none := by
  have hfold : ∀ n, cs.foldlM
      (fun n c => (Text.Percent.hexValue? c).map (16 * n + ·)) n = none := by
    induction cs with
    | nil => cases hc
    | cons d cs ih =>
      intro n
      rw [List.foldlM_cons]
      rcases List.mem_cons.mp hc with rfl | hc
      · rw [hnone]
        rfl
      · cases Text.Percent.hexValue? d with
        | none => rfl
        | some m => exact ih hc _
  unfold parseGroup?
  rw [hfold]
  split <;> rfl

/-- Groups as pieces of a text. -/
def pieces (gs : List UInt16) : List (List Char) := gs.map fun g => (groupText g).toList

theorem toList_groupsText (gs : List UInt16) :
    (groupsText gs).toList = [':'].intercalate (pieces gs) := by
  rw [groupsText, String.toList_intercalate, List.map_map]
  rfl

/-- A group is not empty, and it holds no colon. -/
theorem of_mem_pieces {gs : List UInt16} {piece : List Char} (h : piece ∈ pieces gs) :
    piece ≠ [] ∧ ':' ∉ piece := by
  obtain ⟨g, -, rfl⟩ := List.mem_map.mp h
  rw [groupText, String.toList_ofList]
  exact ⟨Nat.toDigits_ne_nil, fun hc => plain_toDigits g.toNat _ hc (by decide)⟩

theorem parts_pieces {gs : List UInt16} (h : gs ≠ []) :
    parseGroups?.parts (pieces gs) = some gs := by
  induction gs with
  | nil => exact absurd rfl h
  | cons g gs ih =>
    cases gs with
    | nil =>
      show parseGroups?.parts [(groupText g).toList] = some [g]
      rw [parseGroups?.parts, parseGroup?_groupText]
    | cons g' gs =>
      have hrest := ih (List.cons_ne_nil g' gs)
      show parseGroups?.parts ((groupText g).toList :: pieces (g' :: gs)) = some (g :: g' :: gs)
      rw [parseGroups?.parts, parseGroup?_groupText, hrest]
      · rfl
      · exact List.cons_ne_nil _ _

theorem parseGroups?_groupsText {gs : List UInt16} (h : gs ≠ []) :
    parseGroups? (groupsText gs).toList = some gs := by
  have hne : pieces gs ≠ [] := List.map_eq_nil_iff.not.mpr h
  unfold parseGroups?
  rw [Text.pieces_eq_splitOn, toList_groupsText,
    List.splitOn_intercalate ':' (fun piece hpiece => (of_mem_pieces hpiece).2) hne, parts_pieces h]

/-- The first character of pieces is that of the first one. -/
theorem head?_intercalate {first : List Char} (h : first ≠ []) (others : List (List Char))
    (rest : List Char) :
    ([':'].intercalate (first :: others) ++ rest).head? = first.head? := by
  obtain ⟨c, cs, rfl⟩ := List.exists_cons_of_ne_nil h
  cases others with
  | nil => rw [List.intercalate_singleton, List.cons_append, List.head?_cons, List.head?_cons]
  | cons second others => rw [List.intercalate_cons_cons]; rfl

theorem of_parseGroups? {cs : List Char} {gs : List UInt16} (hne : cs ≠ [])
    (h : parseGroups? cs = some gs) :
    (if cs.isEmpty then some [] else parseGroups? cs) = some gs := by
  rw [if_neg (List.isEmpty_iff.not.mpr hne), h]

/-- On either side of a double colon there may be no groups at all. -/
theorem parseGroups?_or_nothing (gs : List UInt16) :
    (if (groupsText gs).toList.isEmpty then some [] else parseGroups? (groupsText gs).toList) =
      some gs := by
  cases gs with
  | nil => rfl
  | cons g gs =>
    have hne : (groupsText (g :: gs)).toList ≠ [] := by
      have hmem : (groupText g).toList ∈ pieces (g :: gs) := List.mem_cons_self
      have hfirst : (groupText g).toList ≠ [] := (of_mem_pieces hmem).1
      have hhead : ([':'].intercalate (pieces (g :: gs)) ++ []).head? = (groupText g).toList.head? :=
        head?_intercalate hfirst (pieces gs) []
      rw [toList_groupsText]
      intro hnil
      rw [hnil, List.nil_append] at hhead
      exact hfirst (List.head?_eq_none_iff.mp hhead.symm)
    exact of_parseGroups? hne (parseGroups?_groupsText (List.cons_ne_nil g gs))

/-! ### Runs of zeros -/

theorem cut?_append {piece : List Char} (h : ':' ∉ piece) (rest : List Char) :
    cut? (piece ++ rest) = (cut? rest).map fun x => (piece ++ x.1, x.2) := by
  induction piece with
  | nil => simp
  | cons c piece ih =>
    rw [List.mem_cons, not_or] at h
    rw [List.cons_append, cut?, ih h.2, Option.map_map]
    · rfl
    · rintro rest rfl
      exact absurd rfl h.1

/-- A colon alone is not a double one. -/
theorem cut?_colon {cs : List Char} (h : cs.head? ≠ some ':') :
    cut? (':' :: cs) = (cut? cs).map fun x => (':' :: x.1, x.2) := by
  rw [cut?]
  rintro rest - rfl
  exact h rfl

/-- The first double colon behind some groups is the first one of the text. -/
theorem cut?_intercalate {texts : List (List Char)}
    (h : ∀ text ∈ texts, text ≠ [] ∧ ':' ∉ text) (rest : List Char) :
    cut? ([':'].intercalate texts ++ rest) =
      (cut? rest).map fun x => ([':'].intercalate texts ++ x.1, x.2) := by
  induction texts with
  | nil => simp
  | cons first texts ih =>
    obtain ⟨⟨-, hfirst⟩, hothers⟩ := List.forall_mem_cons.mp h
    cases texts with
    | nil => rw [List.intercalate_singleton, cut?_append hfirst]
    | cons second texts =>
      obtain ⟨hne, hsecond⟩ := hothers second List.mem_cons_self
      have hhead : ([':'].intercalate (second :: texts) ++ rest).head? ≠ some ':' := by
        rw [head?_intercalate hne]
        exact fun hcolon => hsecond (List.mem_of_head? hcolon)
      rw [List.intercalate_cons_cons, List.append_assoc, List.append_assoc, cut?_append hfirst,
        List.singleton_append, cut?_colon hhead, ih hothers, Option.map_map, Option.map_map]
      simp [Function.comp_def]

theorem cut?_groupsText (gs : List UInt16) (rest : List Char) :
    cut? ((groupsText gs).toList ++ rest) =
      (cut? rest).map fun x => ((groupsText gs).toList ++ x.1, x.2) := by
  rw [toList_groupsText]
  exact cut?_intercalate (fun _ => of_mem_pieces) rest

/-- As many groups as are counted are zeros. -/
theorem eq_of_le_leadingZeros {gs : List UInt16} {length : Nat} (h : length ≤ leadingZeros gs) :
    gs = List.replicate length 0 ++ gs.drop length := by
  have hzeros : gs.take length = List.replicate length 0 := by
    have hfront : gs.take length <+: gs.takeWhile (· = 0) :=
      List.prefix_of_prefix_length_le (List.take_prefix _ _) (List.takeWhile_prefix _)
        ((List.length_take_le _ _).trans h)
    have hlength : length ≤ gs.length := h.trans (List.takeWhile_prefix _).length_le
    refine List.eq_replicate_iff.mpr ⟨List.length_take_of_le hlength, fun g hg => ?_⟩
    simpa using List.mem_takeWhile_imp (hfront.subset hg)
  rw [← hzeros, List.take_append_drop]

/-- Where zeros are said to be, there are as many at least. -/
theorem longestZeros_le (gs : List UInt16) :
    (longestZeros gs).2 ≤ leadingZeros (gs.drop (longestZeros gs).1) := by
  unfold longestZeros
  -- It holds before the first place is looked at, and a place is only taken with its own zeros.
  refine List.foldlRecOn _ _ (motive := fun (best : Nat × Nat) =>
    best.2 ≤ leadingZeros (gs.drop best.1)) (Nat.zero_le _) fun best hbest i _ => ?_
  dsimp only
  split
  · exact le_rfl
  · exact hbest

/-- What is left out of some groups are zeros. -/
theorem eq_of_longestZeros (gs : List UInt16) :
    gs = gs.take (longestZeros gs).1 ++ List.replicate (longestZeros gs).2 0 ++
      gs.drop ((longestZeros gs).1 + (longestZeros gs).2) := by
  have hrun := eq_of_le_leadingZeros (longestZeros_le gs)
  rw [List.append_assoc, ← List.drop_drop, ← hrun, List.take_append_drop]

/-! ### Version 6 -/

/-- Eight groups make an address. -/
theorem reassembled (groups : V6) :
    (if h : groups.toList.toArray.size = 8 then some (⟨groups.toList.toArray, h⟩ : V6) else none) =
      some groups := by
  have hsize : groups.toList.toArray.size = 8 := by rw [List.size_toArray, Vector.length_toList]
  rw [dif_pos hsize]
  exact congrArg some (Vector.toArray_inj.mp Array.toArray_toList)

theorem parse?_of_cut?_eq_none {cs : List Char} {groups : V6} (hcut : cut? cs = none)
    (hgroups : parseGroups? cs = some groups.toList) : parse? cs = some groups := by
  unfold parse?
  rw [hcut]
  dsimp only
  rw [hgroups]
  exact reassembled groups

/-- What comes next is the same on both sides of a choice. -/
theorem ite_bind {β γ : Type} {c : Prop} [Decidable c] (x y : Option β) (f : β → Option γ) :
    (if c then x >>= f else y >>= f) = (if c then x else y) >>= f :=
  (apply_ite (· >>= f) c x y).symm

theorem parse?_of_cut? {cs before after : List Char} {head tail : List UInt16} {groups : V6}
    (hcut : cut? cs = some (before, after)) (hdot : '.' ∉ before)
    (hhead : (if before.isEmpty then some [] else parseGroups? before) = some head)
    (htail : (if after.isEmpty then some [] else parseGroups? after) = some tail)
    (hshort : head.length + tail.length ≤ 7)
    (hgroups : groups.toList =
      head ++ List.replicate (8 - head.length - tail.length) 0 ++ tail) :
    parse? cs = some groups := by
  have hnodot : ¬ before.contains '.' = true := List.contains_iff_mem.not.mpr hdot
  unfold parse?
  rw [hcut]
  dsimp only
  simp only [if_neg hnodot, ite_bind, hhead, htail]
  dsimp only [Option.bind_eq_bind, Option.bind_some]
  rw [if_pos hshort, ← hgroups]
  exact reassembled groups

theorem dot_notMem_groupsText (gs : List UInt16) : '.' ∉ (groupsText gs).toList := by
  have hpieces : ∀ piece ∈ pieces gs, Lacks ['.'] piece := by
    intro piece hpiece c hc hdot
    obtain ⟨g, -, rfl⟩ := List.mem_map.mp hpiece
    rw [List.mem_singleton.mp hdot] at hc
    -- A group is read back, which a text with a dot would not be.
    have hnone := parseGroup?_eq_none hc (by decide)
    rw [parseGroup?_groupText] at hnone
    cases hnone
  rw [toList_groupsText]
  exact fun hdot => Lacks.intercalate (by decide) hpieces '.' hdot (List.mem_singleton_self '.')

theorem parse?_compressed (groups : V6) : parse? groups.compressed.toList = some groups := by
  have hgroups := eq_of_longestZeros groups.toList
  have hlength : groups.toList.length = 8 := Vector.length_toList
  unfold compressed
  dsimp only
  generalize longestZeros groups.toList = run at hgroups ⊢
  generalize groups.toList.take run.1 = head at hgroups ⊢
  generalize groups.toList.drop (run.1 + run.2) = tail at hgroups ⊢
  split
  · next hrun =>
    -- What stands on both sides of the double colon tells how many zeros are missing.
    rw [hgroups, List.length_append, List.length_append, List.length_replicate] at hlength
    have hmissing : 8 - head.length - tail.length = run.2 := by omega
    have hcut : cut? (groupsText head ++ "::" ++ groupsText tail).toList =
        some ((groupsText head).toList, (groupsText tail).toList) := by
      rw [String.toList_append, String.toList_append, List.append_assoc, cut?_groupsText]
      show some ((groupsText head).toList ++ [], (groupsText tail).toList) = _
      rw [List.append_nil]
    refine parse?_of_cut? hcut (dot_notMem_groupsText head) (parseGroups?_or_nothing head)
      (parseGroups?_or_nothing tail) (by omega) ?_
    rw [hmissing]
    exact hgroups
  · -- Nothing is left out, so there is no double colon either.
    have hne : groups.toList ≠ [] := List.ne_nil_of_length_eq_add_one hlength
    refine parse?_of_cut?_eq_none ?_ (parseGroups?_groupsText hne)
    have hcut := cut?_groupsText groups.toList []
    rw [List.append_nil] at hcut
    exact hcut

/-! ### Version 4 in version 6 -/

/-- Both bytes of a group. -/
theorem joinBytes_split (g : UInt16) : joinBytes (g >>> 8).toUInt8 g.toUInt8 = g := by
  have hg : g.toNat < 65536 := g.toNat_lt
  have hsum : 256 * (g >>> 8).toUInt8.toNat + g.toUInt8.toNat = g.toNat := by
    simp only [UInt16.toNat_toUInt8, UInt16.toNat_shiftRight, UInt16.reduceToNat, Nat.reduceMod,
      Nat.shiftRight_eq_div_pow, Nat.reducePow]
    omega
  rw [joinBytes, hsum, UInt16.ofNat_toNat]

theorem toList_of_mapped? {groups : V6} {a b c d : UInt8}
    (h : mapped? groups = some #v[a, b, c, d]) :
    groups.toList = [0, 0, 0, 0, 0, 0xffff, joinBytes a b, joinBytes c d] := by
  unfold mapped? at h
  split at h
  · next high low hgroups =>
    cases h
    rw [hgroups]
    show _ = [0, 0, 0, 0, 0, 0xffff, joinBytes (high >>> 8).toUInt8 high.toUInt8,
      joinBytes (low >>> 8).toUInt8 low.toUInt8]
    rw [joinBytes_split, joinBytes_split]
  · cases h

/-- An address of version 4 makes the last two groups. -/
theorem parseGroups?_mapped (a b c d : UInt8) :
    parseGroups? ("ffff".toList ++ ':' :: (V4.text #v[a, b, c, d]).toList) =
      some [0xffff, joinBytes a b, joinBytes c d] := by
  have hcolon : ':' ∉ (V4.text #v[a, b, c, d]).toList := fun hc =>
    V4.text_plain _ _ hc (by decide)
  have hdot : '.' ∈ (V4.text #v[a, b, c, d]).toList := by
    rw [V4.text, String.toList_intercalate]
    simp
  have hlast : parseGroups?.parts [(V4.text #v[a, b, c, d]).toList] =
      some [joinBytes a b, joinBytes c d] := by
    rw [parseGroups?.parts, parseGroup?_eq_none hdot (by decide), V4.parse?_text]
    rfl
  unfold parseGroups?
  rw [Text.pieces_eq_splitOn, List.splitOn_append_cons_self_of_not_mem (by decide),
    List.splitOn_eq_singleton hcolon, parseGroups?.parts, hlast]
  · rfl
  · exact List.cons_ne_nil _ _

theorem parse?_text (groups : V6) : parse? groups.text.toList = some groups := by
  unfold text
  split
  · next bytes hmapped =>
    obtain ⟨a, b, c, d, rfl⟩ := bytes.exists_bytes
    rw [String.toList_append]
    have hcut : ∀ rest, cut? ("::ffff:".toList ++ rest) =
        some ([], "ffff".toList ++ ':' :: rest) := fun _ => rfl
    have hshort : ([] : List UInt16).length +
        [0xffff, joinBytes a b, joinBytes c d].length ≤ 7 := Nat.le_of_ble_eq_true rfl
    have htail := of_parseGroups? (List.cons_ne_nil _ _) (parseGroups?_mapped a b c d)
    exact parse?_of_cut? (hcut _) List.not_mem_nil rfl htail hshort (toList_of_mapped? hmapped)
  · exact parse?_compressed groups

theorem text_injective : Function.Injective text := injective_of_read parse?_text

/-- Groups are never without a colon. -/
theorem colon_mem_text (groups : V6) : ':' ∈ groups.text.toList := by
  unfold text
  split
  · rw [String.toList_append]
    exact List.mem_append_left _ (by decide)
  · unfold compressed
    dsimp only
    split
    · rw [String.toList_append, String.toList_append]
      exact List.mem_append_left _ (List.mem_append_right _ (by decide))
    · -- Eight groups have colons between them.
      have hlength : groups.toList.length = 8 := Vector.length_toList
      obtain ⟨g, g', gs, hgroups⟩ : ∃ g g' gs, groups.toList = g :: g' :: gs := by
        match groups.toList, hlength with
        | g :: g' :: gs, _ => exact ⟨g, g', gs, rfl⟩
      rw [toList_groupsText, hgroups]
      show ':' ∈ [':'].intercalate ((groupText g).toList :: (groupText g').toList :: pieces gs)
      rw [List.intercalate_cons_cons]
      exact List.mem_append_left _ (List.mem_append_right _ (List.mem_singleton_self ':'))

end V6

/-! ### Either version -/

theorem Address.text_injective : Function.Injective Address.text := by
  intro a a' h
  -- The texts of the two versions differ, since only one of them holds colons.
  have hne : ∀ (bytes : V4) (groups : V6), bytes.text ≠ groups.text := fun bytes groups heq =>
    bytes.text_plain ':' (heq ▸ groups.colon_mem_text) (by decide)
  cases a with
  | v4 bytes =>
    cases a' with
    | v4 bytes' => exact congrArg Address.v4 (V4.text_injective h)
    | v6 groups => exact absurd h (hne bytes groups)
  | v6 groups =>
    cases a' with
    | v4 bytes => exact absurd h.symm (hne bytes groups)
    | v6 groups' => exact congrArg Address.v6 (V6.text_injective h)

end RpcPipeline
