import RpcPipeline.Call.Template
import RpcPipeline.Proofs.Except
import RpcPipeline.Proofs.Text.Pieces

/-!
# `RpcPipeline.Proofs.Call.Template`: which texts are templates

A text is read piece by piece, and what counts are its pieces between slashes that are not
empty (`PathTemplate.written`). `PathSegment.Spells` says which segment a piece spells: text
without braces spells itself, and a name in braces a placeholder. Each segment is spelled in one
way only, the one in which it is written. So a template can be told from the text that it is
written as, and only one text is both tidy and read as it.

* `parseSegment_eq_ok`, `parse_eq_ok`: a text is read as what its pieces spell.
* `written_text`: a template that was read is written in the pieces it was read from.
* `parse_grammar`: which texts are templates, how a template is written, and that it is read
  back.
-/

set_option autoImplicit false

namespace RpcPipeline

/-- A text without braces. -/
def Unbraced (cs : List Char) : Prop := ∀ c ∈ cs, c ≠ '\x7b' ∧ c ≠ '\x7d'

/-- A piece is the spelling of a segment. -/
inductive PathSegment.Spells : List Char → PathSegment → Prop where
  | literal {cs : List Char} (hplain : Unbraced cs) : Spells cs (.literal (String.ofList cs))
  | parameter {name : List Char} (hne : name ≠ []) (hplain : Unbraced name) :
      Spells ('\x7b' :: (name ++ ['\x7d'])) (.parameter (String.ofList name))

namespace PathTemplate

/-- The pieces of a text between slashes that are not empty. -/
def written (text : String) : List (List Char) :=
  (text.toList.splitOn '/').filter (· ≠ [])

/-! ### One segment -/

theorem any_isBrace_eq_false {cs : List Char} : cs.any isBrace = false ↔ Unbraced cs := by
  simp [isBrace, Unbraced]

theorem braced?_eq_some {piece name : List Char} :
    braced? piece = some name ↔ piece = '\x7b' :: (name ++ ['\x7d']) := by
  unfold braced?
  split
  · next rest =>
    rw [Option.ite_none_right_eq_some, List.getLast?_eq_some_iff, List.cons.injEq]
    constructor
    · rintro ⟨⟨front, rfl⟩, h⟩
      rw [List.dropLast_concat, Option.some.injEq] at h
      exact ⟨rfl, h ▸ rfl⟩
    · rintro ⟨-, rfl⟩
      exact ⟨⟨name, rfl⟩, by rw [List.dropLast_concat]⟩
  · next hother => exact iff_of_false nofun fun h => hother _ h

/-- A piece is read as the segment that it spells. -/
theorem parseSegment_eq_ok {piece : List Char} {segment : PathSegment} :
    parseSegment piece = .ok segment ↔ segment.Spells piece := by
  constructor
  · intro h
    unfold parseSegment at h
    split at h
    · next name hname =>
      obtain ⟨hgood, h⟩ := refused_eq_ok.mp h
      rw [Bool.or_eq_true, not_or, List.isEmpty_iff, Bool.not_eq_true] at hgood
      cases h
      rw [braced?_eq_some.mp hname]
      exact .parameter hgood.1 (any_isBrace_eq_false.mp hgood.2)
    · obtain ⟨hgood, h⟩ := refused_eq_ok.mp h
      cases h
      exact .literal (any_isBrace_eq_false.mp (Bool.not_eq_true _ ▸ hgood))
  · intro h
    unfold parseSegment
    cases h with
    | literal hplain =>
      split
      · next name hname =>
        -- It does not begin with a brace.
        rw [braced?_eq_some.mp hname] at hplain
        exact absurd rfl (hplain _ List.mem_cons_self).1
      · exact refused_eq_ok.mpr ⟨by rw [any_isBrace_eq_false.mpr hplain]; nofun, rfl⟩
    | @parameter name hne hplain =>
      rw [braced?_eq_some.mpr rfl]
      refine refused_eq_ok.mpr ⟨?_, rfl⟩
      rw [Bool.or_eq_true, not_or, List.isEmpty_iff, any_isBrace_eq_false.mpr hplain]
      exact ⟨hne, nofun⟩

theorem exists_spells {piece : List Char} :
    (∃ segment, PathSegment.Spells piece segment) ↔
      Unbraced piece ∨ ∃ name, name ≠ [] ∧ Unbraced name ∧ piece = '\x7b' :: (name ++ ['\x7d']) := by
  constructor
  · rintro ⟨segment, h⟩
    cases h with
    | literal hplain => exact .inl hplain
    | parameter hne hplain => exact .inr ⟨_, hne, hplain, rfl⟩
  · rintro (hplain | ⟨name, hne, hplain, rfl⟩)
    · exact ⟨_, .literal hplain⟩
    · exact ⟨_, .parameter hne hplain⟩

end PathTemplate

/-- A segment is written as it is spelled. -/
theorem PathSegment.Spells.text_eq {piece : List Char} {segment : PathSegment}
    (h : segment.Spells piece) : segment.text.toList = piece := by
  cases h with
  | literal => exact String.toList_ofList
  | parameter => simp [PathSegment.text]

namespace PathTemplate

/-! ### All segments -/

variable {text : String} {t : PathTemplate}

theorem mem_written {piece : List Char} :
    piece ∈ written text ↔ piece ∈ text.toList.splitOn '/' ∧ piece ≠ [] := by
  simp [written]

/-- A text is read as what its pieces spell. -/
theorem parse_eq_ok :
    parse text = .ok t ↔ List.Forall₂ PathSegment.Spells (written text) t.segments := by
  have hpieces : (Text.pieces (· = '/') text.toList).filter (! ·.isEmpty) = written text := by
    rw [Text.pieces_eq_splitOn, written]
    exact List.filter_congr fun piece _ => by cases piece <;> rfl
  rw [parse, hpieces, bind_eq_ok]
  simp only [mapM_eq_ok, parseSegment_eq_ok]
  constructor
  · rintro ⟨segments, h, ht⟩
    cases ht
    exact h
  · exact fun h => ⟨t.segments, h, rfl⟩

/-- A text is a template if each of its pieces spells a segment. -/
theorem exists_parse_eq_ok :
    (∃ t, parse text = .ok t) ↔
      ∀ piece ∈ written text, ∃ segment, PathSegment.Spells piece segment := by
  constructor
  · rintro ⟨t, h⟩
    have hread : (written text).mapM parseSegment = .ok t.segments :=
      mapM_eq_ok.mpr ((parse_eq_ok.mp h).imp fun _ _ => parseSegment_eq_ok.mpr)
    intro piece hpiece
    exact (exists_mapM_eq_ok.mp ⟨_, hread⟩ piece hpiece).imp fun _ => parseSegment_eq_ok.mp
  · intro h
    have hall : ∀ piece ∈ written text, ∃ segment, parseSegment piece = .ok segment :=
      fun piece hpiece => (h piece hpiece).imp fun _ => parseSegment_eq_ok.mpr
    obtain ⟨segments, hread⟩ := exists_mapM_eq_ok.mpr hall
    have hspells := (mapM_eq_ok.mp hread).imp fun _ _ => parseSegment_eq_ok.mp
    exact ⟨⟨segments⟩, parse_eq_ok.mpr hspells⟩

/-- A template that was read is made of the pieces that it was read from. -/
theorem map_text_of_parse (h : parse text = .ok t) :
    t.segments.map (·.text.toList) = written text := by
  have hspells := parse_eq_ok.mp h
  generalize written text = pieces at hspells
  generalize t.segments = segments at hspells
  induction hspells with
  | nil => rfl
  | cons hspell _ ih => rw [List.map_cons, hspell.text_eq, ih]

/-- A path of segments: each behind a slash, or a lone slash. -/
theorem toList_join (segments : List String) :
    (join segments).toList =
      if segments = [] then ['/'] else (segments.map String.toList).flatMap ('/' :: ·) := by
  unfold join
  cases segments with
  | nil => rfl
  | cons first others => simp [String.toList_join, List.flatMap_map]

/-- How a template is written that was read. -/
theorem toList_text (h : parse text = .ok t) :
    t.text.toList =
      if written text = [] then ['/'] else (written text).flatMap ('/' :: ·) := by
  rw [PathTemplate.text, toList_join, List.map_map, ← map_text_of_parse h]
  simp only [List.map_eq_nil_iff]
  rfl

/-- A template is written in the pieces that it was read from. -/
theorem written_text (h : parse text = .ok t) : written t.text = written text := by
  have hslashes : ∀ piece ∈ written text, '/' ∉ piece := fun piece hpiece =>
    Text.notMem_of_mem_splitOn (mem_written.mp hpiece).1
  have hfilled : ∀ piece ∈ written text, piece ≠ [] := fun piece hpiece =>
    (mem_written.mp hpiece).2
  rw [written, toList_text h]
  split
  · next hnone =>
    rw [hnone]
    rfl
  · rw [Text.splitOn_flatMap hslashes, List.filter_cons_of_neg (by simp)]
    exact List.filter_eq_self.mpr fun piece hpiece => decide_eq_true (hfilled piece hpiece)

/-- What was written is read back. -/
theorem parse_text (h : parse text = .ok t) : parse t.text = .ok t := by
  rw [parse_eq_ok, written_text h]
  exact parse_eq_ok.mp h

/-- A text is a template if each of its pieces, the empty ones apart, is free of braces or a name
in braces. The template is written as these pieces, each behind a slash, and read back. So
templates are equal if they are written alike. -/
theorem parse_grammar :
    (∀ text : String, (∃ t, parse text = .ok t) ↔
      ∀ piece ∈ text.toList.splitOn '/', piece ≠ [] →
        Unbraced piece ∨
          ∃ name, name ≠ [] ∧ Unbraced name ∧ piece = '\x7b' :: (name ++ ['\x7d'])) ∧
      (∀ (text : String) (t : PathTemplate), parse text = .ok t →
        List.Forall₂ PathSegment.Spells (written text) t.segments ∧
          t.text.toList =
            (if written text = [] then ['/'] else (written text).flatMap ('/' :: ·)) ∧
          parse t.text = .ok t) ∧
      ∀ (text text' : String) (t t' : PathTemplate), parse text = .ok t →
        parse text' = .ok t' → (t = t' ↔ t.text = t'.text) := by
  refine ⟨fun text => ?_, fun text t h => ⟨parse_eq_ok.mp h, toList_text h, parse_text h⟩,
    fun text text' t t' h h' => ⟨fun heq => congrArg PathTemplate.text heq, fun heq => ?_⟩⟩
  · rw [exists_parse_eq_ok]
    simp only [exists_spells, mem_written, and_imp]
  · have hback := parse_text h
    rw [heq, parse_text h'] at hback
    exact (Except.ok.inj hback).symm

/-- Empty pieces do not count, and the name of a placeholder does. -/
theorem parse_grammar_catalog :
    let byId : PathTemplate := ⟨[.literal "catalog", .parameter "id"]⟩
    let byName : PathTemplate := ⟨[.literal "catalog", .parameter "name"]⟩
    parse "catalog//\x7bid\x7d/" = .ok byId ∧ parse "/catalog/\x7bname\x7d" = .ok byName ∧
      parse byId.text = .ok byId ∧ (byId = byName ↔ byId.text = byName.text) :=
  ⟨rfl, rfl, (parse_grammar.2.1 "catalog//\x7bid\x7d/" _ rfl).2.2,
    parse_grammar.2.2 "catalog//\x7bid\x7d/" "/catalog/\x7bname\x7d" _ _ rfl rfl⟩

end PathTemplate

end RpcPipeline
