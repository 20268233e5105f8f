import RpcPipeline.Proofs.Call.Template
import RpcPipeline.Proofs.Text.Percent

/-!
# `RpcPipeline.Proofs.Call.Rendering`: a path tells the values that it was made of

The segments of a template hold no slash, and neither does a value once it is escaped. So a path
comes apart at its slashes into one piece for each segment, however the values look, and each
value is read off its piece (`PathSegment.Fills`).

* `mapM_fill_of_lacking`: the first placeholder without value is reported.
* `splitOn_of_render`: what else comes out, piece by piece.
* `render_readsBack`: both of these, and that only the values of the placeholders matter for the
  path, but all of them.
-/

set_option autoImplicit false

namespace RpcPipeline

namespace PathSegment

/-- The name of a placeholder. -/
def name? : PathSegment → Option String
  | .literal _ => none
  | .parameter name => some name

/-- A piece of a path stands for a segment: literally, or for the value of a placeholder, whose
bytes are read off once escapes are. -/
inductive Fills (values : Table String String) : PathSegment → List Char → Prop where
  | literal {text : String} : Fills values (.literal text) text.toList
  | parameter {name value : String} {piece : List Char} (hvalue : values.get? name = some value)
      (hbytes : Text.Percent.decodeBytes piece = value.toUTF8.data.toList) :
      Fills values (.parameter name) piece

variable {values values' : Table String String} {segment : PathSegment} {filled : String}

/-- What a segment is filled with is what it stands for. -/
theorem fills_of_fill (h : segment.fill values = .ok filled) :
    segment.Fills values filled.toList := by
  cases segment with
  | literal text =>
    cases h
    exact .literal
  | parameter name =>
    simp only [fill] at h
    split at h
    · next value hvalue =>
      cases h
      exact .parameter hvalue (Text.Percent.decode_encode rfl value)
    · cases h

/-- An escaped value holds no slash. -/
theorem notMem_encode (value : String) :
    '/' ∉ (Text.Percent.encode Text.Percent.inPathValue value).toList := by
  have hdigit : ∀ n < 16, '/' ≠ Text.Percent.hexDigit n := by decide
  rw [Text.Percent.encode, String.toList_ofList]
  intro h
  obtain ⟨c, -, hc⟩ := List.mem_flatMap.mp h
  rcases Text.Percent.mem_encodeChar hc with heq | ⟨n, hn, heq⟩ | ⟨rfl, hkept⟩
  · exact absurd heq (by decide)
  · exact hdigit n hn heq
  · exact absurd hkept (by decide)

/-- Filled segments hold no slash if there is none in the template. -/
theorem notMem_of_fill (hslash : '/' ∉ segment.text.toList)
    (h : segment.fill values = .ok filled) : '/' ∉ filled.toList := by
  cases segment with
  | literal text =>
    cases h
    exact hslash
  | parameter name =>
    simp only [fill] at h
    split at h
    · cases h
      exact notMem_encode _
    · cases h

/-- A segment can be filled unless it is a placeholder without value. -/
theorem exists_fill (h : ∀ name, segment.name? = some name → values.get? name ≠ none) :
    ∃ filled, segment.fill values = .ok filled := by
  cases segment with
  | literal text => exact ⟨text, rfl⟩
  | parameter name =>
    obtain ⟨value, hvalue⟩ := Option.ne_none_iff_exists'.mp (h name rfl)
    exact ⟨_, by simp only [fill, hvalue]; rfl⟩

/-- Only the value of its own placeholder matters for a segment. -/
theorem fill_congr (h : ∀ name, segment.name? = some name → values.get? name = values'.get? name) :
    segment.fill values = segment.fill values' := by
  cases segment with
  | literal text => rfl
  | parameter name => simp only [fill, h name rfl]

/-- Values of placeholders are read off the pieces that stand for them. -/
theorem get?_eq_of_fills {segments : List PathSegment} {pieces : List (List Char)}
    (h : List.Forall₂ (Fills values) segments pieces)
    (h' : List.Forall₂ (Fills values') segments pieces) :
    ∀ name ∈ segments.filterMap name?,
      ∃ value, values.get? name = some value ∧ values'.get? name = some value := by
  induction h with
  | nil => nofun
  | @cons segment piece segments pieces hfirst _ ih =>
    obtain ⟨hfirst', hothers'⟩ := List.forall₂_cons.mp h'
    have hothers := ih hothers'
    cases hfirst with
    | literal => exact hothers
    | @parameter name value _ hvalue hbytes =>
      cases hfirst' with
      | @parameter _ value' _ hvalue' hbytes' =>
        -- The piece has the bytes of both values.
        have heq : value' = value := by
          rw [hbytes'] at hbytes
          exact String.toByteArray_inj.mp (ByteArray.ext (Array.toList_inj.mp hbytes))
        intro other hother
        rw [List.filterMap_cons_some (f := name?) rfl] at hother
        rcases List.mem_cons.mp hother with rfl | hother
        · exact ⟨value, hvalue, heq ▸ hvalue'⟩
        · exact hothers other hother

end PathSegment

namespace PathTemplate

variable {text : String} {t : PathTemplate} {values values' : Table String String}

/-- The names of the placeholders, in order. -/
def parameters (t : PathTemplate) : List String := t.segments.filterMap PathSegment.name?

theorem mem_parameters {name : String} :
    name ∈ t.parameters ↔ ∃ segment ∈ t.segments, segment.name? = some name :=
  List.mem_filterMap

/-- The first placeholder without value is reported. -/
theorem mapM_fill_of_lacking {segments : List PathSegment} {name : String}
    (h : (segments.filterMap PathSegment.name?).find? (values.get? · = none) = some name) :
    segments.mapM (PathSegment.fill values) =
      .error (.invalidRequest ("missing path parameter: " ++ name)) := by
  induction segments with
  | nil => cases h
  | cons segment segments ih =>
    rw [List.mapM_cons]
    cases segment with
    | literal text =>
      rw [ih h]
      rfl
    | parameter other =>
      rw [List.filterMap_cons_some (f := PathSegment.name?) rfl, List.find?_cons] at h
      cases hvalue : values.get? other with
      | none =>
        rw [hvalue] at h
        cases h
        simp only [PathSegment.fill, hvalue]
        rfl
      | some value =>
        rw [hvalue] at h
        simp only [PathSegment.fill, hvalue]
        rw [ih h]
        rfl

theorem render_of_lacking {name : String}
    (h : t.parameters.find? (values.get? · = none) = some name) :
    t.render values = .error (.invalidRequest ("missing path parameter: " ++ name)) := by
  rw [render, mapM_fill_of_lacking h]
  rfl

/-- There is a path if no placeholder lacks a value. -/
theorem exists_render (h : ∀ name ∈ t.parameters, values.get? name ≠ none) :
    ∃ path, t.render values = .ok path := by
  have hall : ∀ segment ∈ t.segments, ∃ filled, segment.fill values = .ok filled :=
    fun segment hsegment => PathSegment.exists_fill fun name hname =>
      h name (mem_parameters.mpr ⟨segment, hsegment, hname⟩)
  obtain ⟨filled, hfilled⟩ := exists_mapM_eq_ok.mpr hall
  exact ⟨join filled, by rw [render, hfilled]; rfl⟩

/-- Only the values of placeholders matter. -/
theorem render_of_agree {path : String} (h : t.render values = .ok path)
    (hagree : ∀ name ∈ t.parameters, values.get? name = values'.get? name) :
    t.render values' = .ok path := by
  obtain ⟨filled, hfilled, hjoin⟩ := bind_eq_ok.mp h
  have hsame : ∀ segment ∈ t.segments, segment.fill values = segment.fill values' :=
    fun segment hsegment => PathSegment.fill_congr fun name hname =>
      hagree name (mem_parameters.mpr ⟨segment, hsegment, hname⟩)
  have hboth := (List.forall₂_and_left _ _).mpr ⟨hsame, mapM_eq_ok.mp hfilled⟩
  have hfilled' := mapM_eq_ok.mpr (hboth.imp fun _ _ h => h.1.symm.trans h.2)
  exact bind_eq_ok.mpr ⟨filled, hfilled', hjoin⟩

/-- No segment of a template that was read holds a slash. -/
theorem notMem_of_mem_segments (h : parse text = .ok t) {segment : PathSegment}
    (hsegment : segment ∈ t.segments) : '/' ∉ segment.text.toList := by
  have hpiece : segment.text.toList ∈ written text := by
    rw [← map_text_of_parse h]
    exact List.mem_map_of_mem hsegment
  exact Text.notMem_of_mem_splitOn (mem_written.mp hpiece).1

/-- A path consists of one piece for each segment. -/
theorem splitOn_of_render {path : String} (h : parse text = .ok t) (hne : t.segments ≠ [])
    (hpath : t.render values = .ok path) :
    ∃ pieces, path.toList.splitOn '/' = [] :: pieces ∧
      List.Forall₂ (PathSegment.Fills values) t.segments pieces := by
  obtain ⟨filled, hfilled, hjoin⟩ := bind_eq_ok.mp hpath
  obtain rfl : join filled = path := Except.ok.inj hjoin
  have hall := mapM_eq_ok.mp hfilled
  have hfilledNe : filled ≠ [] := by
    rintro rfl
    exact hne (List.forall₂_nil_right_iff.mp hall)
  refine ⟨filled.map String.toList, ?_, ?_⟩
  · rw [toList_join, if_neg hfilledNe]
    refine Text.splitOn_flatMap (List.forall_mem_map.mpr fun piece hpiece => ?_)
    obtain ⟨segment, hsegment, hfill⟩ := exists_of_forall₂ hall hpiece
    exact PathSegment.notMem_of_fill (notMem_of_mem_segments h hsegment) hfill
  · rw [List.forall₂_map_right_iff]
    exact hall.imp fun _ _ => PathSegment.fills_of_fill

/-- What comes of a template and values for its placeholders. -/
structure Rendered (t : PathTemplate) (values : Table String String) : Prop where
  /-- There is a path unless a placeholder lacks a value. -/
  fails : (∃ e, t.render values = .error e) ↔ ∃ name ∈ t.parameters, values.get? name = none
  /-- The first such placeholder is reported. -/
  reports : ∀ e, t.render values = .error e →
    ∃ name, t.parameters.find? (values.get? · = none) = some name ∧
      e = .invalidRequest ("missing path parameter: " ++ name)
  /-- A path comes apart into the pieces that stand for the segments. -/
  splits : ∀ path, t.render values = .ok path →
    ∃ pieces, path.toList.splitOn '/' = [] :: pieces ∧
      List.Forall₂ (PathSegment.Fills values) t.segments pieces

theorem rendered (h : parse text = .ok t) (hne : t.segments ≠ []) : t.Rendered values := by
  cases hlacking : t.parameters.find? (values.get? · = none) with
  | none =>
    have hall : ∀ name ∈ t.parameters, values.get? name ≠ none := fun name hname hlacks =>
      List.find?_eq_none.mp hlacking name hname (decide_eq_true hlacks)
    obtain ⟨path, hpath⟩ := exists_render hall
    have hfine : ∀ e, t.render values ≠ .error e := fun e he => by
      rw [hpath] at he
      cases he
    exact ⟨iff_of_false (fun ⟨e, he⟩ => hfine e he) fun ⟨name, hname, hlacks⟩ =>
      hall name hname hlacks, fun e he => absurd he (hfine e), fun _ => splitOn_of_render h hne⟩
  | some name =>
    have hfailed := render_of_lacking hlacking
    have hlacks : values.get? name = none := by simpa using List.find?_some hlacking
    refine ⟨iff_of_true ⟨_, hfailed⟩ ⟨name, List.mem_of_find?_eq_some hlacking, hlacks⟩,
      fun e he => ⟨name, hlacking, ?_⟩, fun _ => splitOn_of_render h hne⟩
    rw [hfailed] at he
    exact (Except.error.inj he).symm

/-- Escapes confine a value to its piece of a path and can be read back. So all pieces and the
values of all placeholders are found in a path, and paths are equal if these values are. -/
theorem render_readsBack (h : parse text = .ok t) (hne : t.segments ≠ []) :
    (∀ values, t.Rendered values) ∧
      ∀ values values' : Table String String,
        (∃ path, t.render values = .ok path ∧ t.render values' = .ok path) ↔
          ∀ name ∈ t.parameters,
            ∃ value, values.get? name = some value ∧ values'.get? name = some value := by
  refine ⟨fun values => rendered h hne, fun values values' => ⟨?_, fun hagree => ?_⟩⟩
  · rintro ⟨path, hpath, hpath'⟩
    obtain ⟨pieces, hsplit, hfills⟩ := splitOn_of_render h hne hpath
    obtain ⟨pieces', hsplit', hfills'⟩ := splitOn_of_render h hne hpath'
    obtain rfl : pieces = pieces' := List.tail_eq_of_cons_eq (hsplit.symm.trans hsplit')
    exact PathSegment.get?_eq_of_fills hfills hfills'
  · have hgiven : ∀ name ∈ t.parameters, values.get? name ≠ none := by
      intro name hname hlacks
      obtain ⟨value, hvalue, -⟩ := hagree name hname
      rw [hlacks] at hvalue
      cases hvalue
    obtain ⟨path, hpath⟩ := exists_render hgiven
    refine ⟨path, hpath, render_of_agree hpath fun name hname => ?_⟩
    obtain ⟨value, hvalue, hvalue'⟩ := hagree name hname
    rw [hvalue, hvalue']

/-- A value with a slash, an escape and a blank in it is one piece of its path. -/
theorem render_readsBack_file :
    let files : PathTemplate := ⟨[.literal "files", .parameter "name", .parameter "part"]⟩
    let values : Table String String := .ofList [("name", "a/%2F é"), ("part", "")]
    parse "/files/\x7bname\x7d/\x7bpart\x7d/" = .ok files ∧ files.segments ≠ [] ∧
      files.render values = .ok "/files/a%2F%252F%20%C3%A9/" ∧
      ∃ pieces, "/files/a%2F%252F%20%C3%A9/".toList.splitOn '/' = [] :: pieces ∧
        List.Forall₂ (PathSegment.Fills values) files.segments pieces :=
  ⟨rfl, nofun, rfl,
    ((@render_readsBack "/files/\x7bname\x7d/\x7bpart\x7d/" _ rfl nofun).1 _).splits _ rfl⟩

end PathTemplate

end RpcPipeline
