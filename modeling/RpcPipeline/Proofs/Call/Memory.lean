import RpcPipeline.Call.Memory
import RpcPipeline.Proofs.Call.Storage

/-!
# `RpcPipeline.Proofs.Call.Memory`: an edit changes one collection of one request

A request holds four collections, and an edit concerns at most one of them. For the request at
hand it does what it does to a request that shares nothing. For all others it does nothing,
since the collection is in storage of its own by then. A collection that no edit has taken
effect on is still in the storage that it was in before.

* `Collection`: the four collections, and where each is found.
* `Edit.effect`: what an edit does to a collection, if it takes effect on it.
* `Edit.touched`, `Edit.after`: the same for edits in order.
* `edit_collection`: in memory, an edit sets what it takes effect on.
* `edits_edited`: what edits do to a request in memory, and to the others.
-/

set_option autoImplicit false

namespace RpcPipeline

/-! ### Collections -/

/-- The collections of a request. -/
inductive Collection where
  | path | query | headers | attachments

/-- What a collection consists of. -/
def Collection.Content : Collection → Type
  | .path => Table String String
  | .query => List (String × String)
  | .headers => Headers
  | .attachments => Attachments

instance : (k : Collection) → Inhabited k.Content
  | .path => inferInstanceAs (Inhabited (Table String String))
  | .query => inferInstanceAs (Inhabited (List (String × String)))
  | .headers => inferInstanceAs (Inhabited Headers)
  | .attachments => inferInstanceAs (Inhabited Attachments)

/-- The content of a collection of a request. -/
def Request.content (r : Request) : (k : Collection) → k.Content
  | .path => r.path.value
  | .query => r.query.value
  | .headers => r.headers.value
  | .attachments => r.attachments.value

/-- Whether two requests share the storage of a collection. -/
def Request.shares (a b : Request) : Collection → Bool
  | .path => a.path.same b.path
  | .query => a.query.same b.query
  | .headers => a.headers.same b.headers
  | .attachments => a.attachments.same b.attachments

theorem Request.sharesCollections_eq (a b : Request) :
    a.sharesCollections b = (a.shares b .path && a.shares b .query && a.shares b .headers) := rfl

/-- The handle of a request on a collection. -/
def RequestHandles.handle (r : RequestHandles) : Collection → Mark
  | .path => r.path
  | .query => r.query
  | .headers => r.headers
  | .attachments => r.attachments

/-- The storage of a collection. -/
def RequestMemory.storage (mem : RequestMemory) : (k : Collection) → Storage k.Content
  | .path => mem.paths
  | .query => mem.queries
  | .headers => mem.headers
  | .attachments => mem.attachments

namespace RequestMemory

variable (mem mem' : RequestMemory) (r r' : RequestHandles) (k : Collection)

@[simp] theorem content_view : (mem.view r).content k = (mem.storage k).read (r.handle k) := by
  cases k <;> rfl

@[simp] theorem shares_view :
    (mem.view r).shares (mem'.view r') k = decide (r.handle k = r'.handle k) := by
  cases k <;> rfl

/-- A request looks the same wherever its collections have the same content. -/
theorem view_congr {mem mem' : RequestMemory}
    (h : ∀ k, (mem'.storage k).read (r.handle k) = (mem.storage k).read (r.handle k)) :
    mem'.view r = mem.view r := by
  have hpath : mem'.paths.read r.path = mem.paths.read r.path := h .path
  have hquery : mem'.queries.read r.query = mem.queries.read r.query := h .query
  have hheaders : mem'.headers.read r.headers = mem.headers.read r.headers := h .headers
  have hattached : mem'.attachments.read r.attachments = mem.attachments.read r.attachments :=
    h .attachments
  rw [view, hpath, hquery, hheaders, hattached, view]

theorem storage_empty : empty.storage k = .empty := by cases k <;> rfl

theorem blank_collection :
    (mem.blank.1.handle k, mem.blank.2.storage k) = (mem.storage k).put default := by
  cases k <;> rfl

theorem storage_share : (mem.share r).storage k = (mem.storage k).share (r.handle k) := by
  cases k <;> rfl

theorem storage_release : (mem.release r).storage k = (mem.storage k).release (r.handle k) := by
  cases k <;> rfl

end RequestMemory

/-! ### Edits -/

namespace Edit

/-- What an edit makes of a collection, if it takes effect on it. -/
def effect : Edit → (k : Collection) → k.Content → Option k.Content
  | .path name value, .path, (c : Table String String) => some (c.insert name value)
  | .query name value, .query, (c : List (String × String)) => some (c ++ [(name, value)])
  | .unquery name, .query, (c : List (String × String)) =>
    if c.any (·.1 = name) then some (c.filter (·.1 ≠ name)) else none
  | .header name value, .headers, (c : Headers) => some (c.append name value)
  | .setHeader name value, .headers, (c : Headers) => some (c.set name value)
  | .attach a, .attachments, (c : Attachments) => some (c.attach a)
  | _, _, _ => none

/-- What edits make of a collection. -/
def after (k : Collection) (c : k.Content) : List Edit → k.Content
  | [] => c
  | e :: es => after k ((e.effect k c).getD c) es

/-- Whether one of the edits takes effect on a collection, as it is at that point. -/
def touched (k : Collection) (c : k.Content) : List Edit → Bool
  | [] => false
  | e :: es => (e.effect k c).isSome || touched k ((e.effect k c).getD c) es

end Edit

theorem Request.content_edit (mark : Mark) (r : Request) (e : Edit) (k : Collection) :
    (r.edit mark e).content k = (e.effect k (r.content k)).getD (r.content k) := by
  cases e with
  | unquery name =>
    rw [Request.edit]
    split
    · next hany =>
      cases k with
      | query =>
        have heffect : (Edit.unquery name).effect .query (r.content .query) =
            some (r.query.value.filter (·.1 ≠ name)) := if_pos hany
        rw [heffect]
        rfl
      | path | headers | attachments => rfl
    · next hnone =>
      cases k with
      | query =>
        have heffect : (Edit.unquery name).effect .query (r.content .query) = none := if_neg hnone
        rw [heffect]
        rfl
      | path | headers | attachments => rfl
  | _ => cases k <;> rfl

theorem Request.content_edits (mark : Mark) (r : Request) (es : List Edit) (k : Collection) :
    (r.edits mark es).content k = Edit.after k (r.content k) es := by
  induction es generalizing mark r with
  | nil => rfl
  | cons e es ih => rw [Request.edits, ih, Request.content_edit, Edit.after]

namespace RequestMemory

/-- In memory, an edit sets the collection that it takes effect on. -/
theorem edit_collection (mem : RequestMemory) (r : RequestHandles) (e : Edit) (k : Collection) :
    ((mem.edit r e).1.handle k, (mem.edit r e).2.storage k) =
      match e.effect k ((mem.storage k).read (r.handle k)) with
      | some c => (mem.storage k).set (r.handle k) c
      | none => (r.handle k, mem.storage k) := by
  cases e with
  | unquery name =>
    rw [edit]
    split
    · next hany =>
      cases k with
      | query =>
        have heffect : (Edit.unquery name).effect .query (mem.queries.read r.query) =
            some ((mem.queries.read r.query).filter (·.1 ≠ name)) := if_pos hany
        exact heffect ▸ rfl
      | path | headers | attachments => rfl
    · next hnone =>
      cases k with
      | query =>
        have heffect : (Edit.unquery name).effect .query (mem.queries.read r.query) = none :=
          if_neg hnone
        exact heffect ▸ rfl
      | path | headers | attachments => rfl
  | _ => cases k <;> rfl

/-- What has become of a collection that is edited through one handle, while other handles are
held. -/
structure Edited {τ : Type} [Inhabited τ] (others : List Mark) (before : Mark × Storage τ)
    (value : τ) (touched : Bool) (after : Mark × Storage τ) : Prop where
  holds : after.2.Holds (after.1 :: others)
  /-- The handle at hand is on what the edits have made. -/
  value : after.2.read after.1 = value
  /-- The others are on what they were on. -/
  spared : ∀ m ∈ others, after.2.read m = before.2.read m
  /-- What was changed is in storage of its own, -/
  apart : touched = true → after.1 ∉ others
  /-- and what was not is where it was. -/
  stays : touched = false → after.1 = before.1

variable {mem : RequestMemory} {r : RequestHandles} {k : Collection} {others : List Mark}

theorem edit_edited (h : (mem.storage k).Holds (r.handle k :: others)) (e : Edit) :
    Edited others (r.handle k, mem.storage k)
      ((e.effect k ((mem.storage k).read (r.handle k))).getD ((mem.storage k).read (r.handle k)))
      (e.effect k ((mem.storage k).read (r.handle k))).isSome
      ((mem.edit r e).1.handle k, (mem.edit r e).2.storage k) := by
  rw [edit_collection]
  cases e.effect k ((mem.storage k).read (r.handle k)) with
  | none => exact ⟨h, rfl, fun _ _ => rfl, fun htouched => (by cases htouched), fun _ => rfl⟩
  | some c =>
    obtain ⟨hholds, halone, hvalue, hspared⟩ := h.set c
    exact ⟨hholds, hvalue, hspared, fun _ => halone, fun huntouched => (by cases huntouched)⟩

/-- Edits in order. -/
theorem edits_edited (h : (mem.storage k).Holds (r.handle k :: others)) (es : List Edit) :
    Edited others (r.handle k, mem.storage k)
      (Edit.after k ((mem.storage k).read (r.handle k)) es)
      (Edit.touched k ((mem.storage k).read (r.handle k)) es)
      ((mem.edits r es).1.handle k, (mem.edits r es).2.storage k) := by
  induction es generalizing mem r with
  | nil => exact ⟨h, rfl, fun _ _ => rfl, fun htouched => (by cases htouched), fun _ => rfl⟩
  | cons e es ih =>
    have hfirst := edit_edited h e
    have hrest := ih hfirst.holds
    have hvalue := hfirst.value
    dsimp only at hvalue
    rw [hvalue] at hrest
    rw [edits, Edit.after, Edit.touched]
    refine ⟨hrest.holds, hrest.value, fun m hm => (hrest.spared m hm).trans (hfirst.spared m hm),
      fun htouched => ?_, fun huntouched => ?_⟩
    · cases hlater : Edit.touched k ((e.effect k ((mem.storage k).read (r.handle k))).getD
          ((mem.storage k).read (r.handle k))) es with
      | true => exact hrest.apart hlater
      | false =>
        -- Only the first edit has taken effect, and the others have left its storage alone.
        rw [hlater, Bool.or_false] at htouched
        rw [hrest.stays hlater]
        exact hfirst.apart htouched
    · rw [Bool.or_eq_false_iff] at huntouched
      exact (hrest.stays huntouched.2).trans (hfirst.stays huntouched.1)

end RequestMemory

end RpcPipeline
