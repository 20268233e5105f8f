import RpcPipeline.Call.Error
import RpcPipeline.Table
import RpcPipeline.Text.Percent
import RpcPipeline.Text.Pieces

/-!
# `RpcPipeline.Call.Template`: path templates

A path template is a path of which some segments are placeholders:
`/catalog/{id}/items`. A segment is either free of braces, or it is a name
without braces between an opening and a closing brace. Empty segments are
dropped.

* `PathTemplate.parse`: reads a template.
* `PathTemplate.text`: writes it back.
* `PathTemplate.render`: the path for given values, each confined to its segment
  by percent escapes.
-/

set_option autoImplicit false

namespace RpcPipeline

/-- One segment of a path template. -/
inductive PathSegment where
  /-- Text that stands for itself. -/
  | literal (text : String)
  /-- A placeholder. -/
  | parameter (name : String)
  deriving Repr, DecidableEq

/-- A path with placeholders. -/
structure PathTemplate where
  segments : List PathSegment
  deriving Repr, DecidableEq

namespace PathTemplate

/-- Whether a character is a brace. -/
def isBrace (c : Char) : Bool := c = '\x7b' || c = '\x7d'

/-- The name in a piece that starts with an opening and ends with a closing
brace: what stands between the two. -/
def braced? : List Char → Option (List Char)
  | '\x7b' :: rest => if rest.getLast? = some '\x7d' then some rest.dropLast else none
  | _ => none

/-- Reads one piece. -/
def parseSegment (piece : List Char) : Except CallError PathSegment :=
  match braced? piece with
  | some name =>
    if name.isEmpty || name.any isBrace then
      .error (.invalidRequest ("invalid path parameter segment: " ++ String.ofList piece))
    else .ok (.parameter (String.ofList name))
  | none =>
    if piece.any isBrace then
      .error (.invalidRequest ("unbalanced braces in path segment: " ++ String.ofList piece))
    else .ok (.literal (String.ofList piece))

/-- Reads a template. The first bad segment is reported. -/
def parse (text : String) : Except CallError PathTemplate := do
  let segments ← ((Text.pieces (· = '/') text.toList).filter (! ·.isEmpty)).mapM parseSegment
  return ⟨segments⟩

end PathTemplate

/-- A segment as it stands in a template. -/
def PathSegment.text : PathSegment → String
  | .literal text => text
  | .parameter name => "\x7b" ++ name ++ "\x7d"

namespace PathTemplate

/-- A path made of segments: each behind a slash, or a lone slash. -/
def join (segments : List String) : String :=
  if segments.isEmpty then "/" else String.join (segments.map ("/" ++ ·))

/-- Writes a template. -/
def text (t : PathTemplate) : String := join (t.segments.map PathSegment.text)

end PathTemplate

/-- A segment with the value of its placeholder filled in. -/
def PathSegment.fill (values : Table String String) : PathSegment → Except CallError String
  | .literal text => .ok text
  | .parameter name =>
    match values.get? name with
    | some value => .ok (Text.Percent.encode Text.Percent.inPathValue value)
    | none => .error (.invalidRequest ("missing path parameter: " ++ name))

/-- The path for given values. The first placeholder without value is
reported. -/
def PathTemplate.render (t : PathTemplate) (values : Table String String) :
    Except CallError String := do
  return PathTemplate.join (← t.segments.mapM (PathSegment.fill values))

end RpcPipeline
