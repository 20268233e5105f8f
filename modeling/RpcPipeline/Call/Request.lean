import RpcPipeline.Call.Header
import RpcPipeline.Hosts.Id
import RpcPipeline.Table

/-!
# `RpcPipeline.Call.Request`: requests and how they derive from each other

A request carries path parameters, query parameters, headers, a body and
attachments. Requests do not change: a new one is derived from an old one by
edits. A collection that no edit touches stays in the storage it shares with the
old request; the first edit that takes effect moves it to storage of its own.
Which storage a collection lives in is a `Mark`, so that sharing is visible in
the value itself.

* `Request.blank`: a request without content, in storage of its own.
* `Edit`, `Request.edit`: the edits and what they do.
* `Request.sharesCollections`, `Shared.same`: which requests share storage.
* `Request.isReplayable`: whether a request can be sent again.
-/

set_option autoImplicit false

namespace RpcPipeline

/-- Marks tell storages apart. -/
abbrev Mark := Nat

/-- A collection and the storage it lives in. -/
structure Shared (τ : Type) where
  mark : Mark
  value : τ
  deriving Repr, DecidableEq

/-- Whether two collections live in the same storage. -/
def Shared.same {τ : Type} (a b : Shared τ) : Bool := a.mark = b.mark

/-- A value attached to a request. The kinds keep apart. -/
inductive Attachment where
  | word (n : UInt32)
  | octet (n : UInt8)
  | text (s : String)
  /-- Asks for the call to go to one host. -/
  | hint (id : HostId)
  deriving Repr, DecidableEq

/-- The kinds of attachments. -/
inductive Attachment.Kind where
  | word | octet | text | hint
  deriving Repr, DecidableEq

/-- The kind of an attachment. -/
def Attachment.kind : Attachment → Attachment.Kind
  | .word _ => .word
  | .octet _ => .octet
  | .text _ => .text
  | .hint _ => .hint

/-- Attachments, at most one of each kind. -/
abbrev Attachments := List Attachment

namespace Attachments

/-- The attachments without those of a kind. -/
def without (kind : Attachment.Kind) (as : Attachments) : Attachments :=
  as.filter (·.kind ≠ kind)

/-- The attachments with one added, in place of any of its kind. -/
def attach (a : Attachment) (as : Attachments) : Attachments := a :: as.without a.kind

/-- Whether there is an attachment of a kind. -/
def has (kind : Attachment.Kind) (as : Attachments) : Bool := as.any (·.kind = kind)

/-- The attached 32-bit number. -/
def word? (as : Attachments) : Option UInt32 :=
  as.findSome? fun | .word n => some n | _ => none

/-- The attached 8-bit number. -/
def octet? (as : Attachments) : Option UInt8 :=
  as.findSome? fun | .octet n => some n | _ => none

/-- The attached text. -/
def text? (as : Attachments) : Option String :=
  as.findSome? fun | .text s => some s | _ => none

/-- The host that the call is asked to go to. -/
def hint? (as : Attachments) : Option HostId :=
  as.findSome? fun | .hint id => some id | _ => none

/-- Attachments as debug texts show them. -/
def debugText (as : Attachments) : String :=
  Text.record "Attachments" [("len", toString as.length)]

end Attachments

/-- One item of a body that comes as a stream. -/
inductive Chunk where
  | data (text : String)
  /-- The stream breaks here. -/
  | broken (message : String)
  deriving Repr, DecidableEq

/-- What a request body consists of. -/
inductive RequestContent where
  /-- Bytes, which can be sent any number of times. -/
  | bytes (text : String)
  /-- A stream, which can be taken once. Requests derived from each other share
  it, which its mark tells. -/
  | stream (mark : Mark) (chunks : List Chunk)
  deriving Repr, DecidableEq

/-- A request body. -/
structure RequestBody where
  contentType : String
  content : RequestContent
  deriving Repr, DecidableEq

namespace RequestBody

/-- Whether the body can be sent more than once. -/
def isRepeatable (b : RequestBody) : Bool :=
  match b.content with
  | .bytes _ => true
  | .stream _ _ => false

/-- A body as debug texts show it. -/
def debugText (b : RequestBody) : String :=
  Text.record "RequestBody" <|
    ("content_type", Text.quote b.contentType) ::
      match b.content with
      | .bytes text => [("len", toString text.utf8ByteSize)]
      | .stream _ _ => [("streaming", "true")]

end RequestBody

/-- A request. -/
structure Request where
  path : Shared (Table String String)
  query : Shared (List (String × String))
  headers : Shared Headers
  body : Option RequestBody
  attachments : Shared Attachments
  deriving Repr, DecidableEq

/-- A step in deriving a request from another. -/
inductive Edit where
  | path (name value : String)
  | query (name value : String)
  /-- Removes every value of a query parameter. -/
  | unquery (name : String)
  /-- Adds a header value. -/
  | header (name : String) (value : HeaderValue)
  /-- Replaces every value of a header. -/
  | setHeader (name : String) (value : HeaderValue)
  | bytes (contentType text : String)
  | stream (contentType : String) (chunks : List Chunk)
  | attach (a : Attachment)
  deriving Repr, DecidableEq

namespace Request

/-- A request without content. It takes four marks, from `mark` on. -/
def blank (mark : Mark) : Request :=
  { path := ⟨mark, {}⟩, query := ⟨mark + 1, []⟩, headers := ⟨mark + 2, []⟩, body := none,
    attachments := ⟨mark + 3, []⟩ }

/-- The number of marks that `blank` takes. -/
def blankMarks : Nat := 4

/-- Applies an edit. A collection that is really changed goes to the storage
`mark`, which nothing else lives in. -/
def edit (mark : Mark) (r : Request) : Edit → Request
  | .path name value => { r with path := ⟨mark, r.path.value.insert name value⟩ }
  | .query name value => { r with query := ⟨mark, r.query.value ++ [(name, value)]⟩ }
  | .unquery name =>
    if r.query.value.any (·.1 = name) then
      { r with query := ⟨mark, r.query.value.filter (·.1 ≠ name)⟩ }
    else r
  | .header name value => { r with headers := ⟨mark, r.headers.value.append name value⟩ }
  | .setHeader name value => { r with headers := ⟨mark, r.headers.value.set name value⟩ }
  | .bytes contentType text => { r with body := some ⟨contentType, .bytes text⟩ }
  | .stream contentType chunks => { r with body := some ⟨contentType, .stream mark chunks⟩ }
  | .attach a => { r with attachments := ⟨mark, r.attachments.value.attach a⟩ }

/-- Applies edits in order, each with a mark of its own from `mark` on. -/
def edits (mark : Mark) (r : Request) : List Edit → Request
  | [] => r
  | e :: es => edits (mark + 1) (r.edit mark e) es

/-- The request that edits make of a blank one. -/
def ofEdits (es : List Edit) : Request := (blank 0).edits blankMarks es

/-- The values of a query parameter, in order. -/
def queryValues (r : Request) (name : String) : List String :=
  r.query.value.filterMap fun (k, v) => if k = name then some v else none

/-- Whether a request can be sent again after a failed attempt. -/
def isReplayable (r : Request) : Bool :=
  match r.body with
  | some body => body.isRepeatable
  | none => true

/-- Whether two requests share the storage of path, query and headers. -/
def sharesCollections (a b : Request) : Bool :=
  a.path.same b.path && a.query.same b.query && a.headers.same b.headers

/-- A request as debug texts show it. -/
def debugText (r : Request) : String :=
  Text.record "Request"
    [ ("path_params",
        Text.map (r.path.value.entries.map fun (k, v) => (Text.quote k, Text.quote v))),
      ("query_params",
        Text.list (r.query.value.map fun (k, v) => Text.pair (Text.quote k) (Text.quote v))),
      ("headers", toString r.headers.value.count),
      ("body", Text.option (r.body.map RequestBody.debugText)),
      ("attachments", r.attachments.value.debugText) ]

end Request

end RpcPipeline
