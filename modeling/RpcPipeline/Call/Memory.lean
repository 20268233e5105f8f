import RpcPipeline.Call.Storage

/-!
# `RpcPipeline.Call.Memory`: requests that share their collections

Each collection of a request is held by a handle. A request that is derived from another one
begins with handles on the same collections, and an edit changes a collection for the request
at hand only. How many requests hold a collection decides whether it is copied for that.

* `RequestHandles`, `RequestMemory`: requests, and the collections that they hold.
* `RequestMemory.blank`, `RequestMemory.share`: what a derivation starts from.
* `RequestMemory.edit`, `RequestMemory.edits`: what edits do.
* `RequestMemory.view`: the request that is held.
-/

set_option autoImplicit false

namespace RpcPipeline

/-- A request, with handles on its collections. -/
structure RequestHandles where
  path : Mark
  query : Mark
  headers : Mark
  body : Option RequestBody
  attachments : Mark
  deriving Repr

/-- The collections of requests. -/
structure RequestMemory where
  paths : Storage (Table String String)
  queries : Storage (List (String × String))
  headers : Storage Headers
  attachments : Storage Attachments
  /-- The mark of the next stream. -/
  streams : Mark
  deriving Repr

namespace RequestMemory

/-- The memory without requests. -/
def empty : RequestMemory := ⟨.empty, .empty, .empty, .empty, 0⟩

/-- A request without content, in storage of its own. -/
def blank (mem : RequestMemory) : RequestHandles × RequestMemory :=
  let (path, paths) := mem.paths.put {}
  let (query, queries) := mem.queries.put []
  let (fields, headers) := mem.headers.put []
  let (attached, attachments) := mem.attachments.put []
  (⟨path, query, fields, none, attached⟩, { mem with paths, queries, headers, attachments })

/-- Holds a request once more. -/
def share (mem : RequestMemory) (r : RequestHandles) : RequestMemory :=
  { mem with
    paths := mem.paths.share r.path
    queries := mem.queries.share r.query
    headers := mem.headers.share r.headers
    attachments := mem.attachments.share r.attachments }

/-- Lets go of a request. -/
def release (mem : RequestMemory) (r : RequestHandles) : RequestMemory :=
  { mem with
    paths := mem.paths.release r.path
    queries := mem.queries.release r.query
    headers := mem.headers.release r.headers
    attachments := mem.attachments.release r.attachments }

/-- Changes the query of a request. -/
def setQuery (mem : RequestMemory) (r : RequestHandles) (query : List (String × String)) :
    RequestHandles × RequestMemory :=
  let (query, queries) := mem.queries.set r.query query
  ({ r with query }, { mem with queries })

/-- Changes the headers of a request. -/
def setHeaders (mem : RequestMemory) (r : RequestHandles) (fields : Headers) :
    RequestHandles × RequestMemory :=
  let (fields, headers) := mem.headers.set r.headers fields
  ({ r with headers := fields }, { mem with headers })

/-- Applies an edit to a request. -/
def edit (mem : RequestMemory) (r : RequestHandles) : Edit → RequestHandles × RequestMemory
  | .path name value =>
    let (path, paths) := mem.paths.set r.path ((mem.paths.read r.path).insert name value)
    ({ r with path }, { mem with paths })
  | .query name value => mem.setQuery r (mem.queries.read r.query ++ [(name, value)])
  | .unquery name =>
    if (mem.queries.read r.query).any (·.1 = name) then
      mem.setQuery r ((mem.queries.read r.query).filter (·.1 ≠ name))
    else (r, mem)
  | .header name value => mem.setHeaders r ((mem.headers.read r.headers).append name value)
  | .setHeader name value => mem.setHeaders r ((mem.headers.read r.headers).set name value)
  | .bytes contentType text => ({ r with body := some ⟨contentType, .bytes text⟩ }, mem)
  | .stream contentType chunks =>
    ({ r with body := some ⟨contentType, .stream mem.streams chunks⟩ },
      { mem with streams := mem.streams + 1 })
  | .attach a =>
    let (attached, attachments) :=
      mem.attachments.set r.attachments ((mem.attachments.read r.attachments).attach a)
    ({ r with attachments := attached }, { mem with attachments })

/-- Applies edits in order. -/
def edits (mem : RequestMemory) (r : RequestHandles) : List Edit → RequestHandles × RequestMemory
  | [] => (r, mem)
  | e :: es =>
    let (r, mem) := mem.edit r e
    mem.edits r es

/-- The request that is held. -/
def view (mem : RequestMemory) (r : RequestHandles) : Request :=
  { path := ⟨r.path, mem.paths.read r.path⟩
    query := ⟨r.query, mem.queries.read r.query⟩
    headers := ⟨r.headers, mem.headers.read r.headers⟩
    body := r.body
    attachments := ⟨r.attachments, mem.attachments.read r.attachments⟩ }

end RequestMemory

end RpcPipeline
