import RpcPipeline.Call.Memory

/-!
# `RpcPipeline.Scenario.Requests`: requests that derive from each other

A store of requests under names. Each is built from a stored one or from nothing, and takes
the place of the one that had its name. Bodies that come as streams are taken out of the store
at most once, whichever of the requests that share a stream is asked for it.

* `RequestStore.build`: derives a request and stores it.
* `RequestStore.takeStream`: takes the body of a request.
* `AttachmentStore`: the same for attachments alone.
-/

set_option autoImplicit false

namespace RpcPipeline

/-- Requests under names. -/
structure RequestStore where
  memory : RequestMemory
  slots : Table String RequestHandles
  /-- The streams that were taken. -/
  taken : List Mark

namespace RequestStore

/-- The store without requests. -/
def empty : RequestStore := ⟨.empty, {}, []⟩

/-- The stored requests. -/
def requests (s : RequestStore) : Table String Request := s.slots.map s.memory.view

/-- What a build starts from: a stored request, held once more, or a blank one. -/
def start (s : RequestStore) (from? : Option String) : RequestHandles × RequestMemory :=
  match from?.bind s.slots.get? with
  | some origin => (origin, s.memory.share origin)
  | none => s.memory.blank

/-- Stores a request under a name, and lets go of the one that had the name. -/
def store (s : RequestStore) (name : String) (r : RequestHandles) : RequestStore :=
  let slots := s.slots.insert name r
  match s.slots.get? name with
  | some older => { s with slots, memory := s.memory.release older }
  | none => { s with slots }

/-- Derives a request and stores it. -/
def build (s : RequestStore) (name : String) (from? : Option String) (es : List Edit) :
    Request × RequestStore :=
  let (r, memory) := s.start from?
  let (r, memory) := memory.edits r es
  (memory.view r, { s with memory }.store name r)

/-- The names of the stored requests that a test picks, in ascending order. -/
def namesOf (s : RequestStore) (p : Request → Bool) : List String :=
  (s.requests.filter fun _ r => p r).keys

/-- Takes the body of a request: bytes come anew each time, a stream once. -/
def takeStream (s : RequestStore) (r : Request) : Option (List Chunk) × RequestStore :=
  match r.body.map RequestBody.content with
  | none => (none, s)
  | some (.bytes text) => (some [.data text], s)
  | some (.stream mark chunks) =>
    if s.taken.contains mark then (none, s)
    else (some chunks, { s with taken := mark :: s.taken })

end RequestStore

/-- Attachments under names, each name with an empty set from the start. -/
structure AttachmentStore where
  storage : Storage Attachments
  slots : Table String Mark

namespace AttachmentStore

/-- The store without names. -/
def empty : AttachmentStore := ⟨.empty, {}⟩

/-- The attachments that a handle is on. -/
def view (s : AttachmentStore) (m : Mark) : Shared Attachments := ⟨m, s.storage.read m⟩

/-- Gives a name a handle, and takes back the one that it had. -/
def store (s : AttachmentStore) (name : String) (m : Mark) : AttachmentStore :=
  let slots := s.slots.insert name m
  match s.slots.get? name with
  | some older => ⟨s.storage.release older, slots⟩
  | none => { s with slots }

/-- Makes a name known: its handle. -/
def handle (s : AttachmentStore) (name : String) : Mark × AttachmentStore :=
  match s.slots.get? name with
  | some m => (m, s)
  | none =>
    let (m, storage) := s.storage.put []
    (m, ⟨storage, s.slots.insert name m⟩)

/-- Makes a name known: its attachments. -/
def touch (s : AttachmentStore) (name : String) : Shared Attachments × AttachmentStore :=
  let (m, s) := s.handle name
  (s.view m, s)

/-- Changes the attachments of a name, which holds them by a handle. -/
def change (s : AttachmentStore) (name : String) (m : Mark) (as : Attachments) :
    AttachmentStore :=
  let (m, storage) := s.storage.set m as
  ⟨storage, s.slots.insert name m⟩

/-- Attaches a value. -/
def insert (s : AttachmentStore) (name : String) (a : Attachment) : AttachmentStore :=
  let (m, s) := s.handle name
  s.change name m ((s.storage.read m).attach a)

/-- Removes the attachment of a kind, and says whether there was one. -/
def remove (s : AttachmentStore) (name : String) (kind : Attachment.Kind) :
    Bool × AttachmentStore :=
  let (m, s) := s.handle name
  let as := s.storage.read m
  if as.has kind then (true, s.change name m (as.without kind)) else (false, s)

/-- Lets a name share the attachments of another, or gives it an empty set if the
other is unknown. -/
def share (s : AttachmentStore) (name other : String) : AttachmentStore :=
  let (m, storage) := match s.slots.get? other with
    | some m => (m, s.storage.share m)
    | none => s.storage.put []
  { s with storage }.store name m

/-- The names whose attachments share storage with given ones, in ascending
order. -/
def sharing (s : AttachmentStore) (as : Shared Attachments) : List String :=
  (s.slots.filter fun _ m => (s.view m).same as).keys

end AttachmentStore

end RpcPipeline
