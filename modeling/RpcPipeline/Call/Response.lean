import RpcPipeline.Call.Error
import RpcPipeline.Call.Request

/-!
# `RpcPipeline.Call.Response`: responses and their bodies

A response has a status, headers and a body. The body is open until it is
closed, read to its end as a whole, or dropped; then, and only then, its closing
hooks run, each once and in the order in which they were registered. Reading a
body chunk by chunk closes nothing, not even at the end.

Every end of a body comes down to `Body.release`, which takes the hooks out and
runs them. A body that is closed is released twice, since it is dropped right
after; the second time there are no hooks left.

* `Closing`: hooks, one in front of the other.
* `Body.next`, `Body.consume`, `Body.close`, `Body.drop`: using a body.
* `Response.isOverloaded`, `Response.isSuccess`: reading a status.
* `Reception`: a response in the hands of a caller, with the hooks run so far.
* `Outcome`: what the result of a call says about its host.
-/

set_option autoImplicit false

namespace RpcPipeline

/-- What is to be done when a body is closed: hooks of any type `η`. -/
inductive Closing (η : Type) where
  | one (hook : η)
  /-- What was registered earlier comes first. -/
  | behind (earlier : Closing η) (hook : η)
  deriving Repr

/-- The hooks that run, in order. -/
def Closing.run {η : Type} : Closing η → List η
  | .one hook => [hook]
  | .behind earlier hook => earlier.run ++ [hook]

/-- A response body. -/
structure Body (η : Type) where
  /-- What is left to read; nothing if the body was empty from the start. -/
  stream : Option (List Chunk)
  /-- What is to be done when the body is closed. -/
  closing : Option (Closing η)
  deriving Repr

namespace Body

variable {η : Type}

/-- A body without content. -/
def empty : Body η := ⟨none, none⟩

/-- A body of one chunk. -/
def ofText (text : String) : Body η := ⟨some [.data text], none⟩

/-- A body that comes in chunks. -/
def ofChunks (chunks : List Chunk) : Body η := ⟨some chunks, none⟩

/-- Registers a hook behind those registered before. -/
def onClose (b : Body η) (hook : η) : Body η :=
  match b.closing with
  | some earlier => { b with closing := some (.behind earlier hook) }
  | none => { b with closing := some (.one hook) }

/-- Reads one chunk; none at the end. -/
def next (b : Body η) : Option Chunk × Body η :=
  match b.stream with
  | some (chunk :: rest) => (some chunk, { b with stream := some rest })
  | _ => (none, b)

/-- The text of chunks up to their end, or the message of the first break. -/
def collect : List Chunk → Except String String
  | [] => .ok ""
  | .data text :: rest => (collect rest).map (text ++ ·)
  | .broken message :: _ => .error message

/-- Reads what is left as a whole. -/
def read (b : Body η) : Except String String := collect (b.stream.getD [])

/-- Lets go of what is left to read and takes the hooks out: the hooks that run, and
the body without them. -/
def release (b : Body η) : List η × Body η :=
  ((b.closing.map Closing.run).getD [], { b with stream := none, closing := none })

/-- Drops the body: the hooks that run. -/
def drop (b : Body η) : List η := b.release.1

/-- Closes the body, which is dropped then: the hooks that run. -/
def close (b : Body η) : List η :=
  let (ran, b) := b.release
  ran ++ b.drop

/-- Reads what is left as a whole, and the hooks that run. After a break the body is
dropped, and otherwise it is closed. -/
def consume (b : Body η) : Except String String × List η :=
  match b.read with
  | .ok text => (.ok text, b.close)
  | .error message => (.error message, b.drop)

/-- A body as debug texts show it. -/
def debugText (b : Body η) : String :=
  Text.record "ResponseBody"
    [("open", toString b.stream.isSome), ("has_on_close", toString b.closing.isSome)]

end Body

/-- A response. -/
structure Response (η : Type) where
  status : Nat
  headers : Headers
  body : Body η
  deriving Repr

namespace Response

variable {η : Type}

/-- Whether a number is a status. -/
def isStatus (n : Nat) : Bool := 100 ≤ n && n ≤ 999

/-- Whether the host asks to be left alone for a while. -/
def isOverloaded (r : Response η) : Bool := r.status = 429 || r.status = 503

/-- Whether the host failed to serve the call. -/
def isServerError (r : Response η) : Bool := 500 ≤ r.status && r.status ≤ 599

/-- Whether the call was served. -/
def isSuccess (r : Response η) : Bool := 200 ≤ r.status && r.status ≤ 299

/-- Closes the response without reading it: the hooks that run. -/
def close (r : Response η) : List η := r.body.close

/-- The response with its body replaced by a function of it. -/
def mapBody (f : Body η → Body η) (r : Response η) : Response η := { r with body := f r.body }

/-- A response as debug texts show it. -/
def debugText (r : Response η) : String :=
  Text.record "Response"
    [ ("status", toString r.status), ("headers", r.headers.debugText),
      ("body", r.body.debugText) ]

end Response

/-- A caller's hold on a response: on the whole of it, on its body alone, or on
nothing any more. -/
inductive Hold (η : Type) where
  | response (r : Response η)
  | body (b : Body η)
  | nothing
  deriving Repr

/-- A response in the hands of a caller, and the closing hooks run so far. -/
structure Reception (η : Type) where
  hold : Hold η
  ran : List η
  deriving Repr

namespace Reception

variable {η : Type}

/-- A response just received. -/
def ofResponse (r : Response η) : Reception η := ⟨.response r, []⟩

/-- The body, wherever it is held. -/
def body? (r : Reception η) : Option (Body η) :=
  match r.hold with
  | .response r => some r.body
  | .body b => some b
  | .nothing => none

/-- Registers a hook with the body, wherever it is held. -/
def onClose (r : Reception η) (hook : η) : Reception η :=
  match r.hold with
  | .response resp => { r with hold := .response (resp.mapBody (·.onClose hook)) }
  | .body b => { r with hold := .body (b.onClose hook) }
  | .nothing => r

/-- Drops the response or body. -/
def letGo (r : Reception η) : Reception η :=
  ⟨.nothing, r.ran ++ (r.body?.map Body.drop).getD []⟩

/-- Closes the response or body. -/
def close (r : Reception η) : Reception η :=
  ⟨.nothing, r.ran ++ (r.body?.map Body.close).getD []⟩

/-- Detaches the body. A body detached before is let go. -/
def intoBody (r : Reception η) : Reception η :=
  match r.hold with
  | .response resp => { r with hold := .body resp.body }
  | _ => r.letGo

/-- Reads one chunk of a detached body: nothing if none is held, else a chunk or
the end. -/
def next (r : Reception η) : Option (Option Chunk) × Reception η :=
  match r.hold with
  | .body b =>
    let (chunk, b) := b.next
    (some chunk, { r with hold := .body b })
  | _ => (none, r)

/-- Reads what is left. -/
def read (r : Reception η) : Option (Except String String) × Reception η :=
  let read := r.body?.map Body.consume
  (read.map (·.1), ⟨.nothing, r.ran ++ (read.map (·.2)).getD []⟩)

/-- What is held, as debug texts show it. -/
def debugText (r : Reception η) : Option String :=
  match r.hold with
  | .response resp => some resp.debugText
  | .body b => some b.debugText
  | .nothing => none

end Reception

/-- The result of a call. -/
abbrev CallResult (η : Type) := Except CallError (Response η)

/-- What the result of a call says about the host that was called. -/
inductive Outcome where
  /-- The host served the call, if only to refuse it. -/
  | success
  /-- The host asked to be left alone for a while. -/
  | overloaded
  /-- The host could not be reached or broke off. -/
  | hostFailure
  /-- The host failed to serve the call. -/
  | serverError
  /-- Nothing about the host. -/
  | ignored
  deriving Repr, DecidableEq

namespace Outcome

/-- What a result says about the host. -/
def classify {η : Type} : CallResult η → Outcome
  | .ok r => if r.isOverloaded then overloaded else if r.isServerError then serverError else success
  | .error e => if e.isHostFailure then hostFailure else ignored

/-- Whether a caller that sticks to the host should leave it. -/
def isFailure : Outcome → Bool
  | overloaded | hostFailure | serverError => true
  | success | ignored => false

end Outcome

end RpcPipeline
