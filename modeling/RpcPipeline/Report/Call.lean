import RpcPipeline.Call.Request
import RpcPipeline.Report.Basic

/-!
# `RpcPipeline.Report.Call`: reports of requests and their parts

A header value that is not printable is reported as its bytes. Headers come in
ascending order of their names.
-/

set_option autoImplicit false

namespace RpcPipeline

variable {α : Type}

/-- The report of a header value. -/
def HeaderValue.report (value : HeaderValue) : Value α :=
  match value.text? with
  | some s => .text s
  | none => .record [("bytes", .list (value.map fun b => .natural b.toNat))]

/-- The report of headers. -/
def Headers.report (headers : Headers) : Value α :=
  .list ((Table.ofList headers).entries.map fun (name, values) =>
    .list [.text name, .list (values.map HeaderValue.report)])

/-- The report of one item of a body. -/
def Chunk.report : Chunk → Value α
  | .data s => .text s
  | .broken message => .failure "io" message

/-- The report of attachments. -/
def Attachments.report (as : Attachments) : Value α :=
  .record
    [ ("len", .natural as.length), ("empty", .bool as.isEmpty),
      ("u32", .orNull (fun n => .natural n.toNat) as.word?),
      ("u8", .orNull (fun n => .natural n.toNat) as.octet?),
      ("string", .orNull .text as.text?),
      ("hint", .orNull (fun id => .text id.text) as.hint?),
      ("has_u32", .bool (as.has .word)) ]

/-- The report of a request body. -/
def RequestBody.report (b : RequestBody) : Value α :=
  .record
    [ ("content_type", .text b.contentType), ("repeatable", .bool b.isRepeatable),
      ("bytes",
        match b.content with
        | .bytes text => .text text
        | .stream _ _ => .null) ]

/-- The parts of the report of a request. -/
def Request.reportParts (r : Request) : List (String × Value α) :=
  [ ("path", .record (r.path.value.entries.map fun (k, v) => (k, .text v))),
    ("query", .list (r.query.value.map fun (k, v) => .texts [k, v])),
    ("headers", r.headers.value.report),
    ("body", .orNull RequestBody.report r.body),
    ("replayable", .bool r.isReplayable),
    ("attachments", r.attachments.value.report) ]

end RpcPipeline
