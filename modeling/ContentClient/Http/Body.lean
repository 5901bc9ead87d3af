import ContentClient.ApiError
import ContentClient.Multipart.Reader

/-!
# Request bodies

A body is prepared once for every attempt and reset between attempts. Preparing gives a
**delivery**, which the transport reads as far as it gets; resetting tells whether the body can be
sent again. A `Flow` is a delivery together with the body from which it reads.
-/

namespace ContentClient

/-- The body of a request. -/
inductive Body where
  | empty
  | bytes (content : Bytes)
  /-- A source that is rewound between attempts. -/
  | stream (shared : SharedSource)
  /-- A source that can be read once, until it has been used up. -/
  | oneShot (source : Option ByteSource)
  | multipart (encoder : MultipartEncoder)

/-- One pass over a body. -/
inductive Delivery where
  | fixed (rest : Bytes)
  | shared (handle : SharedSource.Handle)
  | owned (source : ByteSource)
  | multipart (reader : MultipartReader)

namespace Body

/-- Starts a pass over the body. A one-shot body is used up by it. -/
def prepare : Body → Except ApiError Delivery × Body
  | .empty => (.ok (.fixed []), .empty)
  | .bytes content => (.ok (.fixed content), .bytes content)
  | .stream shared => (.ok (.shared shared.handle), .stream shared)
  | .oneShot none => (.error (.configuration .oneShotConsumed), .oneShot none)
  | .oneShot (some source) => (.ok (.owned source), .oneShot none)
  | .multipart encoder =>
    let (reader, encoder) := encoder.reader
    ((reader.map Delivery.multipart).mapError ApiError.io, .multipart encoder)

/-- Makes the body ready for another pass. The result tells whether it can be sent again. -/
def reset : Body → Except IoError Bool × Body
  | .empty => (.ok true, .empty)
  | .bytes content => (.ok true, .bytes content)
  | .stream shared =>
    let (result, shared) := shared.rewind
    (result.map fun _ => true, .stream shared)
  | .oneShot source => (.ok false, .oneShot source)
  | .multipart encoder =>
    let (result, encoder) := encoder.rewind
    (result, .multipart encoder)

/-- The body in diagnostics. -/
def describe : Body → String
  | .empty => "Empty"
  | .bytes content => s!"Bytes({content.length} bytes)"
  | .stream _ => "Stream"
  | .oneShot source =>
    Text.Notation.tagged "OneShot" (if source.isSome then "ready" else "consumed")
  | .multipart encoder => Text.Notation.tagged "Multipart" encoder.describe

end Body

/-- A delivery, the body from which it reads, and the progress reported so far. -/
structure Flow where
  delivery : Delivery
  body : Body
  reports : List Report := []

namespace Flow

/-- Reads at most `size` bytes of the body. No byte marks the end. -/
def read (f : Flow) (size : Nat) : Except IoError Bytes × Flow :=
  match f.delivery, f.body with
  | .fixed rest, _ => (.ok (rest.take size), { f with delivery := .fixed (rest.drop size) })
  | .owned source, _ =>
    let (result, source) := source.read size
    (result, { f with delivery := .owned source })
  | .shared handle, .stream shared =>
    let (result, shared) := shared.read handle size
    (result, { f with body := .stream shared })
  | .multipart reader, .multipart encoder =>
    let step := reader.read size encoder.file.source
    (step.result,
      { delivery := .multipart step.reader
        body := .multipart (encoder.withSource step.source)
        reports := f.reports ++ step.reports })
  | _, _ => (.error .superseded, f)

/-- A bound on the number of reads that hand over bytes. -/
def readBound (f : Flow) : Nat :=
  match f.delivery, f.body with
  | .fixed rest, _ => rest.length
  | .owned source, _ => source.readBound
  | .shared _, .stream shared => shared.source.readBound
  | .multipart reader, .multipart encoder => reader.readBound encoder.file.source
  | _, _ => 0

/-- Reads until no byte comes, at most `rounds` times. -/
def readRounds (size : Nat) : (rounds : Nat) → Flow → Except IoError Bytes × Flow
  | 0, f => (.ok [], f)
  | rounds + 1, f =>
    match f.read size with
    | (.error e, f) => (.error e, f)
    | (.ok [], f) => (.ok [], f)
    | (.ok (b :: bytes), f) =>
      let (rest, f) := readRounds size rounds f
      (rest.map ((b :: bytes) ++ ·), f)

/-- Reads everything that is left, `size` bytes at a time. -/
def readAll (f : Flow) (size : Nat) : Except IoError Bytes × Flow :=
  f.readRounds size (f.readBound + 1)

end Flow

end ContentClient
