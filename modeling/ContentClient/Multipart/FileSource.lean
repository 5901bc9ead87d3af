import ContentClient.Stream.Pipe
import ContentClient.Stream.Source

/-!
# Where the bytes of a file come from

A file is read from a medium that can be rewound, from one that is opened afresh for every pass, or
from a callback that writes it once. `FileSource.openStream` starts a pass over the file, and a
`FileStream` reads it. A stream over a shared medium reads through a handle, so reading it takes and
gives back the source.
-/

namespace ContentClient

/-- Where the bytes of a file come from. -/
inductive FileSource where
  /-- A medium that is rewound between passes. -/
  | seekable (shared : SharedSource)
  /-- A medium that is opened for every pass: what the opening with a number gives, and the number
  of openings so far. -/
  | reopened (openAt : Nat → Except IoError ByteSource) (opened : Nat)
  /-- A callback that writes the file, until it has run. -/
  | callback (script : Option Script)

/-- One pass over a file. -/
inductive FileStream where
  | shared (handle : SharedSource.Handle)
  | owned (source : ByteSource)
  | piped (pipe : Pipe)

namespace FileSource

/-- Starts a pass over the file, in which a callback's bytes come in chunks of one size. -/
def openStream (s : FileSource) (chunkSize : Nat) : Except IoError FileStream × FileSource :=
  match s with
  | .seekable shared => (.ok (.shared shared.handle), s)
  | .reopened openAt opened => ((openAt opened).map .owned, .reopened openAt (opened + 1))
  | .callback none => (.error .callbackConsumed, s)
  | .callback (some script) => (.ok (.piped (.ofScript script chunkSize)), .callback none)

/-- Makes the source ready for another pass. The result tells whether it can be read again. -/
def rewind (s : FileSource) : Except IoError Bool × FileSource :=
  match s with
  | .seekable shared =>
    let (result, shared) := shared.rewind
    (result.map fun _ => true, .seekable shared)
  | .reopened _ _ => (.ok true, s)
  | .callback _ => (.ok false, s)

/-- The source in diagnostics. -/
def describe (s : FileSource) : String :=
  let kind := match s with
    | .seekable _ => "seekable"
    | .reopened _ _ => "reopen"
    | .callback (some _) => "callback"
    | .callback none => "callback (consumed)"
  Text.Notation.record "FileSource" [("kind", Text.quoted kind)]

end FileSource

namespace FileStream

/-- Reads at most `size` bytes of a file. No byte marks the end. A handle is only ever used with the
source that made it. -/
def read (f : FileStream) (size : Nat) (source : FileSource) :
    Except IoError Bytes × FileStream × FileSource :=
  match f, source with
  | .shared handle, .seekable medium =>
    let (result, medium) := medium.read handle size
    (result, f, .seekable medium)
  | .shared _, source => (.error .superseded, f, source)
  | .owned bytes, source =>
    let (result, bytes) := bytes.read size
    (result, .owned bytes, source)
  | .piped pipe, source =>
    let (result, pipe) := pipe.read size
    (result, .piped pipe, source)

/-- A bound on the number of reads of a stream that hand over bytes. -/
def readBound (f : FileStream) (source : FileSource) : Nat :=
  match f, source with
  | .shared _, .seekable medium => medium.source.readBound
  | .shared _, _ => 0
  | .owned bytes, _ => bytes.readBound
  | .piped pipe, _ =>
    pipe.current.length + (pipe.pending.flatMap fun c => c.toOption.getD []).length

end FileStream

end ContentClient
