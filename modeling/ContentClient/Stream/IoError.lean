import ContentClient.Text.Quoted

/-!
# Failures of sources and sinks

A source or a sink fails with a kind and a text. The library itself raises the failures named at the
end; every other one comes from the medium.

Of the kinds, those are told apart that the library raises; what else a medium reports is `other`. A
write that is interrupted is repeated until it is not, so an interruption of a write is no failure
at all: a sink (`Sink.room`) is described by the writes that are not interrupted. Only a medium
interrupted without end would make a difference. Reads and flushes are not repeated, and fail when
they are interrupted.
-/

namespace ContentClient

/-- What sort of failure a source or a sink reports. -/
inductive IoErrorKind where
  /-- Any kind that is not told apart. -/
  | other
  | notFound
  | writeZero
  | brokenPipe
  deriving DecidableEq, Repr

/-- A failure of a source or a sink. -/
structure IoError where
  kind : IoErrorKind
  message : String
  deriving DecidableEq, Repr

/-- The name of a kind. -/
def IoErrorKind.name : IoErrorKind → String
  | .other => "Other"
  | .notFound => "NotFound"
  | .writeZero => "WriteZero"
  | .brokenPipe => "BrokenPipe"

namespace IoError

/-- A failure that only has a text. -/
def other (message : String) : IoError := ⟨.other, message⟩

/-- The failure in diagnostics. -/
def describe (e : IoError) : String :=
  Text.Notation.record "Custom" [("kind", e.kind.name), ("error", Text.quoted e.message)]

/-- A file that does not exist. -/
def missingFile : IoError := ⟨.notFound, "No such file or directory (os error 2)"⟩

/-- A sink that accepts no more bytes. -/
def wroteNothing : IoError := ⟨.writeZero, "failed to write whole buffer"⟩

/-- A writer whose reader has gone away. -/
def bodyDropped : IoError := ⟨.brokenPipe, "upload body was dropped"⟩

/-- A handle from before the last rewind of its source. -/
def superseded : IoError := .other "request body superseded by a retry"

/-- A callback that has run before. -/
def callbackConsumed : IoError := .other "upload callback was already consumed"

end IoError

end ContentClient
