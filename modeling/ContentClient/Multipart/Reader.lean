import ContentClient.Multipart.Encoder

/-!
# Reading a multipart body

A `MultipartReader` hands a body over piece by piece: the head, then the file, then the tail. A read
never goes across two of them, and takes no more of the file than a chunk. Progress is reported for
every piece of the file.
-/

namespace ContentClient

/-- Which piece of a body comes next. -/
inductive MultipartStage where
  | head
  | file
  | tail
  deriving DecidableEq, Repr

/-- A body that is being read. The file in it is read from a source that is kept elsewhere. -/
structure MultipartReader where
  /-- What is left of the head. -/
  head : Bytes
  file : FileStream
  /-- What is left of the tail. -/
  tail : Bytes := Multipart.tail
  stage : MultipartStage := .head
  chunkSize : Nat
  /-- The bytes of the file handed over so far. -/
  written : Nat := 0
  /-- The declared size of the file. -/
  total : Nat
  observed : Bool

namespace MultipartReader

/-- What a read gives: its bytes, the reports it makes, and the new states of the reader and of the
file source. -/
structure Step where
  result : Except IoError Bytes
  reports : List Report := []
  reader : MultipartReader
  source : FileSource

/-- Reads from the tail. -/
def readTail (r : MultipartReader) (size : Nat) (source : FileSource) : Step :=
  { result := .ok (r.tail.take size)
    reader := { r with stage := .tail, tail := r.tail.drop size }
    source := source }

/-- Reads from the file, and from the tail once the file has ended. -/
def readFile (r : MultipartReader) (size : Nat) (source : FileSource) : Step :=
  match r.file.read (min size r.chunkSize) source with
  | (.error e, file, source) =>
    { result := .error e, reader := { r with stage := .file, file := file }, source := source }
  | (.ok [], file, source) => ({ r with file := file }).readTail size source
  | (.ok (b :: bytes), file, source) =>
    let written := r.written + (b :: bytes).length
    { result := .ok (b :: bytes)
      reports := if r.observed then [(written, r.total)] else []
      reader := { r with stage := .file, file := file, written := written }
      source := source }

/-- Reads into a buffer of `size` bytes. An empty buffer changes nothing. -/
def read (r : MultipartReader) (size : Nat) (source : FileSource) : Step :=
  if size = 0 then { result := .ok [], reader := r, source := source }
  else
    match r.stage with
    | .head =>
      if r.head.isEmpty then r.readFile size source
      else
        { result := .ok (r.head.take size), reader := { r with head := r.head.drop size }
          source := source }
    | .file => r.readFile size source
    | .tail => r.readTail size source

/-- A bound on the number of reads that hand over bytes. -/
def readBound (r : MultipartReader) (source : FileSource) : Nat :=
  r.head.length + r.file.readBound source + r.tail.length

/-- The end of a run of reads: the pieces that they handed over, whether the last of them failed,
and all that changed. -/
structure Pass where
  pieces : List Bytes := []
  result : Except IoError Unit := .ok ()
  reports : List Report := []
  reader : MultipartReader
  source : FileSource

/-- Reads until no byte comes, at most `rounds` times. -/
def readRounds (size : Nat) : (rounds : Nat) → MultipartReader → FileSource → Pass
  | 0, r, source => { reader := r, source := source }
  | rounds + 1, r, source =>
    let step := r.read size source
    match step.result with
    | .error e =>
      { result := .error e, reports := step.reports, reader := step.reader, source := step.source }
    | .ok [] => { reports := step.reports, reader := step.reader, source := step.source }
    | .ok (b :: bytes) =>
      let rest := readRounds size rounds step.reader step.source
      { rest with
        pieces := (b :: bytes) :: rest.pieces
        reports := step.reports ++ rest.reports }

/-- Reads everything that is left, with buffers of `size` bytes. -/
def readAll (r : MultipartReader) (size : Nat) (source : FileSource) : Pass :=
  r.readRounds size (r.readBound source + 1) source

end MultipartReader

namespace MultipartEncoder

/-- A reader for the body, which starts a pass over the file. -/
def reader (e : MultipartEncoder) : Except IoError MultipartReader × MultipartEncoder :=
  let (stream, source) := e.file.source.openStream e.chunkSize
  (stream.map fun file =>
      { head := e.head, file := file, chunkSize := e.chunkSize, total := e.file.size
        observed := e.observed },
    e.withSource source)

end MultipartEncoder

end ContentClient
