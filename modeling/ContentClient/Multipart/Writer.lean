import ContentClient.Multipart.Encoder

/-!
# Writing a multipart body

`MultipartEncoder.writeTo` pushes a whole body into a sink: the head, the file chunk by chunk, the
tail, and a flush. A callback writes the file itself, straight into the sink. The first failure ends
it. Progress counts the bytes of the file that the sink accepted: after every chunk, and for a
callback after every single write to the sink.
-/

namespace ContentClient

namespace Multipart

/-- The running totals of a list of counts, from a total on. -/
def totals : (start : Nat) → List Nat → List Nat
  | _, [] => []
  | start, n :: rest => (start + n) :: totals (start + n) rest

/-- A sink that counts the bytes of a file. -/
structure CountingSink where
  sink : Sink
  /-- The bytes of the file accepted so far. -/
  written : Nat := 0
  /-- The totals after each count, oldest first. -/
  counts : List Nat := []

namespace CountingSink

/-- Writes bytes of the file and counts after every single write. -/
def write (bytes : Bytes) (c : CountingSink) : Except IoError Unit × CountingSink :=
  let w := c.sink.writeAll bytes
  (w.result,
    { sink := w.sink
      written := w.accepted.foldl (· + ·) c.written
      counts := c.counts ++ totals c.written w.accepted })

/-- Flushes the sink. -/
def flush (c : CountingSink) : Except IoError Unit × CountingSink :=
  let (result, sink) := c.sink.flush
  (result, { c with sink := sink })

/-- The counting sink as a callback sees it. -/
def writer : Writer CountingSink := ⟨write, flush⟩

/-- Writes one chunk of the file and counts it once it is written. -/
def writeChunk (bytes : Bytes) (c : CountingSink) : Except IoError Unit × CountingSink :=
  let w := c.sink.writeAll bytes
  match w.result with
  | .error e => (.error e, { c with sink := w.sink })
  | .ok () =>
    let written := c.written + bytes.length
    (.ok (), { sink := w.sink, written := written, counts := c.counts ++ [written] })

end CountingSink

/-- Copies a stream into a sink, chunk by chunk, in at most `rounds` reads. -/
def copy (chunkSize : Nat) : (rounds : Nat) → FileStream → FileSource → CountingSink →
    Except IoError Unit × FileSource × CountingSink
  | 0, _, source, c => (.ok (), source, c)
  | rounds + 1, stream, source, c =>
    match stream.read chunkSize source with
    | (.error e, _, source) => (.error e, source, c)
    | (.ok [], _, source) => (.ok (), source, c)
    | (.ok (b :: bytes), stream, source) =>
      match c.writeChunk (b :: bytes) with
      | (.error e, c) => (.error e, source, c)
      | (.ok (), c) => copy chunkSize rounds stream source c

/-- Writes a file into a sink. Each read but the last hands over a byte at least, which bounds their
number. -/
def writeFile (source : FileSource) (chunkSize : Nat) (c : CountingSink) :
    Except IoError Unit × FileSource × CountingSink :=
  match source with
  | .callback none => (.error .callbackConsumed, source, c)
  | .callback (some script) =>
    let (result, c) := Script.run CountingSink.writer script c
    (result, .callback none, c)
  | source =>
    match source.openStream chunkSize with
    | (.error e, source) => (.error e, source, c)
    | (.ok stream, source) => copy chunkSize (stream.readBound source + 1) stream source c

end Multipart

/-- The end of a run of `writeTo`: the number of bytes written, and everything that changed. -/
structure WrittenBody where
  result : Except IoError Nat
  encoder : MultipartEncoder
  sink : Sink
  reports : List Report
  /-- How the writing of the file ended, if it began. -/
  file : Option (Except IoError Unit)

namespace MultipartEncoder

/-- Writes the whole body into a sink. -/
def writeTo (e : MultipartEncoder) (sink : Sink) : WrittenBody :=
  let head := sink.writeAll e.head
  match head.result with
  | .error x => ⟨.error x, e, head.sink, [], none⟩
  | .ok () =>
    let (result, source, c) := Multipart.writeFile e.file.source e.chunkSize { sink := head.sink }
    let reports := e.reports c.counts
    let e := e.withSource source
    match result with
    | .error x => ⟨.error x, e, c.sink, reports, some result⟩
    | .ok () =>
      let tail := c.sink.writeAll Multipart.tail
      match tail.result with
      | .error x => ⟨.error x, e, tail.sink, reports, some result⟩
      | .ok () =>
        match tail.sink.flush with
        | (.error x, sink) => ⟨.error x, e, sink, reports, some result⟩
        | (.ok (), sink) =>
          ⟨.ok (e.head.length + c.written + Multipart.tail.length), e, sink, reports, some result⟩

end MultipartEncoder

end ContentClient
