import ContentClient.Stream.Sink

/-!
# Pipes

A producer that writes and a consumer that reads are joined by a pipe. The writing end gathers bytes
into chunks of one size and sends each full chunk; a flush sends what is left over as a shorter one.
The reading end hands out one chunk after another and never crosses from one into the next.

The producer runs ahead of the consumer by a few chunks at most. That bound never changes what is
read, so the chunks of a pipe are simply those that its producer sends when every chunk is taken. It
only shows when the consumer goes away early: the producer then fails at the first chunk for which
there is no room.

A producer has a thread of its own. That it cannot be started, or ends by a panic, is left out.
-/

namespace ContentClient

/-- The writing end of a pipe. -/
structure PipeWriter where
  chunkSize : Nat
  /-- The bytes that no chunk holds yet. -/
  buffered : Bytes := []
  /-- The chunks sent so far. -/
  sent : List Bytes := []
  /-- How many more chunks will be taken, if there is a limit. -/
  room : Option Nat := none

namespace PipeWriter

/-- Sends one chunk. -/
def send (w : PipeWriter) (chunk : Bytes) : Except IoError Unit × PipeWriter :=
  match w.room with
  | none => (.ok (), { w with sent := w.sent ++ [chunk] })
  | some 0 => (.error .bodyDropped, w)
  | some (n + 1) => (.ok (), { w with sent := w.sent ++ [chunk], room := some n })

/-- Sends full chunks while there are any, at most `rounds` of them. -/
def sendFull : (rounds : Nat) → PipeWriter → Except IoError Unit × PipeWriter
  | 0, w => (.ok (), w)
  | rounds + 1, w =>
    if w.buffered.length < w.chunkSize then (.ok (), w)
    else
      match ({ w with buffered := w.buffered.drop w.chunkSize }).send
          (w.buffered.take w.chunkSize) with
      | (.error e, w) => (.error e, w)
      | (.ok (), w) => sendFull rounds w

/-- Takes bytes in, and sends every chunk that is full. A chunk holds a byte at least, so as many
rounds as bytes suffice. -/
def write (bytes : Bytes) (w : PipeWriter) : Except IoError Unit × PipeWriter :=
  let buffered := w.buffered ++ bytes
  sendFull buffered.length { w with buffered := buffered }

/-- Sends what no full chunk holds. -/
def flush (w : PipeWriter) : Except IoError Unit × PipeWriter :=
  if w.buffered.isEmpty then (.ok (), w) else ({ w with buffered := [] }).send w.buffered

/-- The writing end as a producer sees it. -/
def writer : Writer PipeWriter := ⟨write, flush⟩

end PipeWriter

/-- A chunk on its way, or the failure that ended the producer. -/
abbrev Chunk := Except IoError Bytes

/-- The chunks that a producer sends if all of them are taken. What a producer that succeeds leaves
over is flushed; one that fails sends its failure instead. -/
def Script.chunks (script : Script) (chunkSize : Nat) : List Chunk :=
  match Script.run PipeWriter.writer script { chunkSize := chunkSize } with
  | (.error e, w) => w.sent.map .ok ++ [.error e]
  | (.ok (), w) => w.flush.2.sent.map .ok

/-- The reading end of a pipe. -/
structure Pipe where
  /-- What is left of the chunk at hand. -/
  current : Bytes := []
  /-- What follows it. -/
  pending : List Chunk
  /-- The number of chunks taken so far. -/
  taken : Nat := 0
  /-- The producer at the other end. -/
  script : Script
  chunkSize : Nat

namespace Pipe

/-- A pipe from a producer. -/
def ofScript (script : Script) (chunkSize : Nat) : Pipe :=
  { pending := script.chunks chunkSize, script := script, chunkSize := chunkSize }

/-- Reads from the chunk at hand, or from the next one that holds any bytes. -/
def readFrom (p : Pipe) (size : Nat) :
    (current : Bytes) → (pending : List Chunk) → (taken : Nat) → Except IoError Bytes × Pipe
  | b :: current, pending, taken =>
    let bytes := (b :: current).take size
    (.ok bytes,
      { p with current := (b :: current).drop size, pending := pending, taken := taken })
  | [], [], taken => (.ok [], { p with current := [], pending := [], taken := taken })
  | [], .error e :: pending, taken =>
    (.error e, { p with current := [], pending := pending, taken := taken })
  | [], .ok chunk :: pending, taken => readFrom p size chunk pending (taken + 1)
termination_by structural _ pending => pending

/-- Reads at most `size` bytes. No byte marks the end. -/
def read (p : Pipe) (size : Nat) : Except IoError Bytes × Pipe :=
  p.readFrom size p.current p.pending p.taken

/-- How many chunks a producer can send that have not been taken. -/
def capacity : Nat := 2

/-- How the producer ends if the reading end goes away now. -/
def outcome (p : Pipe) : Except IoError Unit :=
  (Script.run PipeWriter.writer p.script
    { chunkSize := p.chunkSize, room := some (p.taken + capacity) }).1

end Pipe

end ContentClient
