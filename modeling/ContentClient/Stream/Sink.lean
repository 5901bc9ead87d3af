import ContentClient.Stream.IoError
import ContentClient.Text.Utf8

/-!
# Byte sinks and writers

A `Sink` takes bytes as a medium allows: its `room` says, for each write, how many bytes it accepts
at most, or that it fails. `Sink.writeAll` repeats writes until everything is accepted, and gives
the number of bytes that each of them accepted.

A `Writer` is what a caller who produces bytes sees of any consumer: it can be handed bytes, and
told to pass on what it holds.
-/

namespace ContentClient

/-- A medium that takes bytes. -/
structure Sink where
  /-- The bytes taken so far. -/
  received : Bytes := []
  /-- The number of writes so far. -/
  writes : Nat := 0
  /-- The number of flushes so far. -/
  flushes : Nat := 0
  /-- What the medium does at a write, by the number of writes before it and of bytes taken: fail,
  or accept at most so many bytes. A write that is interrupted is repeated and not counted. -/
  room : Nat → Nat → Except IoError Nat
  /-- Whether the medium fails at a flush, by the number of flushes before it. -/
  flushFault : Nat → Option IoError := fun _ => none

namespace Sink

/-- One write: how many of the bytes were accepted. -/
def write (s : Sink) (bytes : Bytes) : Except IoError Nat × Sink :=
  match s.room s.writes s.received.length with
  | .error e => (.error e, { s with writes := s.writes + 1 })
  | .ok most =>
    let accepted := bytes.take most
    (.ok accepted.length,
      { s with writes := s.writes + 1, received := s.received ++ accepted })

/-- The end of a run of writes: how much each write accepted, and whether all was accepted. -/
structure Written where
  accepted : List Nat
  result : Except IoError Unit
  sink : Sink

/-- Writes until all bytes are accepted, at most `rounds` times. A write that accepts nothing ends
the run as a failure. Interrupted writes, which only repeat themselves, do not show here. -/
def writeRounds : (rounds : Nat) → Sink → Bytes → Written
  | _, s, [] => ⟨[], .ok (), s⟩
  | 0, s, _ :: _ => ⟨[], .error .wroteNothing, s⟩
  | rounds + 1, s, b :: bytes =>
    match s.write (b :: bytes) with
    | (.error e, s) => ⟨[], .error e, s⟩
    | (.ok 0, s) => ⟨[0], .error .wroteNothing, s⟩
    | (.ok (n + 1), s) =>
      let rest := writeRounds rounds s (bytes.drop n)
      ⟨(n + 1) :: rest.accepted, rest.result, rest.sink⟩

/-- Writes all bytes. Every write accepts one at least, so as many rounds as bytes suffice. -/
def writeAll (s : Sink) (bytes : Bytes) : Written := writeRounds bytes.length s bytes

/-- Passes on what the medium holds. -/
def flush (s : Sink) : Except IoError Unit × Sink :=
  let next := { s with flushes := s.flushes + 1 }
  match s.flushFault s.flushes with
  | some e => (.error e, next)
  | none => (.ok (), next)

@[simp] theorem received_flush (s : Sink) : s.flush.2.received = s.received := by
  unfold flush; split <;> rfl

end Sink

/-- A consumer of bytes with the state `σ`, as a producer sees it. -/
structure Writer (σ : Type) where
  /-- Hands over bytes. -/
  write : Bytes → σ → Except IoError Unit × σ
  /-- Has everything handed over so far passed on. -/
  flush : σ → Except IoError Unit × σ

/-- One thing that a producer does. -/
inductive ScriptStep where
  | write (bytes : Bytes)
  | flush
  /-- Gives up with a failure of its own. -/
  | fail (error : IoError)

/-- What a producer does, in order. It stops at the first failure. -/
abbrev Script := List ScriptStep

/-- Runs a producer against a consumer. -/
def Script.run {σ : Type} (w : Writer σ) : Script → σ → Except IoError Unit × σ
  | [], s => (.ok (), s)
  | .fail e :: _, s => (.error e, s)
  | .write bytes :: rest, s =>
    match w.write bytes s with
    | (.error e, s) => (.error e, s)
    | (.ok (), s) => Script.run w rest s
  | .flush :: rest, s =>
    match w.flush s with
    | (.error e, s) => (.error e, s)
    | (.ok (), s) => Script.run w rest s

end ContentClient
