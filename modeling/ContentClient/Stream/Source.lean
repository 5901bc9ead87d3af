import ContentClient.Stream.IoError
import ContentClient.Text.Utf8

/-!
# Byte sources

A `ByteSource` is a medium with a position. What a read gives is up to the medium: its `pace` says,
for each read, how many bytes it hands over at most, or that it fails. A failed read does not move
the position.

A `SharedSource` is a source that several handles read in turn. Every successful rewind starts a new
**generation**, and a handle from an earlier generation can no longer read, so that a reader left
over from a failed attempt cannot take bytes from the next one. Handles take turns: one read or
rewind ends before the next begins. A medium that brings down the thread that reads it, and so the
lock under which the turns are taken, is left out.
-/

namespace ContentClient

/-- A medium of bytes that is read from a position on. -/
structure ByteSource where
  data : Bytes
  position : Nat := 0
  /-- The number of reads so far. -/
  reads : Nat := 0
  /-- The number of rewinds tried so far. -/
  seeks : Nat := 0
  /-- What the medium does at a read, by the number of reads before it and the position: fail, or
  hand over at most so many bytes. -/
  pace : Nat → Nat → Except IoError Nat
  /-- Whether the medium refuses to be rewound, by the number of tries before. -/
  seekFault : Nat → Option IoError := fun _ => none

namespace ByteSource

/-- A source that hands over all that fits. -/
def ofBytes (data : Bytes) : ByteSource :=
  { data := data, pace := fun _ p => .ok (data.length - p) }

/-- The bytes from the position on. -/
def remaining (s : ByteSource) : Bytes := s.data.drop s.position

/-- Reads into a buffer of `size` bytes. No byte marks the end. -/
def read (s : ByteSource) (size : Nat) : Except IoError Bytes × ByteSource :=
  match s.pace s.reads s.position with
  | .error e => (.error e, { s with reads := s.reads + 1 })
  | .ok most =>
    let taken := s.remaining.take (min size most)
    (.ok taken, { s with reads := s.reads + 1, position := s.position + taken.length })

/-- Goes back to the start. -/
def rewind (s : ByteSource) : Except IoError Unit × ByteSource :=
  match s.seekFault s.seeks with
  | some e => (.error e, { s with seeks := s.seeks + 1 })
  | none => (.ok (), { s with seeks := s.seeks + 1, position := 0 })

/-- A bound on the number of reads that hand over bytes. -/
def readBound (s : ByteSource) : Nat := s.data.length - s.position

@[simp] theorem data_read (s : ByteSource) (size : Nat) : (s.read size).2.data = s.data := by
  unfold read; split <;> rfl

@[simp] theorem pace_read (s : ByteSource) (size : Nat) : (s.read size).2.pace = s.pace := by
  unfold read; split <;> rfl

@[simp] theorem data_rewind (s : ByteSource) : s.rewind.2.data = s.data := by
  unfold rewind; split <;> rfl

@[simp] theorem pace_rewind (s : ByteSource) : s.rewind.2.pace = s.pace := by
  unfold rewind; split <;> rfl

private theorem take_append_drop_length (n : Nat) (l : Bytes) :
    l.take n ++ l.drop (l.take n).length = l := by
  rw [List.length_take, List.take_eq_take_min, List.take_append_drop]

/-- A read takes its bytes off the front of what remains. -/
theorem remaining_read {s : ByteSource} {size : Nat} {bytes : Bytes}
    (h : (s.read size).1 = .ok bytes) : s.remaining = bytes ++ (s.read size).2.remaining := by
  unfold read at h ⊢
  split at h
  · cases h
  · rename_i most hp
    cases h
    simp only [remaining, ← List.drop_drop]
    exact (take_append_drop_length _ _).symm

end ByteSource

/-- A source that several handles share. -/
structure SharedSource where
  source : ByteSource
  /-- The number of successful rewinds. -/
  generation : Nat := 0

namespace SharedSource

/-- A handle remembers the generation in which it was made. -/
abbrev Handle := Nat

/-- A new handle. -/
def handle (s : SharedSource) : Handle := s.generation

/-- Reads through a handle, which fails if the source has been rewound since it was made. -/
def read (s : SharedSource) (h : Handle) (size : Nat) : Except IoError Bytes × SharedSource :=
  if h = s.generation then
    let (result, source) := s.source.read size
    (result, { s with source := source })
  else (.error .superseded, s)

/-- Goes back to the start and begins a new generation, unless the medium refuses. -/
def rewind (s : SharedSource) : Except IoError Unit × SharedSource :=
  match s.source.rewind with
  | (.ok (), source) => (.ok (), ⟨source, s.generation + 1⟩)
  | (.error e, source) => (.error e, { s with source := source })

theorem read_superseded {s : SharedSource} {h : Handle} (size : Nat) (hne : h ≠ s.generation) :
    s.read h size = (.error .superseded, s) := by
  simp [read, hne]

end SharedSource

end ContentClient
