import ContentClient.Proofs.Multipart.Reading
import ContentClient.Proofs.Multipart.Writing

/-!
# Pulled and pushed bodies

A multipart body can be pulled through a reader and pushed into a sink. Both give the same body, as
long as the file is delivered: the head of the encoder, the file, and the tail. A push ends with a
flush of the sink, so it can fail with the whole body handed over; a pull cannot.
-/

namespace ContentClient.MultipartEncoder

variable {e : MultipartEncoder} {file : Bytes}

/-- The reader of a body whose file is delivered stands at its start. -/
theorem exists_reader (h : e.file.source.Delivers file) :
    ∃ r, e.reader.1 = .ok r ∧ r.chunkSize = e.chunkSize ∧
      MultipartReader.Stands e.head file [] r e.reader.2.file.source := by
  obtain ⟨stream, hopen, hdelivers⟩ := h.openStream e.chunkSize
  refine ⟨{ head := e.head, file := stream, chunkSize := e.chunkSize, total := e.file.size
            observed := e.observed }, ?_, rfl, .head rfl (List.nil_append _) hdelivers rfl⟩
  simp only [reader, hopen, Except.map]

/-- **One body.** If the file of an encoder is delivered, its reader reads out the head, the file
and the tail, whatever buffers it is read with, and the same bytes are written out to every sink
that takes. -/
theorem readsOut_and_writesOut (h : e.file.source.Delivers file) :
    (∃ r, e.reader.1 = .ok r ∧
        MultipartReader.ReadsOut e.head file r e.reader.2.file.source e.chunkSize) ∧
      ∀ sink : Sink, sink.Takes → WritesOut e sink file := by
  refine ⟨?_, fun sink hsink => writesOut h hsink⟩
  obtain ⟨r, hreader, hchunk, hstands⟩ := exists_reader h
  refine ⟨r, hreader, ?_⟩
  rw [← hchunk]
  exact hstands.readsOut (hchunk ▸ e.chunkSize_pos)

/-! ### A dictated file -/

/-- A body whose file a callback writes in two pieces, with a flush between them, and which is read
two bytes at a time. -/
def dictated : MultipartEncoder where
  fields := [("attributes", "none")]
  file :=
    { partName := "file"
      filename := "letters.txt"
      source := .callback (some [.write [0x61, 0x62, 0x63], .flush, .write [0x64]]) }
  chunkSize := 2

/-- A sink that accepts one byte at a time. -/
def bytewise : Sink where
  room := fun _ _ => .ok 1

theorem bytewise_takes : bytewise.Takes := fun _ _ _ _ => ⟨1, rfl, Nat.one_pos⟩

/-- The dictated body is the same for a reader and for a sink that accepts single bytes. -/
theorem readsOut_and_writesOut_dictated :
    dictated.file.source.Delivers [0x61, 0x62, 0x63, 0x64] ∧ bytewise.Takes ∧
      (∃ r, dictated.reader.1 = .ok r ∧
        MultipartReader.ReadsOut dictated.head [0x61, 0x62, 0x63, 0x64] r
          dictated.reader.2.file.source 2) ∧
      WritesOut dictated bytewise [0x61, 0x62, 0x63, 0x64] := by
  have hdelivers : dictated.file.source.Delivers [0x61, 0x62, 0x63, 0x64] := .callback rfl
  obtain ⟨hreads, hwrites⟩ := readsOut_and_writesOut hdelivers
  exact ⟨hdelivers, bytewise_takes, hreads, hwrites bytewise bytewise_takes⟩

/-! ### A flush that fails -/

/-- A body with a file of three bytes, which is read two bytes at a time. -/
def threeLetters : MultipartEncoder where
  file :=
    { partName := "file"
      filename := "a.txt"
      source := .seekable { source := .ofBytes [0x61, 0x62, 0x63] } }
  chunkSize := 2

/-- A sink that accepts one byte at a time and fails at every flush. -/
def unflushable : Sink where
  room := fun _ _ => .ok 1
  flushFault := fun _ => some (.other "flush broke")

theorem unflushable_takes : unflushable.Takes := fun _ _ _ _ => ⟨1, rfl, Nat.one_pos⟩

/-- To take every byte is not enough: the length of a body is not the result if the sink fails at
its flush. -/
theorem result_threeLetters_unflushable :
    threeLetters.file.source.Delivers [0x61, 0x62, 0x63] ∧ unflushable.Takes ∧
      (threeLetters.writeTo unflushable).result ≠
        .ok (threeLetters.head ++ [0x61, 0x62, 0x63] ++ Multipart.tail).length := by
  refine ⟨.seekable (ByteSource.flows_ofBytes _), unflushable_takes, fun hok => ?_⟩
  have hnone : (threeLetters.writeTo unflushable).result.toOption = none := by decide +kernel
  rw [hok] at hnone
  cases hnone

end ContentClient.MultipartEncoder
