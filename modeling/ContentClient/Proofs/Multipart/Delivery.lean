import ContentClient.Multipart.FileSource
import ContentClient.Proofs.Stream.Piping

/-!
# Files that are delivered

A file source **delivers** the bytes of a file if the next pass over it can be started and reads
them to their end without a failure, whatever buffers it is read with. What a pass in progress still
delivers is said of its stream, together with the source from which the stream reads.
`FileSource.Delivers.openStream` starts such a pass and `FileStream.Delivers.read` goes on with it.
-/

namespace ContentClient

/-- A file source delivers bytes: a medium those from its position on, as long as it flows, and a
callback what it writes, if it does not fail. -/
inductive FileSource.Delivers : FileSource → Bytes → Prop where
  | seekable {shared : SharedSource} (flows : shared.source.Flows) :
      Delivers (.seekable shared) shared.source.remaining
  | reopened {openAt : Nat → Except IoError ByteSource} {opened : Nat} {source : ByteSource}
      (opens : openAt opened = .ok source) (flows : source.Flows) :
      Delivers (.reopened openAt opened) source.remaining
  | callback {script : Script} {output : Bytes} (writes : script.output? = some output) :
      Delivers (.callback (some script)) output

/-- A stream over a file source still delivers bytes. -/
inductive FileStream.Delivers : FileStream → FileSource → Bytes → Prop where
  | shared {medium : SharedSource} (flows : medium.source.Flows) :
      Delivers (.shared medium.handle) (.seekable medium) medium.source.remaining
  | owned {bytes : ByteSource} {source : FileSource} (flows : bytes.Flows) :
      Delivers (.owned bytes) source bytes.remaining
  | piped {pipe : Pipe} {source : FileSource} {carried : Bytes} (carries : pipe.Carries carried) :
      Delivers (.piped pipe) source carried

/-- A pass over a file that is delivered can be started, and delivers it. -/
theorem FileSource.Delivers.openStream {source : FileSource} {file : Bytes}
    (h : source.Delivers file) (chunkSize : Nat) :
    ∃ stream, (source.openStream chunkSize).1 = .ok stream ∧
      stream.Delivers (source.openStream chunkSize).2 file := by
  cases h with
  | seekable flows => exact ⟨_, rfl, .shared flows⟩
  | reopened opens flows =>
    refine ⟨.owned _, ?_, .owned flows⟩
    simp only [FileSource.openStream, opens, Except.map]
  | callback writes => exact ⟨_, rfl, .piped (Pipe.carries_ofScript writes chunkSize)⟩

namespace FileStream.Delivers

variable {stream : FileStream} {source : FileSource} {file : Bytes}

/-- A read takes bytes off the front of what a stream delivers. -/
theorem read (h : stream.Delivers source file) {size : Nat} (hsize : 0 < size) :
    ∃ bytes rest, TakesOff size file (stream.read size source).1 bytes rest ∧
      (stream.read size source).2.1.Delivers (stream.read size source).2.2 rest := by
  cases h with
  | @shared medium flows =>
    obtain ⟨bytes, htakes, hflows⟩ := flows.read hsize
    have hread : medium.read medium.handle size =
        ((medium.source.read size).1, { medium with source := (medium.source.read size).2 }) := by
      simp [SharedSource.read, SharedSource.handle]
    simp only [FileStream.read, hread]
    exact ⟨bytes, _, htakes,
      @FileStream.Delivers.shared { medium with source := (medium.source.read size).2 } hflows⟩
  | owned flows =>
    obtain ⟨bytes, htakes, hflows⟩ := flows.read hsize
    exact ⟨bytes, _, htakes, .owned hflows⟩
  | piped carries =>
    obtain ⟨bytes, rest, htakes, hcarries⟩ := carries.read hsize
    exact ⟨bytes, rest, htakes, .piped hcarries⟩

/-- The bound on the number of reads is the number of bytes that are delivered. -/
theorem length_eq (h : stream.Delivers source file) : file.length = stream.readBound source := by
  cases h with
  | shared flows => exact List.length_drop
  | owned flows => exact List.length_drop
  | @piped pipe source carried carries =>
    obtain ⟨chunks, hpending, rfl⟩ := carries
    have hflat : (chunks.map Except.ok).flatMap (fun c : Chunk => c.toOption.getD []) =
        chunks.flatten := by
      rw [List.flatMap_map]
      exact List.flatMap_id
    rw [FileStream.readBound, hpending, hflat, List.length_append]

end FileStream.Delivers

end ContentClient
