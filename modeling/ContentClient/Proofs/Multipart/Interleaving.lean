import ContentClient.Proofs.Multipart.Operations
import ContentClient.Proofs.Multipart.Reading

/-!
# Reading beside other operations

Between two reads of a reader fields may be set, and other readers opened and dropped. As long as
nothing else reads, writes or rewinds the file, the reader gets what it would get on its own
(`EncoderUse.readings_eq`). What a read comes to depends on the source only through the medium that
all readers share, and no such operation touches that.
-/

namespace ContentClient

/-- The medium that all readers of a source share, if there is one. -/
def FileSource.medium? : FileSource → Option SharedSource
  | .seekable shared => some shared
  | .reopened _ _ => none
  | .callback _ => none

/-- A new stream takes nothing off the medium. -/
theorem FileSource.medium?_openStream (s : FileSource) (chunkSize : Nat) :
    (s.openStream chunkSize).2.medium? = s.medium? := by
  cases s with
  | seekable shared => rfl
  | reopened openAt opened => rfl
  | callback script => cases script <;> rfl

/-- Sources are **alike** to readers if these share the same medium, or none. -/
def FileSource.Alike (s s' : FileSource) : Prop := s.medium? = s'.medium?

/-- Over sources that are alike, a stream gives the same. -/
theorem FileStream.read_of_alike {source source' : FileSource} (h : source.Alike source')
    (stream : FileStream) (size : Nat) :
    (stream.read size source).1 = (stream.read size source').1 ∧
      (stream.read size source).2.1 = (stream.read size source').2.1 ∧
      (stream.read size source).2.2.Alike (stream.read size source').2.2 := by
  cases stream with
  | shared handle =>
    cases source with
    | seekable shared =>
      cases source' with
      | seekable shared' =>
        obtain rfl : shared = shared' := Option.some.inj h
        exact ⟨rfl, rfl, rfl⟩
      | reopened openAt opened => cases h
      | callback script => cases h
    | reopened openAt opened =>
      cases source' with
      | seekable shared' => cases h
      | reopened openAt' opened' => exact ⟨rfl, rfl, rfl⟩
      | callback script => exact ⟨rfl, rfl, rfl⟩
    | callback script =>
      cases source' with
      | seekable shared' => cases h
      | reopened openAt opened => exact ⟨rfl, rfl, rfl⟩
      | callback script' => exact ⟨rfl, rfl, rfl⟩
  | owned bytes => exact ⟨rfl, rfl, h⟩
  | piped pipe => exact ⟨rfl, rfl, h⟩

namespace MultipartReader

variable {source source' : FileSource}

theorem readFile_of_alike (h : source.Alike source') (r : MultipartReader) (size : Nat) :
    (r.readFile size source).result = (r.readFile size source').result ∧
      (r.readFile size source).reader = (r.readFile size source').reader ∧
      (r.readFile size source).source.Alike (r.readFile size source').source := by
  obtain ⟨hresult, hstream, hsource⟩ := r.file.read_of_alike h (min size r.chunkSize)
  unfold readFile
  generalize r.file.read (min size r.chunkSize) source = step at *
  generalize r.file.read (min size r.chunkSize) source' = step' at *
  obtain ⟨result, stream, next⟩ := step
  obtain ⟨result', stream', next'⟩ := step'
  obtain rfl : result = result' := hresult
  obtain rfl : stream = stream' := hstream
  cases result with
  | error e => exact ⟨rfl, rfl, hsource⟩
  | ok bytes => cases bytes <;> exact ⟨rfl, rfl, hsource⟩

/-- Over sources that are alike, a reader gives the same. -/
theorem read_of_alike (h : source.Alike source') (r : MultipartReader) (size : Nat) :
    (r.read size source).result = (r.read size source').result ∧
      (r.read size source).reader = (r.read size source').reader ∧
      (r.read size source).source.Alike (r.read size source').source := by
  unfold read
  split
  · exact ⟨rfl, rfl, h⟩
  · split
    · split
      · exact r.readFile_of_alike h size
      · exact ⟨rfl, rfl, h⟩
    · exact r.readFile_of_alike h size
    · exact ⟨rfl, rfl, h⟩

end MultipartReader

namespace EncoderOperation

/-- An operation goes on **beside** the reading of a reader if it is a read of this reader, or
neither reads, nor writes or rewinds, nor drops the reader. -/
def isBeside (number : Nat) : EncoderOperation → Bool
  | .rewind | .writeTo _ => false
  | .read other _ => other == number
  | .dropReader other => other != number
  | .putField _ _ | .setContentSha1 _ | .openReader => true

/-- The room in the buffer of a read. -/
def size? : EncoderOperation → Option Nat
  | .read _ size => some size
  | _ => none

end EncoderOperation

namespace EncoderUse

/-- What a read of a reader gives. -/
def reading? (u : EncoderUse) (number : Nat) : EncoderOperation → Option (Except IoError Bytes)
  | .read other size =>
    if other = number then (u.reader? number).map fun r => (r.read size u.source).result else none
  | _ => none

/-- What all reads of a reader give in a run of operations. -/
def readings (number : Nat) : EncoderUse → List EncoderOperation → List (Except IoError Bytes)
  | _, [] => []
  | u, operation :: operations =>
    (u.reading? number operation).toList ++ (u.step operation).readings number operations

variable {u : EncoderUse} {number : Nat} {r : MultipartReader} {source : FileSource}

theorem reader?_eq_some_iff :
    u.reader? number = some r ↔ u.readers[number]? = some (some r) := by
  rw [reader?, Option.join_eq_some_iff]

/-- A reader that is opened gets the next number. -/
theorem reader?_openReader (u : EncoderUse) (h : u.encoder.reader.1 = .ok r) :
    (u.step .openReader).reader? u.readers.length = some r := by
  rw [step]
  cases hreader : u.encoder.reader with
  | mk result encoder =>
    rw [hreader] at h
    obtain rfl : result = .ok r := h
    exact reader?_eq_some_iff.mpr List.getElem?_concat_length

/-- What goes on beside the reading of a reader leaves it and its source alone. -/
theorem step_of_isBeside {operation : EncoderOperation} (hr : u.reader? number = some r)
    (hbeside : operation.isBeside number = true) (hsize : operation.size? = none) :
    (u.step operation).reader? number = some r ∧ (u.step operation).source.Alike u.source := by
  cases operation with
  | putField key value => exact ⟨hr, rfl⟩
  | setContentSha1 digest => exact ⟨hr, rfl⟩
  | rewind => cases hbeside
  | writeTo sink => cases hbeside
  | openReader =>
    rw [source_openReader]
    refine ⟨?_, u.source.medium?_openStream _⟩
    rcases u.step_openReader.2 with hreaders | ⟨reader, -, hreaders⟩
    · rwa [reader?, hreaders]
    · have hlt := (List.getElem?_eq_some_iff.mp (reader?_eq_some_iff.mp hr)).1
      rwa [reader?, hreaders, List.getElem?_append_left hlt]
  | read other size => cases hsize
  | dropReader other =>
    have hne : other ≠ number := bne_iff_ne.mp hbeside
    refine ⟨?_, rfl⟩
    rw [step, reader?, List.getElem?_set_ne hne]
    exact hr

/-- A read goes on from where its reader stands. -/
theorem step_read (hr : u.reader? number = some r) (size : Nat) :
    (u.step (.read number size)).reader? number = some (r.read size u.source).reader ∧
      (u.step (.read number size)).source = (r.read size u.source).source := by
  have hlt := (List.getElem?_eq_some_iff.mp (reader?_eq_some_iff.mp hr)).1
  rw [step, hr]
  exact ⟨reader?_eq_some_iff.mpr (List.getElem?_set_self hlt), rfl⟩

/-- **Interleaving.** Beside other operations a reader gets what it gets on its own. -/
theorem readings_eq (hr : u.reader? number = some r) (hsource : u.source.Alike source)
    {operations : List EncoderOperation}
    (hbeside : ∀ operation ∈ operations, operation.isBeside number = true) :
    u.readings number operations =
      (r.readEach (operations.filterMap (·.size?)) source).1 := by
  induction operations generalizing u r source with
  | nil => rfl
  | cons operation operations ih =>
    obtain ⟨hfirst, hrest⟩ := List.forall_mem_cons.mp hbeside
    cases hsize : operation.size? with
    | none =>
      obtain ⟨hreader, halike⟩ := step_of_isBeside hr hfirst hsize
      have hnone : u.reading? number operation = none := by
        cases operation <;> first | rfl | cases hsize
      rw [readings, hnone, List.filterMap_cons_none hsize]
      exact ih hreader (halike.trans hsource) hrest
    | some size =>
      obtain rfl : operation = .read number size := by
        cases operation with
        | read other room =>
          rw [beq_iff_eq.mp hfirst, Option.some.inj hsize]
        | _ => cases hsize
      obtain ⟨hreader, hnext⟩ := step_read hr size
      obtain ⟨hresult, hsame, halike⟩ := r.read_of_alike hsource size
      have hread : u.reading? number (.read number size) =
          some (r.read size source).result := by
        rw [reading?, if_pos rfl, hr, ← hresult]
        rfl
      rw [readings, hread, List.filterMap_cons_some hsize, MultipartReader.readEach,
        ih hreader (hnext ▸ halike) hrest, hsame]
      rfl

end EncoderUse

end ContentClient
