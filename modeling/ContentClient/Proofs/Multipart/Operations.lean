import ContentClient.Multipart.Reader
import ContentClient.Multipart.Writer
import ContentClient.Proofs.Http.Usage

/-!
# Operations on an encoder

An encoder in use has fields set, is rewound, written to sinks, and read through any number of
readers, in any order and each as far as one likes. An `EncoderUse` is an encoder with the readers
that have been opened on it, and a run is a list of operations on it.

All of this changes a file source only by opening, reading and rewinding it. So whatever these three
stay within, every run of operations stays within (`FileSource.Framed.run`).
-/

namespace ContentClient

/-- An operation on an encoder in use. Readers are numbered in the order in which they are
opened. -/
inductive EncoderOperation where
  | putField (key value : String)
  | setContentSha1 (digest : String)
  | rewind
  | writeTo (sink : Sink)
  | openReader
  | read (number size : Nat)
  | dropReader (number : Nat)

/-- An encoder with the readers that have been opened on it, without those that were dropped. -/
structure EncoderUse where
  encoder : MultipartEncoder
  readers : List (Option MultipartReader) := []

namespace EncoderUse

/-- The source of the file. -/
def source (u : EncoderUse) : FileSource := u.encoder.file.source

/-- The reader with a number, unless it was dropped. -/
def reader? (u : EncoderUse) (number : Nat) : Option MultipartReader := u.readers[number]?.join

/-- An encoder in use after an operation. -/
def step (u : EncoderUse) : EncoderOperation → EncoderUse
  | .putField key value => { u with encoder := u.encoder.putField key value }
  | .setContentSha1 digest => { u with encoder := { u.encoder with contentSha1 := some digest } }
  | .rewind => { u with encoder := u.encoder.rewind.2 }
  | .writeTo sink => { u with encoder := (u.encoder.writeTo sink).encoder }
  | .openReader =>
    match u.encoder.reader with
    | (.error _, encoder) => { u with encoder := encoder }
    | (.ok reader, encoder) => { encoder := encoder, readers := u.readers ++ [some reader] }
  | .read number size =>
    match u.reader? number with
    | none => u
    | some reader =>
      let step := reader.read size u.source
      { encoder := u.encoder.withSource step.source
        readers := u.readers.set number (some step.reader) }
  | .dropReader number => { u with readers := u.readers.set number none }

/-- An encoder in use after a run of operations. -/
def run (u : EncoderUse) (operations : List EncoderOperation) : EncoderUse :=
  operations.foldl step u

/-- Opening a reader opens a stream over the file. The reader is the next one, if that succeeds. -/
theorem step_openReader (u : EncoderUse) :
    (u.step .openReader).encoder =
        u.encoder.withSource (u.source.openStream u.encoder.chunkSize).2 ∧
      ((u.step .openReader).readers = u.readers ∨
        ∃ reader, (u.source.openStream u.encoder.chunkSize).1 = .ok reader.file ∧
          (u.step .openReader).readers = u.readers ++ [some reader]) := by
  rw [step, MultipartEncoder.reader, source]
  cases u.encoder.file.source.openStream u.encoder.chunkSize with
  | mk result next =>
    cases result with
    | error e => exact ⟨rfl, .inl rfl⟩
    | ok stream => exact ⟨rfl, .inr ⟨_, rfl, rfl⟩⟩

theorem source_openReader (u : EncoderUse) :
    (u.step .openReader).source = (u.source.openStream u.encoder.chunkSize).2 :=
  congrArg (·.file.source) u.step_openReader.1

theorem run_append (u : EncoderUse) (operations more : List EncoderOperation) :
    u.run (operations ++ more) = (u.run operations).run more :=
  List.foldl_append

end EncoderUse

/-- A read of a body is a read of its file, or leaves the file alone. -/
theorem MultipartReader.file_read (r : MultipartReader) (size : Nat) (source : FileSource) :
    ((r.read size source).reader.file = r.file ∧ (r.read size source).source = source) ∨
      ∃ n, (r.read size source).reader.file = (r.file.read n source).2.1 ∧
        (r.read size source).source = (r.file.read n source).2.2 := by
  have hfile : (r.readFile size source).reader.file =
        (r.file.read (min size r.chunkSize) source).2.1 ∧
      (r.readFile size source).source = (r.file.read (min size r.chunkSize) source).2.2 := by
    unfold readFile
    split <;> simp_all [readTail]
  unfold read
  split
  · exact .inl ⟨rfl, rfl⟩
  · split
    · split
      · exact .inr ⟨_, hfile⟩
      · exact .inl ⟨rfl, rfl⟩
    · exact .inr ⟨_, hfile⟩
    · exact .inl ⟨rfl, rfl⟩

/-! ### What the use of a source stays within -/

/-- A relation **frames** the use of a file source if opening, reading and rewinding stay within
it. -/
structure FileSource.Framed (R : FileSource → FileSource → Prop) : Prop where
  refl : ∀ s, R s s
  trans : ∀ {s s' s''}, R s s' → R s' s'' → R s s''
  openStream : ∀ s chunkSize, R s (s.openStream chunkSize).2
  read : ∀ (stream : FileStream) size s, R s (stream.read size s).2.2
  rewind : ∀ s, R s s.rewind.2

theorem FileSource.framed_becomes : FileSource.Framed FileSource.Becomes where
  refl := Becomes.refl
  trans := Becomes.trans
  openStream := becomes_openStream
  read := fun stream size s => s.becomes_read stream size
  rewind := becomes_rewind

namespace FileSource.Framed

variable {R : FileSource → FileSource → Prop}

theorem copy (h : Framed R) (chunkSize rounds : Nat) (stream : FileStream) (source : FileSource)
    (c : Multipart.CountingSink) :
    R source (Multipart.copy chunkSize rounds stream source c).2.1 := by
  induction rounds generalizing stream source c with
  | zero => exact h.refl source
  | succ rounds ih =>
    have hread := h.read stream chunkSize source
    rw [Multipart.copy]
    split
    · rename_i heq
      rwa [heq] at hread
    · rename_i heq
      rwa [heq] at hread
    · rename_i heq
      rw [heq] at hread
      split
      · exact hread
      · exact h.trans hread (ih _ _ _)

theorem writeFile (h : Framed R) (source : FileSource) (chunkSize : Nat)
    (c : Multipart.CountingSink) : R source (Multipart.writeFile source chunkSize c).2.1 := by
  have hopen := h.openStream source chunkSize
  unfold Multipart.writeFile
  split
  · exact h.refl _
  · exact hopen
  · split
    · rename_i heq
      rwa [heq] at hopen
    · rename_i heq
      rw [heq] at hopen
      exact h.trans hopen (h.copy _ _ _ _ _)

/-- Writing a body changes nothing of the encoder but its source. -/
theorem writeTo (h : Framed R) (e : MultipartEncoder) (sink : Sink) :
    ∃ source, (e.writeTo sink).encoder = e.withSource source ∧ R e.file.source source := by
  have hfile := h.writeFile e.file.source e.chunkSize { sink := (sink.writeAll e.head).sink }
  unfold MultipartEncoder.writeTo
  dsimp only
  split
  · exact ⟨e.file.source, rfl, h.refl _⟩
  · split
    · exact ⟨_, rfl, hfile⟩
    · split
      · exact ⟨_, rfl, hfile⟩
      · split <;> exact ⟨_, rfl, hfile⟩

theorem readBody (h : Framed R) (r : MultipartReader) (size : Nat) (source : FileSource) :
    R source (r.read size source).source := by
  rcases r.file_read size source with ⟨-, hsame⟩ | ⟨n, -, hread⟩
  · rw [hsame]
    exact h.refl source
  · rw [hread]
    exact h.read r.file n source

/-- An operation changes the source only by opening, reading and rewinding it. -/
theorem step (h : Framed R) (u : EncoderUse) (operation : EncoderOperation) :
    R u.source (u.step operation).source := by
  cases operation with
  | putField key value => exact h.refl _
  | setContentSha1 digest => exact h.refl _
  | rewind => exact h.rewind _
  | writeTo sink =>
    obtain ⟨source, hencoder, hsource⟩ := h.writeTo u.encoder sink
    rw [EncoderUse.step, hencoder]
    exact hsource
  | openReader =>
    rw [u.source_openReader]
    exact h.openStream _ _
  | read number size =>
    rw [EncoderUse.step]
    cases u.reader? number with
    | none => exact h.refl _
    | some reader => exact h.readBody reader size u.source
  | dropReader number => exact h.refl _

theorem run (h : Framed R) (u : EncoderUse) (operations : List EncoderOperation) :
    R u.source (u.run operations).source := by
  induction operations generalizing u with
  | nil => exact h.refl _
  | cons operation operations ih => exact h.trans (h.step u operation) (ih _)

end FileSource.Framed

end ContentClient
