import ContentClient.Proofs.Http.Replaying
import ContentClient.Proofs.Multipart.Operations
import ContentClient.Proofs.Multipart.Received

/-!
# Callbacks run once

A callback that writes the file of a body is started where the file is first reached, by a write or
by a reader. The source keeps it until then and has none from then on, whatever else is done to the
encoder. So it is started at most once (`EncoderUse.startsIn_cases`), and what would start it again
is refused before a byte of the file is handed over (`EncoderUse.runsOnce`).
-/

namespace ContentClient

namespace FileSource

/-- Whether a callback is there that has not been started. -/
def isUnstarted : FileSource → Bool
  | .callback (some _) => true
  | _ => false

/-- Nothing brings a callback back. -/
theorem framed_consumed : Framed fun s s' => s = .callback none → s' = .callback none where
  refl := fun _ h => h
  trans := fun h h' => h' ∘ h
  openStream := by
    rintro _ chunkSize rfl
    rfl
  read := by
    rintro stream size _ rfl
    cases stream <;> rfl
  rewind := by
    rintro _ rfl
    rfl

variable {s : FileSource}

theorem read_of_isCallback (h : s.isCallback = true) (stream : FileStream) (size : Nat) :
    (stream.read size s).2.2 = s := by
  cases s with
  | seekable shared => cases h
  | reopened openAt opened => cases h
  | callback script => cases stream <;> rfl

/-- A rewind leaves a callback as it is. -/
theorem rewind_eq_of_isCallback (h : s.isCallback = true) : s.rewind = (.ok false, s) := by
  cases s with
  | seekable shared => cases h
  | reopened openAt opened => cases h
  | callback script => rfl

theorem isCallback_of_isUnstarted (h : s.isUnstarted = true) : s.isCallback = true := by
  cases s with
  | seekable shared => cases h
  | reopened openAt opened => cases h
  | callback script => rfl

/-- A stream over a callback starts it. -/
theorem openStream_of_isUnstarted (h : s.isUnstarted = true) (chunkSize : Nat) :
    (s.openStream chunkSize).2 = .callback none := by
  cases s with
  | seekable shared => cases h
  | reopened openAt opened => cases h
  | callback script =>
    cases script with
    | none => cases h
    | some script => rfl

theorem eq_callback_none (h : s.isCallback = true) (hunstarted : s.isUnstarted = false) :
    s = .callback none := by
  cases s with
  | seekable shared => cases h
  | reopened openAt opened => cases h
  | callback script =>
    cases script with
    | none => rfl
    | some script => cases hunstarted

end FileSource

namespace MultipartEncoder

variable {e : MultipartEncoder} {sink : Sink}

/-- Behind a head that has been written, the file is reached and written. -/
theorem file_writeTo (h : (sink.writeAll e.head).result = .ok ()) :
    (e.writeTo sink).file = some (Multipart.writeFile e.file.source e.chunkSize
        { sink := (sink.writeAll e.head).sink }).1 ∧
      (e.writeTo sink).encoder = e.withSource (Multipart.writeFile e.file.source e.chunkSize
        { sink := (sink.writeAll e.head).sink }).2.1 := by
  simp only [writeTo, h]
  split
  · exact ⟨rfl, rfl⟩
  · split
    · exact ⟨rfl, rfl⟩
    · split <;> exact ⟨rfl, rfl⟩

/-- A file whose callback has been started is refused, with nothing written of it. -/
theorem writeTo_of_consumed (hsource : e.file.source = .callback none)
    (h : (sink.writeAll e.head).result = .ok ()) :
    ∃ encoder, e.writeTo sink = ⟨.error .callbackConsumed, encoder, (sink.writeAll e.head).sink,
      e.reports [], some (.error .callbackConsumed)⟩ := by
  simp only [writeTo, h, hsource, Multipart.writeFile]
  exact ⟨_, rfl⟩

/-- Writing a file starts its callback. -/
theorem source_writeTo_of_isUnstarted (hunstarted : e.file.source.isUnstarted = true)
    (h : (e.writeTo sink).file.isSome = true) :
    (e.writeTo sink).encoder.file.source = .callback none := by
  cases hhead : (sink.writeAll e.head).result with
  | error x =>
    rw [writeTo_of_head_error hhead] at h
    cases h
  | ok done =>
    rw [(file_writeTo hhead).2]
    cases hsource : e.file.source with
    | seekable shared =>
      rw [hsource] at hunstarted
      cases hunstarted
    | reopened openAt opened =>
      rw [hsource] at hunstarted
      cases hunstarted
    | callback script =>
      cases script with
      | none => rfl
      | some script => rfl

/-- A file that is not reached keeps its callback. -/
theorem encoder_writeTo_of_unreached (h : (e.writeTo sink).file = none) :
    (e.writeTo sink).encoder = e := by
  cases hhead : (sink.writeAll e.head).result with
  | error x => rw [writeTo_of_head_error hhead]
  | ok done =>
    rw [(file_writeTo hhead).1] at h
    cases h

/-- No reader is opened on a file whose callback has been started. -/
theorem reader_of_consumed (hsource : e.file.source = .callback none) :
    e.reader.1 = .error .callbackConsumed := by
  simp only [reader, hsource]
  rfl

end MultipartEncoder

namespace EncoderUse

/-- Whether an operation starts the callback of a file. -/
def starts (u : EncoderUse) : EncoderOperation → Bool
  | .writeTo sink => u.source.isUnstarted && (u.encoder.writeTo sink).file.isSome
  | .openReader => u.source.isUnstarted
  | _ => false

/-- How often the operations of a run start the callback of a file. -/
def startsIn : EncoderUse → List EncoderOperation → Nat
  | _, [] => 0
  | u, operation :: operations =>
    (if u.starts operation then 1 else 0) + (u.step operation).startsIn operations

variable {u : EncoderUse} {operation : EncoderOperation}

/-- A callback that is started is there no more. -/
theorem source_of_starts (h : u.starts operation = true) :
    (u.step operation).source = .callback none := by
  cases operation with
  | writeTo sink =>
    obtain ⟨hunstarted, hreached⟩ := Bool.and_eq_true_iff.mp h
    exact MultipartEncoder.source_writeTo_of_isUnstarted hunstarted hreached
  | openReader =>
    rw [u.source_openReader]
    exact FileSource.openStream_of_isUnstarted h _
  | putField key value => cases h
  | setContentSha1 digest => cases h
  | rewind => cases h
  | read number size => cases h
  | dropReader number => cases h

/-- Until it is started, it is kept. -/
theorem source_of_not_starts (hunstarted : u.source.isUnstarted = true)
    (h : u.starts operation = false) : (u.step operation).source = u.source := by
  have hcallback := FileSource.isCallback_of_isUnstarted hunstarted
  cases operation with
  | putField key value => rfl
  | setContentSha1 digest => rfl
  | rewind => exact congrArg Prod.snd (FileSource.rewind_eq_of_isCallback hcallback)
  | writeTo sink =>
    have hreached : (u.encoder.writeTo sink).file = none := by
      simpa [starts, hunstarted] using h
    exact congrArg (·.file.source) (MultipartEncoder.encoder_writeTo_of_unreached hreached)
  | openReader => simp [starts, hunstarted] at h
  | read number size =>
    rw [step]
    cases u.reader? number with
    | none => rfl
    | some reader =>
      have hread := reader.file_read size u.source
      simp only [FileSource.read_of_isCallback hcallback] at hread
      rcases hread with ⟨-, hsame⟩ | ⟨n, -, hsame⟩ <;> exact hsame
  | dropReader number => rfl

/-- Nothing is started where there is no callback left. -/
theorem startsIn_of_consumed (h : u.source = .callback none) (operations : List EncoderOperation) :
    u.startsIn operations = 0 := by
  induction operations generalizing u with
  | nil => rfl
  | cons operation operations ih =>
    have hnot : u.starts operation = false := by
      cases operation <;> simp [starts, h, FileSource.isUnstarted]
    rw [startsIn, hnot, ih (FileSource.framed_consumed.step u operation h)]
    rfl

/-- **A callback is started at most once.** Until then it is kept, and it is gone from then on. -/
theorem startsIn_cases (hcallback : u.source.isCallback = true)
    (operations : List EncoderOperation) :
    (u.startsIn operations = 0 ∧ (u.run operations).source = u.source) ∨
      (u.startsIn operations = 1 ∧ (u.run operations).source = .callback none) := by
  induction operations generalizing u with
  | nil => exact .inl ⟨rfl, rfl⟩
  | cons operation operations ih =>
    cases hunstarted : u.source.isUnstarted with
    | false =>
      have hnone := FileSource.eq_callback_none hcallback hunstarted
      refine .inl ⟨startsIn_of_consumed hnone _, ?_⟩
      rw [hnone]
      exact FileSource.framed_consumed.run u _ hnone
    | true =>
      cases hstarts : u.starts operation with
      | true =>
        have hnone := source_of_starts hstarts
        refine .inr ⟨?_, FileSource.framed_consumed.run _ operations hnone⟩
        rw [startsIn, hstarts, startsIn_of_consumed hnone]
        rfl
      | false =>
        have hkept := source_of_not_starts hunstarted hstarts
        have hrest := ih (u := u.step operation) (by rwa [hkept])
        have hcount : u.startsIn (operation :: operations) =
            (u.step operation).startsIn operations := by
          rw [startsIn, hstarts]
          exact Nat.zero_add _
        rwa [hcount, ← hkept]

/-- The callback of a file **runs once**: what holds of an encoder whose operations have started it
a number of times. -/
structure RunsOnce (source : FileSource) (starts : Nat) (e : MultipartEncoder) : Prop where
  starts_le : starts ≤ 1
  /-- A rewind never makes the encoder ready for another pass. -/
  rewind : e.rewind = (.ok false, e)
  /-- Only where it is started is the callback used up. -/
  kept : starts = 0 → e.file.source = source
  /-- In particular, a write that fails in the head uses up nothing. -/
  unreached : ∀ sink x, (sink.writeAll e.head).result = .error x →
    (e.writeTo sink).result = .error x ∧ (e.writeTo sink).encoder = e
  /-- Once the callback has been started, a write that comes to the file is refused there: the sink
  has taken the head and nothing else. -/
  refused : 0 < starts → ∀ sink, (sink.writeAll e.head).result = .ok () →
    (e.writeTo sink).result = .error .callbackConsumed ∧
      (e.writeTo sink).sink.received = sink.received ++ e.head ∧ (e.writeTo sink).reports = []
  /-- And no reader is opened. -/
  unopened : 0 < starts → e.reader.1 = .error .callbackConsumed

theorem runsOnce {e : MultipartEncoder} (h : e.file.source.isCallback = true)
    (operations : List EncoderOperation) :
    RunsOnce e.file.source (startsIn { encoder := e } operations)
      (run { encoder := e } operations).encoder := by
  have hcases := startsIn_cases (u := { encoder := e }) h operations
  have hcallback : (run { encoder := e } operations).source.isCallback = true :=
    (FileSource.framed_becomes.run { encoder := e } operations).isCallback_eq.trans h
  have hconsumed : 0 < startsIn { encoder := e } operations →
      (run { encoder := e } operations).source = .callback none := by
    intro hpos
    rcases hcases with ⟨hzero, -⟩ | ⟨-, hnone⟩
    · omega
    · exact hnone
  refine
    { starts_le := ?_
      rewind := ?_
      kept := ?_
      unreached := ?_
      refused := ?_
      unopened := fun hpos => MultipartEncoder.reader_of_consumed (hconsumed hpos) }
  · rcases hcases with ⟨hzero, -⟩ | ⟨hone, -⟩ <;> omega
  · have hrewind := FileSource.rewind_eq_of_isCallback hcallback
    rw [source] at hrewind
    rw [MultipartEncoder.rewind, hrewind]
    rfl
  · intro hzero
    rcases hcases with ⟨-, hkept⟩ | ⟨hone, -⟩
    · exact hkept
    · omega
  · intro sink x hhead
    rw [MultipartEncoder.writeTo_of_head_error hhead]
    exact ⟨rfl, rfl⟩
  · intro hpos sink hhead
    obtain ⟨encoder, hwrite⟩ := MultipartEncoder.writeTo_of_consumed (hconsumed hpos) hhead
    rw [hwrite]
    exact ⟨rfl, Sink.received_of_writeAll hhead, by simp [MultipartEncoder.reports]⟩

end EncoderUse

end ContentClient
