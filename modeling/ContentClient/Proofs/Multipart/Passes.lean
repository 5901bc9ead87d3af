import ContentClient.Proofs.Multipart.Body
import ContentClient.Proofs.Multipart.Callbacks
import ContentClient.Proofs.Multipart.Interleaving
import ContentClient.Proofs.Stream.Sharing

/-!
# Passes over a file

However an encoder is used, a callback that writes its file is started at most once, and a file that
can be read again is read from its first byte in the first pass behind a rewind that succeeded. The
main statement is `EncoderUse.runsOnce_and_passesWhole`.

For the callback the invariant is that the source keeps it until it is started and has none from
then on. For a medium that is rewound, it is that every reader older than the rewind is superseded:
it can no longer move the medium, so the medium stands at its start until a new pass begins.
-/

namespace ContentClient

/-- A source that hands over all that fits replays. -/
theorem ByteSource.replays_ofBytes (data : Bytes) : (ofBytes data).Replays := by
  intro n p _
  refine ⟨data.length - p, rfl, fun hp => ?_⟩
  have hlt : p < data.length := hp
  omega

/-! ### Handles -/

/-- The handle through which a stream reads, if it reads a shared medium. -/
def FileStream.handle? : FileStream → Option SharedSource.Handle
  | .shared handle => some handle
  | .owned _ => none
  | .piped _ => none

/-- A stream **belongs** to a source if its handle is not newer than the source. -/
def FileStream.Belongs (stream : FileStream) (source : FileSource) : Prop :=
  ∀ handle shared, stream.handle? = some handle → source = .seekable shared →
    handle ≤ shared.generation

/-- A stream is **superseded** if its handle is older than the source. -/
def FileStream.Superseded (stream : FileStream) (source : FileSource) : Prop :=
  ∀ handle shared, stream.handle? = some handle → source = .seekable shared →
    handle < shared.generation

/-- A source is not older than it was. -/
def FileSource.Follows (s s' : FileSource) : Prop :=
  ∀ shared', s' = .seekable shared' →
    ∃ shared, s = .seekable shared ∧ shared.generation ≤ shared'.generation

/-- A shared source is rewound into a new generation, or stays in its own. -/
theorem SharedSource.generation_le_rewind (s : SharedSource) :
    s.generation ≤ s.rewind.2.generation := by
  cases h : s.rewind.1 with
  | ok done =>
    rw [rewind_of_ok h]
    exact Nat.le_succ _
  | error e => exact Nat.le_of_eq (by rw [rewind_of_error h])

theorem SharedSource.generation_read (s : SharedSource) (handle : Handle) (size : Nat) :
    (s.read handle size).2.generation = s.generation := by
  unfold read
  split <;> rfl

namespace FileSource

theorem framed_follows : Framed Follows where
  refl := fun _ shared h => ⟨shared, h, Nat.le_refl _⟩
  trans := by
    intro s s' s'' h h' shared'' heq
    obtain ⟨shared', heq', hle'⟩ := h' shared'' heq
    obtain ⟨shared, heq, hle⟩ := h shared' heq'
    exact ⟨shared, heq, Nat.le_trans hle hle'⟩
  openStream := by
    intro s chunkSize shared' h
    cases s with
    | seekable shared => exact ⟨shared', h, Nat.le_refl _⟩
    | reopened openAt opened => cases h
    | callback script => cases script <;> cases h
  read := by
    intro stream size s shared' h
    cases s with
    | seekable shared =>
      refine ⟨shared, rfl, ?_⟩
      cases stream with
      | shared handle =>
        obtain rfl := FileSource.seekable.inj h
        exact Nat.le_of_eq (shared.generation_read handle size).symm
      | owned bytes =>
        obtain rfl := FileSource.seekable.inj h
        exact Nat.le_refl _
      | piped pipe =>
        obtain rfl := FileSource.seekable.inj h
        exact Nat.le_refl _
    | reopened openAt opened => cases stream <;> cases h
    | callback script => cases stream <;> cases h
  rewind := by
    intro s shared' h
    cases s with
    | seekable shared =>
      obtain rfl := FileSource.seekable.inj h
      exact ⟨shared, rfl, shared.generation_le_rewind⟩
    | reopened openAt opened => cases h
    | callback script => cases h

theorem position_openStream (s : FileSource) (chunkSize : Nat) :
    (s.openStream chunkSize).2.position = s.position := by
  cases s with
  | seekable shared => rfl
  | reopened openAt openings => rfl
  | callback script => cases script <;> rfl

/-- A source at its start is there after a rewind too, whether that succeeds or not. -/
theorem position_rewind_of_zero {s : FileSource} (h : s.position = 0) :
    s.rewind.2.position = 0 := by
  cases s with
  | seekable shared =>
    cases hresult : shared.rewind.1 with
    | ok done =>
      have hposition : shared.rewind.2.source.position = 0 := by
        rw [SharedSource.rewind_of_ok hresult]
      exact hposition
    | error e =>
      have hposition : shared.rewind.2.source.position = shared.source.position := by
        rw [SharedSource.rewind_of_error hresult]
      exact hposition.trans h
  | reopened openAt openings => rfl
  | callback script => rfl

end FileSource

namespace FileStream

variable {stream stream' : FileStream} {source source' : FileSource}

theorem Belongs.of_follows (h : stream.Belongs source) (hfollows : source.Follows source')
    (hhandle : stream'.handle? = stream.handle?) : stream'.Belongs source' := by
  intro handle shared' hstream hsource
  obtain ⟨shared, heq, hle⟩ := hfollows shared' hsource
  exact Nat.le_trans (h handle shared (hhandle ▸ hstream) heq) hle

theorem Superseded.of_follows (h : stream.Superseded source) (hfollows : source.Follows source')
    (hhandle : stream'.handle? = stream.handle?) : stream'.Superseded source' := by
  intro handle shared' hstream hsource
  obtain ⟨shared, heq, hle⟩ := hfollows shared' hsource
  exact Nat.lt_of_lt_of_le (h handle shared (hhandle ▸ hstream) heq) hle

theorem handle?_read (stream : FileStream) (size : Nat) (source : FileSource) :
    (stream.read size source).2.1.handle? = stream.handle? := by
  cases stream with
  | shared handle => cases source <;> rfl
  | owned bytes => rfl
  | piped pipe => rfl

/-- A superseded stream cannot move its source. -/
theorem Superseded.read (h : stream.Superseded source) (size : Nat) :
    (stream.read size source).2.2 = source := by
  cases stream with
  | shared handle =>
    cases source with
    | seekable shared =>
      have hne : handle ≠ shared.generation := Nat.ne_of_lt (h handle shared rfl rfl)
      rw [FileStream.read, SharedSource.read_superseded size hne]
    | reopened openAt opened => rfl
    | callback script => rfl
  | owned bytes => rfl
  | piped pipe => rfl

/-- A new stream belongs to its source. -/
theorem belongs_openStream {chunkSize : Nat} (h : (source.openStream chunkSize).1 = .ok stream) :
    stream.Belongs (source.openStream chunkSize).2 := by
  intro handle shared hhandle hsource
  cases source with
  | seekable medium =>
    obtain rfl := FileSource.seekable.inj hsource
    obtain rfl := Except.ok.inj h
    exact Nat.le_of_eq (Option.some.inj hhandle).symm
  | reopened openAt opened => cases hsource
  | callback script => cases script <;> cases hsource

/-- A rewind that succeeds supersedes all streams. -/
theorem Belongs.superseded (h : stream.Belongs source) (hok : source.rewind.1 = .ok true) :
    stream.Superseded source.rewind.2 := by
  intro handle shared' hhandle hsource
  cases source with
  | seekable shared =>
    have hle := h handle shared hhandle rfl
    have hrewound : shared.rewind.1 = .ok () := by
      cases hresult : shared.rewind.1 with
      | ok done => rfl
      | error e =>
        simp only [FileSource.rewind, hresult] at hok
        cases hok
    obtain rfl : shared.rewind.2 = shared' := FileSource.seekable.inj hsource
    rw [SharedSource.rewind_of_ok hrewound]
    exact Nat.lt_succ_of_le hle
  | reopened openAt opened => cases hsource
  | callback script => cases hsource

end FileStream

/-! ### Readers of an encoder in use -/

namespace EncoderUse

variable {u : EncoderUse} {operation : EncoderOperation} {number : Nat} {r : MultipartReader}

/-- A reader that is there after an operation was there before, with the same handle, or has been
opened by it. -/
theorem reader?_step (h : (u.step operation).reader? number = some r) :
    (∃ r', u.reader? number = some r' ∧ r.file.handle? = r'.file.handle?) ∨
      u.readers.length ≤ number ∧ operation = .openReader ∧
        (u.source.openStream u.encoder.chunkSize).1 = .ok r.file := by
  have hsame : u.reader? number = some r →
      ∃ r', u.reader? number = some r' ∧ r.file.handle? = r'.file.handle? :=
    fun hr => ⟨r, hr, rfl⟩
  cases operation with
  | putField key value => exact .inl (hsame h)
  | setContentSha1 digest => exact .inl (hsame h)
  | rewind => exact .inl (hsame h)
  | writeTo sink => exact .inl (hsame h)
  | openReader =>
    rcases u.step_openReader.2 with hreaders | ⟨reader, hopen, hreaders⟩
    · rw [reader?, hreaders] at h
      exact .inl (hsame h)
    · rw [reader?, hreaders] at h
      by_cases hlt : number < u.readers.length
      · rw [List.getElem?_append_left hlt] at h
        exact .inl (hsame h)
      · rw [List.getElem?_append_right (Nat.le_of_not_lt hlt)] at h
        refine .inr ⟨Nat.le_of_not_lt hlt, rfl, ?_⟩
        cases hindex : number - u.readers.length with
        | zero =>
          rw [hindex] at h
          obtain rfl : reader = r := Option.some.inj h
          exact hopen
        | succ index =>
          rw [hindex] at h
          cases h
  | read other size =>
    cases hother : u.reader? other with
    | none =>
      rw [step, hother] at h
      exact .inl (hsame h)
    | some reader =>
      rw [step, hother] at h
      by_cases heq : other = number
      · -- the reader that was read, with the same handle
        subst heq
        have hr : (reader.read size u.source).reader = r := by
          simp only [reader?, List.getElem?_set_self'] at h
          cases hold : u.readers[other]? <;> simp_all
        refine .inl ⟨reader, hother, ?_⟩
        rw [← hr]
        rcases reader.file_read size u.source with ⟨hfile, -⟩ | ⟨n, hfile, -⟩
        · rw [hfile]
        · rw [hfile, FileStream.handle?_read]
      · simp only [reader?, List.getElem?_set_ne heq] at h
        exact .inl (hsame h)
  | dropReader other =>
    rw [step] at h
    by_cases heq : other = number
    · subst heq
      simp only [reader?, List.getElem?_set_self'] at h
      cases hold : u.readers[other]? <;> simp_all
    · simp only [reader?, List.getElem?_set_ne heq] at h
      exact .inl (hsame h)

/-- Every reader belongs to the source of its encoder. -/
def IsFaithful (u : EncoderUse) : Prop :=
  ∀ number r, u.reader? number = some r → r.file.Belongs u.source

theorem IsFaithful.step (h : u.IsFaithful) (operation : EncoderOperation) :
    (u.step operation).IsFaithful := by
  intro number r hr
  have hfollows := FileSource.framed_follows.step u operation
  rcases reader?_step hr with ⟨r', hr', hhandle⟩ | ⟨-, rfl, hopen⟩
  · exact (h number r' hr').of_follows hfollows hhandle
  · rw [u.source_openReader]
    exact FileStream.belongs_openStream hopen

theorem IsFaithful.run (h : u.IsFaithful) (operations : List EncoderOperation) :
    (u.run operations).IsFaithful := by
  induction operations generalizing u with
  | nil => exact h
  | cons operation operations ih => exact ih (h.step operation)

end EncoderUse

/-! ### Between a rewind and the next pass -/

/-- An operation is **idle** behind a rewind if it begins no pass over the file, and reads only
through readers that had been opened before the rewind. -/
def EncoderOperation.isIdle (opened : Nat) : EncoderOperation → Bool
  | .writeTo _ => false
  | .read number _ => decide (number < opened)
  | _ => true

namespace EncoderUse

variable {u : EncoderUse} {file : Bytes} {opened : Nat}

/-- An encoder is **ready** for a pass over a file: the source stands at its start, and the readers
that had been opened before cannot move it. -/
structure IsReady (u : EncoderUse) (file : Bytes) (opened : Nat) : Prop where
  replays : u.source.Replays file
  position : u.source.position = 0
  opened_le : opened ≤ u.readers.length
  superseded : ∀ number < opened, ∀ r, u.reader? number = some r → r.file.Superseded u.source

theorem isReady_rewind (hfaithful : u.IsFaithful) (hreplays : u.source.Replays file)
    (hok : u.encoder.rewind.1 = .ok true) : (u.step .rewind).IsReady file u.readers.length where
  replays := hreplays.of_becomes (FileSource.framed_becomes.step u .rewind)
  position := FileSource.position_rewind hok
  opened_le := Nat.le_refl _
  superseded := fun number _ r hr => (hfaithful number r hr).superseded hok

/-- A read through a superseded reader leaves the source as it is. -/
theorem source_read_of_superseded {number size : Nat}
    (h : ∀ r, u.reader? number = some r → r.file.Superseded u.source) :
    (u.step (.read number size)).source = u.source := by
  rw [EncoderUse.step]
  cases hreader : u.reader? number with
  | none => rfl
  | some reader =>
    rcases reader.file_read size u.source with ⟨-, hsame⟩ | ⟨n, -, hread⟩
    · exact hsame
    · exact hread.trans ((h reader hreader).read n)

theorem length_readers_step (u : EncoderUse) (operation : EncoderOperation) :
    u.readers.length ≤ (u.step operation).readers.length := by
  cases operation with
  | openReader =>
    rcases u.step_openReader.2 with hreaders | ⟨reader, -, hreaders⟩
    · exact Nat.le_of_eq (congrArg _ hreaders.symm)
    · rw [hreaders, List.length_append]
      exact Nat.le_add_right _ _
  | read number size =>
    rw [EncoderUse.step]
    cases u.reader? number with
    | none => exact Nat.le_refl _
    | some reader => exact Nat.le_of_eq List.length_set.symm
  | dropReader number => exact Nat.le_of_eq List.length_set.symm
  | putField key value => exact Nat.le_refl _
  | setContentSha1 digest => exact Nat.le_refl _
  | rewind => exact Nat.le_refl _
  | writeTo sink => exact Nat.le_refl _

theorem IsReady.step (h : u.IsReady file opened) {operation : EncoderOperation}
    (hidle : operation.isIdle opened = true) : (u.step operation).IsReady file opened where
  replays := h.replays.of_becomes (FileSource.framed_becomes.step u operation)
  position := by
    cases operation with
    | putField key value => exact h.position
    | setContentSha1 digest => exact h.position
    | rewind => exact FileSource.position_rewind_of_zero h.position
    | writeTo sink => cases hidle
    | openReader =>
      rw [u.source_openReader, FileSource.position_openStream]
      exact h.position
    | read number size =>
      rw [source_read_of_superseded (h.superseded number (of_decide_eq_true hidle))]
      exact h.position
    | dropReader number => exact h.position
  opened_le := Nat.le_trans h.opened_le (u.length_readers_step operation)
  superseded := by
    intro number hlt r hr
    have hfollows := FileSource.framed_follows.step u operation
    rcases reader?_step hr with ⟨r', hr', hhandle⟩ | ⟨hge, -, -⟩
    · exact (h.superseded number hlt r' hr').of_follows hfollows hhandle
    · exact absurd (Nat.lt_of_lt_of_le hlt h.opened_le) (Nat.not_lt_of_le hge)

theorem IsReady.run (h : u.IsReady file opened) {idle : List EncoderOperation}
    (hidle : ∀ operation ∈ idle, operation.isIdle opened = true) :
    (u.run idle).IsReady file opened := by
  induction idle generalizing u with
  | nil => exact h
  | cons operation idle ih =>
    exact ih (h.step (hidle operation List.mem_cons_self))
      fun other hother => hidle other (List.mem_cons_of_mem _ hother)

/-! ### Whole passes -/

/-- The next pass over a body is **whole**: it hands over all of a file, from its first byte on,
whether the body is read or written. -/
structure PassesWhole (u : EncoderUse) (file : Bytes) : Prop where
  reads : ∃ r, u.encoder.reader.1 = .ok r ∧
    MultipartReader.ReadsOut u.encoder.head file r (u.step .openReader).source u.encoder.chunkSize ∧
    -- and it makes no difference what goes on beside the reading
    ∀ operations, (∀ operation ∈ operations, operation.isBeside u.readers.length = true) →
      (u.step .openReader).readings u.readers.length operations =
        (r.readEach (operations.filterMap (·.size?)) (u.step .openReader).source).1
  /-- A sink that does not fail takes the whole body. -/
  writes : ∀ sink : Sink, sink.Takes → (∀ error, ¬sink.MayFailAtFlush error) →
    (u.encoder.writeTo sink).result =
        .ok (u.encoder.head ++ file ++ Multipart.tail).length ∧
      (u.encoder.writeTo sink).sink.received =
        sink.received ++ (u.encoder.head ++ file ++ Multipart.tail)

theorem IsReady.passesWhole (h : u.IsReady file opened) : u.PassesWhole file := by
  have hdelivers : u.source.Delivers file := by
    have hfrom := h.replays.delivers
    rwa [h.position, List.drop_zero] at hfrom
  obtain ⟨⟨r, hreader, hreads⟩, hwrites⟩ := MultipartEncoder.readsOut_and_writesOut hdelivers
  refine ⟨⟨r, hreader, ?_, fun operations hbeside => ?_⟩, fun sink hsink hflush => ?_⟩
  · rwa [u.source_openReader]
  · exact readings_eq (u.reader?_openReader hreader) rfl hbeside
  · rcases (hwrites sink hsink).result with hwhole | ⟨error, hfault, -⟩
    · exact hwhole
    · exact absurd hfault (hflush error)

/-- **Passes.** However an encoder is used, a callback that writes its file runs once. A source that
replays a file goes on replaying it, and behind every rewind that succeeds the next pass is whole,
whatever was done to the encoder before. -/
theorem runsOnce_and_passesWhole (e : MultipartEncoder) :
    (e.file.source.isCallback = true → ∀ operations,
        RunsOnce e.file.source (startsIn { encoder := e } operations)
          (run { encoder := e } operations).encoder) ∧
      (∀ file, e.file.source.Replays file → ∀ operations,
        (run { encoder := e } operations).source.Replays file) ∧
      ∀ file before, (run { encoder := e } before).source.Replays file →
        (run { encoder := e } before).encoder.rewind.1 = .ok true →
          ∀ idle, (∀ operation ∈ idle,
              operation.isIdle (run { encoder := e } before).readers.length = true) →
            PassesWhole (run { encoder := e } (before ++ .rewind :: idle)) file := by
  refine ⟨fun h operations => runsOnce h operations, fun file h operations => ?_, ?_⟩
  · exact h.of_becomes (FileSource.framed_becomes.run { encoder := e } operations)
  · intro file before hreplays hok idle hidle
    have hfaithful : (run { encoder := e } before).IsFaithful := by
      refine IsFaithful.run ?_ before
      intro number r hr
      cases hr
    have hready := (isReady_rewind hfaithful hreplays hok).run hidle
    rw [run_append]
    exact hready.passesWhole

/-! ### Letters in use -/

/-- What is done to a dictated body: the callback is started by a reader, and then a write comes to
the file. -/
def dictatedOperations : List EncoderOperation :=
  [.rewind, .openReader, .read 0 1000, .writeTo MultipartEncoder.bytewise]

/-- What is done to a body of letters before it is rewound: it is read in part, and written to a
sink that fails in the end. -/
def usedOperations : List EncoderOperation :=
  [.openReader, .read 0 1000, .read 0 2, .putField "kind" "letters",
    .writeTo MultipartEncoder.unflushable]

/-- What is done to it after that: the old reader is tried again, and another one is opened. -/
def idleOperations : List EncoderOperation :=
  [.read 0 2, .openReader, .rewind, .setContentSha1 "digest", .dropReader 0]

/-- The callback of a dictated body runs once, and a body of letters that was used and rewound is
passed over whole. -/
theorem runsOnce_and_passesWhole_letters :
    startsIn { encoder := MultipartEncoder.dictated } dictatedOperations = 1 ∧
      RunsOnce MultipartEncoder.dictated.file.source 1
        (run { encoder := MultipartEncoder.dictated } dictatedOperations).encoder ∧
      PassesWhole (run { encoder := MultipartEncoder.threeLetters }
        (usedOperations ++ .rewind :: idleOperations)) [0x61, 0x62, 0x63] := by
  have hstarts : startsIn { encoder := MultipartEncoder.dictated } dictatedOperations = 1 := by
    decide +kernel
  have honce := (runsOnce_and_passesWhole MultipartEncoder.dictated).1 rfl dictatedOperations
  rw [hstarts] at honce
  obtain ⟨-, hreplay, hpass⟩ := runsOnce_and_passesWhole MultipartEncoder.threeLetters
  have hreplays : MultipartEncoder.threeLetters.file.source.Replays [0x61, 0x62, 0x63] :=
    .seekable (ByteSource.replays_ofBytes _)
  exact ⟨hstarts, honce, hpass _ usedOperations (hreplay _ hreplays usedOperations)
    (by decide +kernel) idleOperations (by decide +kernel)⟩

end EncoderUse

end ContentClient
