import ContentClient.Proofs.Multipart.Delivery

/-!
# What a pass over a file does

A pass over a file that is pushed somewhere does what a script does: it hands over bytes, time after
time, and ends by itself or with a failure. A callback is such a script already. For a medium, which
may fail at any read and hand over as little as it likes, the **transcript** of the pass is the
script that writes the chunks of its reads, up to a read that gives nothing or fails. A pass that
cannot be started fails at once.

The transcript says what the source delivers, whatever it is: `Script.written` are its bytes and
`Script.ending` is how it ends. Every source has exactly one (`FileSource.existsUnique_transcript`),
and if the source delivers a file, the transcript writes that file (`Delivers.written_transcript`).
A read that hands over bytes uses up as many of what is left of its medium, which is why a pass
comes to an end.
-/

namespace ContentClient

/-! ### What is left of a medium -/

theorem ByteSource.readBound_read {s : ByteSource} {size : Nat} {bytes : Bytes}
    (h : (s.read size).1 = .ok bytes) : (s.read size).2.readBound + bytes.length = s.readBound := by
  have hlength (s : ByteSource) : s.readBound = s.remaining.length := List.length_drop.symm
  rw [hlength, hlength, remaining_read h, List.length_append, Nat.add_comm]

/-- The bytes that are left in the chunks of a pipe. -/
def Pipe.left (p : Pipe) : Bytes := p.current ++ p.pending.flatMap fun c => c.toOption.getD []

theorem Pipe.left_readFrom {p : Pipe} {size : Nat} {bytes : Bytes} (current : Bytes)
    (pending : List Chunk) (taken : Nat)
    (h : (p.readFrom size current pending taken).1 = .ok bytes) :
    current ++ pending.flatMap (fun c => c.toOption.getD []) =
      bytes ++ (p.readFrom size current pending taken).2.left := by
  induction pending generalizing current taken with
  | nil =>
    cases current with
    | nil =>
      cases h
      rfl
    | cons b current =>
      rw [readFrom_cons] at h ⊢
      cases h
      rw [left, ← List.append_assoc, List.take_append_drop]
  | cons chunk pending ih =>
    cases current with
    | nil =>
      -- a failure gives no bytes, and a chunk is read from in its turn
      cases chunk with
      | error e => cases h
      | ok chunk => exact ih chunk (taken + 1) h
    | cons b current =>
      rw [readFrom_cons] at h ⊢
      cases h
      rw [left, ← List.append_assoc, List.take_append_drop]

/-- A read that hands over bytes uses up as many. -/
theorem FileStream.readBound_read {stream : FileStream} {source : FileSource} {size : Nat}
    {bytes : Bytes} (h : (stream.read size source).1 = .ok bytes) :
    (stream.read size source).2.1.readBound (stream.read size source).2.2 + bytes.length =
      stream.readBound source := by
  cases stream with
  | shared handle =>
    cases source with
    | seekable medium =>
      by_cases hcurrent : handle = medium.generation
      · simp only [FileStream.read, SharedSource.read, hcurrent, if_true] at h ⊢
        exact ByteSource.readBound_read h
      · simp only [FileStream.read, SharedSource.read_superseded size hcurrent] at h
        cases h
    | reopened openAt opened => cases h
    | callback script => cases h
  | owned medium => exact ByteSource.readBound_read h
  | piped pipe =>
    have hleft := congrArg List.length
      (Pipe.left_readFrom pipe.current pipe.pending pipe.taken h)
    rw [List.length_append, List.length_append, Pipe.left, List.length_append] at hleft
    calc _ = (pipe.read size).2.current.length +
          ((pipe.read size).2.pending.flatMap fun c => c.toOption.getD []).length +
            bytes.length := rfl
      _ = pipe.current.length +
          (pipe.pending.flatMap fun c => c.toOption.getD []).length := by
        rw [hleft, Pipe.read, Nat.add_comm]

/-! ### Transcripts -/

/-- The transcript of a stream that is read with buffers of one size. -/
inductive FileStream.Transcript (size : Nat) : FileStream → FileSource → Script → Prop where
  /-- A read that gives nothing is the end. -/
  | ends {stream : FileStream} {source : FileSource} {next : FileStream × FileSource}
      (read : stream.read size source = (.ok [], next)) : Transcript size stream source []
  /-- A read that fails is the end, too. -/
  | fails {stream : FileStream} {source : FileSource} {e : IoError}
      {next : FileStream × FileSource} (read : stream.read size source = (.error e, next)) :
      Transcript size stream source [.fail e]
  /-- Any other read hands over a chunk, and the next one follows. -/
  | gives {stream stream' : FileStream} {source source' : FileSource} {b : UInt8} {bytes : Bytes}
      {script : Script} (read : stream.read size source = (.ok (b :: bytes), stream', source'))
      (rest : Transcript size stream' source' script) :
      Transcript size stream source (.write (b :: bytes) :: script)

/-- The transcript of a pass over a file. -/
inductive FileSource.Transcript (chunkSize : Nat) : FileSource → Script → Prop where
  | callback {script : Script} : Transcript chunkSize (.callback (some script)) script
  | medium {source : FileSource} {stream : FileStream} {script : Script}
      (medium : ∀ script, source ≠ .callback script)
      (opens : (source.openStream chunkSize).1 = .ok stream)
      (pass : stream.Transcript chunkSize (source.openStream chunkSize).2 script) :
      Transcript chunkSize source script
  | unopened {source : FileSource} {e : IoError}
      (refuses : (source.openStream chunkSize).1 = .error e) :
      Transcript chunkSize source [.fail e]

namespace FileStream

variable {size : Nat} {stream : FileStream} {source : FileSource} {script script' : Script}

/-- A stream has a transcript: every chunk uses up what is left of the medium. -/
theorem exists_transcript (size : Nat) (stream : FileStream) (source : FileSource) :
    ∃ script, stream.Transcript size source script := by
  induction hleft : stream.readBound source using Nat.strongRecOn
    generalizing stream source with
  | _ left ih =>
    cases hread : stream.read size source with
    | mk result next =>
      cases result with
      | error e => exact ⟨_, .fails hread⟩
      | ok bytes =>
        cases bytes with
        | nil => exact ⟨_, .ends hread⟩
        | cons b bytes =>
          -- less is left behind the chunk, so that what follows has a transcript
          have hused := readBound_read (congrArg Prod.fst hread)
          rw [hread, List.length_cons] at hused
          dsimp only at hused
          obtain ⟨script, hscript⟩ := ih _ (by omega) next.1 next.2 rfl
          exact ⟨_, .gives hread hscript⟩

theorem Transcript.unique (h : stream.Transcript size source script)
    (h' : stream.Transcript size source script') : script = script' := by
  -- a read has one result, so both transcripts go on in the same way
  induction h generalizing script' with
  | ends read =>
    cases h' with
    | ends read' => rfl
    | fails read' => cases read.symm.trans read'
    | gives read' rest' => cases read.symm.trans read'
  | fails read =>
    cases h' with
    | ends read' => cases read.symm.trans read'
    | fails read' =>
      cases read.symm.trans read'
      rfl
    | gives read' rest' => cases read.symm.trans read'
  | gives read rest ih =>
    cases h' with
    | ends read' => cases read.symm.trans read'
    | fails read' => cases read.symm.trans read'
    | gives read' rest' =>
      cases read.symm.trans read'
      rw [ih rest']

/-- A stream that delivers a file is read to the end of it. -/
theorem Transcript.written_of_delivers (h : stream.Transcript size source script)
    (hsize : 0 < size) {file : Bytes} (hdelivers : stream.Delivers source file) :
    script.written = file ∧ script.ending = .ok () := by
  induction h generalizing file with
  | ends read =>
    obtain ⟨bytes, rest, htakes, -⟩ := hdelivers.read hsize
    have hresult := htakes.result
    rw [read] at hresult
    cases hresult
    exact ⟨(htakes.eq_nil rfl).symm, rfl⟩
  | fails read =>
    obtain ⟨bytes, rest, htakes, -⟩ := hdelivers.read hsize
    have hresult := htakes.result
    rw [read] at hresult
    cases hresult
  | gives read rest ih =>
    obtain ⟨bytes, left, htakes, hnext⟩ := hdelivers.read hsize
    have hresult := htakes.result
    rw [read] at hresult hnext
    cases hresult
    obtain ⟨hwritten, hending⟩ := ih hnext
    exact ⟨(congrArg _ hwritten).trans htakes.split.symm, hending⟩

end FileStream

namespace FileSource

variable {chunkSize : Nat} {source : FileSource} {script script' : Script}

theorem Transcript.unique (h : source.Transcript chunkSize script)
    (h' : source.Transcript chunkSize script') : script = script' := by
  cases h with
  | callback =>
    cases h' with
    | callback => rfl
    | medium hmedium opens pass => exact absurd rfl (hmedium _)
    | unopened refuses => cases refuses
  | medium hmedium opens pass =>
    cases h' with
    | callback => exact absurd rfl (hmedium _)
    | medium hmedium' opens' pass' =>
      cases opens.symm.trans opens'
      exact pass.unique pass'
    | unopened refuses => cases opens.symm.trans refuses
  | unopened refuses =>
    cases h' with
    | callback => cases refuses
    | medium hmedium opens pass => cases opens.symm.trans refuses
    | unopened refuses' =>
      cases refuses.symm.trans refuses'
      rfl

/-- Every source has exactly one transcript. -/
theorem existsUnique_transcript (source : FileSource) (chunkSize : Nat) :
    ∃ script, ∀ script', source.Transcript chunkSize script' ↔ script' = script := by
  obtain ⟨script, hscript⟩ : ∃ script, source.Transcript chunkSize script := by
    by_cases hmedium : ∀ script, source ≠ .callback script
    · cases hopen : (source.openStream chunkSize).1 with
      | error e => exact ⟨_, .unopened hopen⟩
      | ok stream =>
        obtain ⟨script, hpass⟩ := stream.exists_transcript chunkSize (source.openStream chunkSize).2
        exact ⟨script, .medium hmedium hopen hpass⟩
    · obtain ⟨script?, rfl⟩ := Classical.not_forall_not.mp hmedium
      cases script? with
      | none => exact ⟨_, .unopened rfl⟩
      | some script => exact ⟨script, .callback⟩
  refine ⟨script, fun script' => ⟨fun h => h.unique hscript, ?_⟩⟩
  rintro rfl
  exact hscript

/-- The transcript of a source that delivers a file writes the file, and does not give up. -/
theorem Delivers.written_transcript {file : Bytes} (h : source.Delivers file)
    (hchunk : 0 < chunkSize) (hscript : source.Transcript chunkSize script) :
    script.written = file ∧ script.ending = .ok () := by
  cases hscript with
  | callback =>
    cases h with
    | callback writes =>
      obtain ⟨hending, hwritten⟩ := Script.ending_of_output writes
      exact ⟨hwritten, hending⟩
  | medium hmedium opens pass =>
    obtain ⟨stream, hopen, hdelivers⟩ := h.openStream chunkSize
    cases opens.symm.trans hopen
    exact pass.written_of_delivers hchunk hdelivers
  | unopened refuses =>
    obtain ⟨stream, hopen, -⟩ := h.openStream chunkSize
    cases refuses.symm.trans hopen

end FileSource

end ContentClient
