import ContentClient.Multipart.Writer
import ContentClient.Proofs.Multipart.Delivery
import ContentClient.Proofs.Stream.Scripts

/-!
# Writing a body out

A multipart body whose file is delivered is **written out** to every sink that takes: the sink ends
up with the head, the file and the tail behind what it had before, and their length is the result.
Only a flush of the sink that fails can get in the way. If it is the one behind the tail, the sink
has taken the whole body all the same; a callback that fails at a flush of its own leaves an initial
piece. The main statement is `MultipartEncoder.writesOut`.

A medium is copied to the sink read by read, until a read gives nothing; a callback writes to the
sink itself. Both count the bytes of the file, so the invariant speaks of the counting sink.
-/

namespace ContentClient

namespace Multipart

namespace CountingSink

/-- A counting sink has taken bytes of a file, and counted them. -/
structure HasTaken (c : CountingSink) (bytes : Bytes) (c' : CountingSink) : Prop where
  sink : c.sink.HasTaken bytes c'.sink
  written : c'.written = c.written + bytes.length

variable {c c' c'' : CountingSink} {bytes more : Bytes}

theorem hasTaken_nil (h : c.sink.Takes) : c.HasTaken [] c := ⟨h.hasTaken_nil, rfl⟩

theorem HasTaken.trans (h : c.HasTaken bytes c') (h' : c'.HasTaken more c'') :
    c.HasTaken (bytes ++ more) c'' where
  sink := h.sink.trans h'.sink
  written := by rw [h'.written, h.written, List.length_append, Nat.add_assoc]

theorem write_of_takes (h : c.sink.Takes) (bytes : Bytes) :
    ∃ c', c.write bytes = (.ok (), c') ∧ c.HasTaken bytes c' := by
  obtain ⟨hresult, hsum, htaken⟩ := h.writeAll bytes
  refine ⟨(c.write bytes).2, ?_, htaken, ?_⟩
  · rw [← hresult]
    rfl
  · exact hsum c.written

theorem writeChunk_of_takes (h : c.sink.Takes) (bytes : Bytes) :
    ∃ c', c.writeChunk bytes = (.ok (), c') ∧ c.HasTaken bytes c' := by
  obtain ⟨hresult, -, htaken⟩ := h.writeAll bytes
  refine ⟨{ sink := (c.sink.writeAll bytes).sink, written := c.written + bytes.length
            counts := c.counts ++ [c.written + bytes.length] }, ?_, htaken, rfl⟩
  simp only [writeChunk, hresult]

/-- How the writing of a file ends: all of it has been taken, or a flush has failed behind a piece
of it. -/
def Ends (c : CountingSink) (file : Bytes) (result : Except IoError Unit) (c' : CountingSink) :
    Prop :=
  (result = .ok () ∧ c.HasTaken file c') ∨
    ∃ e, c.sink.MayFailAtFlush e ∧ result = .error e ∧
      ∃ piece, piece <+: file ∧ c.HasTaken piece c'

/-- What is written before does not change how the writing of the rest ends. -/
theorem HasTaken.ends (h : c.HasTaken bytes c') {result : Except IoError Unit}
    (h' : c'.Ends more result c'') : c.Ends (bytes ++ more) result c'' := by
  rcases h' with ⟨hresult, htaken⟩ | ⟨e, hfault, hresult, piece, hpiece, htaken⟩
  · exact .inl ⟨hresult, h.trans htaken⟩
  · exact .inr ⟨e, h.sink.mayFailAtFlush hfault, hresult, bytes ++ piece,
      (List.prefix_append_right_inj bytes).mpr hpiece, h.trans htaken⟩

/-- A callback's output is written to a sink that takes. -/
theorem ends_run {script : Script} {output : Bytes} (hout : script.output? = some output)
    (h : c.sink.Takes) :
    c.Ends output (script.run writer c).1 (script.run writer c).2 := by
  induction script generalizing c output with
  | nil =>
    cases hout
    exact .inl ⟨rfl, hasTaken_nil h⟩
  | cons step rest ih =>
    cases step with
    | write bytes =>
      obtain ⟨output', hrest, rfl⟩ := Option.map_eq_some_iff.mp hout
      obtain ⟨c', hwrite, htaken⟩ := write_of_takes h bytes
      have hstep : writer.perform (.write bytes) c = (.ok (), c') := hwrite
      rw [Script.run_cons_ok hstep]
      exact htaken.ends (ih hrest htaken.sink.takes)
    | flush =>
      obtain ⟨htaken, hflush⟩ := h.flush
      have hflushed : c.HasTaken [] c.flush.2 := ⟨htaken, rfl⟩
      rcases hflush with hok | ⟨e, hfault, herror⟩
      · have hstep : writer.perform .flush c = (.ok (), c.flush.2) := Prod.ext hok rfl
        rw [Script.run_cons_ok hstep]
        exact hflushed.ends (ih hout hflushed.sink.takes)
      · -- the callback stops here, with a piece of its output taken
        have hstep : writer.perform .flush c = (.error e, c.flush.2) := Prod.ext herror rfl
        rw [Script.run_cons_error hstep]
        exact .inr ⟨e, hfault, rfl, [], List.nil_prefix, hflushed⟩
    | fail e => cases hout

end CountingSink

/-- A stream that delivers a file is copied to a sink that takes. -/
theorem copy_of_delivers {stream : FileStream} {source : FileSource} {file : Bytes}
    (h : stream.Delivers source file) {chunkSize : Nat} (hchunk : 0 < chunkSize) {rounds : Nat}
    (hrounds : file.length < rounds) {c : CountingSink} (hc : c.sink.Takes) :
    (copy chunkSize rounds stream source c).1 = .ok () ∧
      c.HasTaken file (copy chunkSize rounds stream source c).2.2 := by
  induction rounds generalizing stream source file c with
  | zero => omega
  | succ rounds ih =>
    obtain ⟨bytes, rest, htakes, hdelivers⟩ := h.read hchunk
    have hresult := htakes.result
    cases hread : stream.read chunkSize source with
    | mk result next =>
      obtain ⟨stream', source'⟩ := next
      rw [hread] at hresult hdelivers
      cases hresult
      cases bytes with
      | nil =>
        -- only the end of the file gives nothing to a buffer with room
        have heq : copy chunkSize (rounds + 1) stream source c = (.ok (), source', c) := by
          simp only [copy, hread]
        rw [heq, htakes.eq_nil rfl]
        exact ⟨rfl, CountingSink.hasTaken_nil hc⟩
      | cons b bytes =>
        -- the chunk is taken, and what the stream still delivers is shorter
        obtain ⟨c', hwrite, htaken⟩ := CountingSink.writeChunk_of_takes hc (b :: bytes)
        have heq : copy chunkSize (rounds + 1) stream source c =
            copy chunkSize rounds stream' source' c' := by
          simp only [copy, hread, hwrite]
        have hlen := congrArg List.length htakes.split
        rw [List.length_append, List.length_cons] at hlen
        obtain ⟨hok, htaken'⟩ := ih hdelivers (by omega) htaken.sink.takes
        rw [heq, htakes.split]
        exact ⟨hok, htaken.trans htaken'⟩

/-- A medium is written by copying a stream of it. -/
theorem writeFile_of_openStream {source : FileSource} {stream : FileStream} {chunkSize : Nat}
    (hopen : (source.openStream chunkSize).1 = .ok stream)
    (hmedium : ∀ script, source ≠ .callback script) (c : CountingSink) :
    writeFile source chunkSize c =
      copy chunkSize (stream.readBound (source.openStream chunkSize).2 + 1) stream
        (source.openStream chunkSize).2 c := by
  cases source with
  | callback script => exact absurd rfl (hmedium script)
  | seekable shared =>
    cases hopen
    rfl
  | reopened openAt opened =>
    have hopen' : (openAt opened).map .owned = .ok stream := hopen
    simp only [writeFile, FileSource.openStream, hopen']

/-- A medium that is delivered is written to a sink that takes, without failure. -/
theorem writeFile_of_medium {source : FileSource} {file : Bytes} (h : source.Delivers file)
    {chunkSize : Nat} (hchunk : 0 < chunkSize) {c : CountingSink} (hc : c.sink.Takes)
    (hmedium : ∀ script, source ≠ .callback script) :
    (writeFile source chunkSize c).1 = .ok () ∧
      c.HasTaken file (writeFile source chunkSize c).2.2 := by
  obtain ⟨stream, hopen, hstream⟩ := h.openStream chunkSize
  have hrounds : file.length < stream.readBound (source.openStream chunkSize).2 + 1 :=
    Nat.lt_succ_of_le (Nat.le_of_eq hstream.length_eq)
  rw [writeFile_of_openStream hopen hmedium]
  exact copy_of_delivers hstream hchunk hrounds hc

/-- A file that is delivered is written to a sink that takes. -/
theorem ends_writeFile {source : FileSource} {file : Bytes} (h : source.Delivers file)
    {chunkSize : Nat} (hchunk : 0 < chunkSize) {c : CountingSink} (hc : c.sink.Takes) :
    c.Ends file (writeFile source chunkSize c).1 (writeFile source chunkSize c).2.2 := by
  by_cases hmedium : ∀ script, source ≠ .callback script
  · exact .inl (writeFile_of_medium h hchunk hc hmedium)
  · cases h with
    | callback writes => exact CountingSink.ends_run writes hc
    | seekable flows => exact absurd (fun _ h => by cases h) hmedium
    | reopened opens flows => exact absurd (fun _ h => by cases h) hmedium

end Multipart

namespace MultipartEncoder

variable (e : MultipartEncoder) (sink : Sink) (file : Bytes)

/-- A body with a file is **written out** to a sink. -/
structure WritesOut : Prop where
  /-- The sink takes the whole body, whose length is the result, unless a flush of it fails. -/
  result : ((e.writeTo sink).result = .ok (e.head ++ file ++ Multipart.tail).length ∧
      (e.writeTo sink).sink.received =
        sink.received ++ (e.head ++ file ++ Multipart.tail)) ∨
    ∃ error, sink.MayFailAtFlush error ∧ (e.writeTo sink).result = .error error
  /-- Even then it takes the whole body, as long as the file is written without failure. -/
  whole : (e.writeTo sink).file = some (.ok ()) →
    (e.writeTo sink).sink.received = sink.received ++ (e.head ++ file ++ Multipart.tail)
  /-- A file is written without failure, unless it is a callback that writes it. -/
  medium : (∀ script, e.file.source ≠ .callback script) → (e.writeTo sink).file = some (.ok ())
  /-- Whatever happens, the sink takes an initial piece of the body. -/
  initial : ∃ piece, piece <+: e.head ++ file ++ Multipart.tail ∧
    (e.writeTo sink).sink.received = sink.received ++ piece

variable {e sink file}

/-- A body whose head cannot be written leaves the encoder as it is. -/
theorem writeTo_of_head_error {x : IoError} (h : (sink.writeAll e.head).result = .error x) :
    e.writeTo sink = ⟨.error x, e, (sink.writeAll e.head).sink, [], none⟩ := by
  simp only [writeTo, h]

/-- If writing the file fails, nothing follows it. -/
theorem writeTo_of_writeFile_error {source : FileSource} {c : Multipart.CountingSink} {x : IoError}
    (hhead : (sink.writeAll e.head).result = .ok ())
    (hfile : Multipart.writeFile e.file.source e.chunkSize
      { sink := (sink.writeAll e.head).sink } = (.error x, source, c)) :
    e.writeTo sink =
      ⟨.error x, e.withSource source, c.sink, e.reports c.counts, some (.error x)⟩ := by
  simp only [writeTo, hhead, hfile]

/-- A body is written out if its file has been taken: what is left is the tail and a flush. -/
theorem writesOut_of_hasTaken (hsink : sink.Takes) {source : FileSource}
    {c : Multipart.CountingSink}
    (hfile : Multipart.writeFile e.file.source e.chunkSize
      { sink := (sink.writeAll e.head).sink } = (.ok (), source, c))
    (htaken : Multipart.CountingSink.HasTaken { sink := (sink.writeAll e.head).sink } file c) :
    WritesOut e sink file := by
  obtain ⟨hhead, -, hheadTaken⟩ := hsink.writeAll e.head
  obtain ⟨htail, -, htailTaken⟩ := htaken.sink.takes.writeAll Multipart.tail
  obtain ⟨hflushed, hflush⟩ := htailTaken.takes.flush
  have hwhole := (hheadTaken.trans htaken.sink).trans htailTaken
  have hreceived := (hwhole.trans hflushed).received
  rw [List.append_nil] at hreceived
  cases hend : (c.sink.writeAll Multipart.tail).sink.flush with
  | mk flushed last =>
    rw [hend] at hflush hreceived
    rcases hflush with rfl | ⟨error, hfault, rfl⟩
    · have heq : e.writeTo sink = ⟨.ok (e.head.length + c.written + Multipart.tail.length),
          e.withSource source, last, e.reports c.counts, some (.ok ())⟩ := by
        simp only [writeTo, hhead, hfile, htail, hend, head_withSource]
      have hlength : e.head.length + c.written + Multipart.tail.length =
          (e.head ++ file ++ Multipart.tail).length := by
        rw [htaken.written, List.length_append, List.length_append]
        simp only [Nat.zero_add]
      rw [hlength] at heq
      have hsunk : (e.writeTo sink).sink.received =
          sink.received ++ (e.head ++ file ++ Multipart.tail) := by
        rw [heq]
        exact hreceived
      exact
        { result := .inl ⟨by rw [heq], hsunk⟩
          whole := fun _ => hsunk
          medium := fun _ => by rw [heq]
          initial := ⟨_, List.prefix_rfl, hsunk⟩ }
    · -- the flush behind the tail has failed, with the whole body taken
      have heq : e.writeTo sink = ⟨.error error, e.withSource source, last,
          e.reports c.counts, some (.ok ())⟩ := by
        simp only [writeTo, hhead, hfile, htail, hend]
      have hsunk : (e.writeTo sink).sink.received =
          sink.received ++ (e.head ++ file ++ Multipart.tail) := by
        rw [heq]
        exact hreceived
      exact
        { result := .inr ⟨error, hwhole.mayFailAtFlush hfault, by rw [heq]⟩
          whole := fun _ => hsunk
          medium := fun _ => by rw [heq]
          initial := ⟨_, List.prefix_rfl, hsunk⟩ }

/-- A body whose file is delivered is written out to a sink that takes. -/
theorem writesOut (h : e.file.source.Delivers file) (hsink : sink.Takes) :
    WritesOut e sink file := by
  obtain ⟨hhead, -, hheadTaken⟩ := hsink.writeAll e.head
  have hends := Multipart.ends_writeFile h e.chunkSize_pos
    (c := { sink := (sink.writeAll e.head).sink }) hheadTaken.takes
  cases hfile : Multipart.writeFile e.file.source e.chunkSize
      { sink := (sink.writeAll e.head).sink } with
  | mk result next =>
    obtain ⟨source, c⟩ := next
    rw [hfile] at hends
    rcases hends with ⟨rfl, htaken⟩ | ⟨error, hfault, rfl, piece, hpiece, htaken⟩
    · exact writesOut_of_hasTaken hsink hfile htaken
    · -- a flush has failed while a callback wrote the file
      have heq := writeTo_of_writeFile_error hhead hfile
      refine
        { result := .inr ⟨error, hheadTaken.mayFailAtFlush hfault, by rw [heq]⟩
          whole := ?_
          medium := ?_
          initial := ?_ }
      · rw [heq]
        intro hok
        cases hok
      · intro hmedium
        have hok := (Multipart.writeFile_of_medium h e.chunkSize_pos
          (c := { sink := (sink.writeAll e.head).sink }) hheadTaken.takes hmedium).1
        rw [hfile] at hok
        cases hok
      · rw [heq]
        refine ⟨e.head ++ piece, ?_, (hheadTaken.trans htaken.sink).received⟩
        rw [List.append_assoc]
        exact (List.prefix_append_right_inj _).mpr (hpiece.trans (List.prefix_append _ _))

end MultipartEncoder

end ContentClient
