import ContentClient.Proofs.Multipart.Received
import ContentClient.Proofs.Multipart.Transcripts

/-!
# A pushed body as a script

To push a body is to run a script against a sink: write the head, do what the transcript of the file
does, write the tail, and flush (`MultipartEncoder.bodyScript`). That goes for every source and
every sink, whatever fails. The main statement is `MultipartEncoder.FileComesAs.isPushedBy`.

The writer counts the bytes of the file, and reports its counts. It never asks the sink. Someone who
watches the sink sees what it holds: behind every single write of a callback, and behind every chunk
of a medium (`Script.seen`). The counts are the lengths of what is seen, less what the sink held
before the file. A run of writes that fails in the middle of a chunk leaves bytes in the sink that
have not been counted, but nothing is counted behind it; this is why the invariant of the count is
kept only as far as writing succeeds (`Counted.countsFrom`).
-/

namespace ContentClient

/-! ### Plain sinks -/

namespace Sink

/-- A sink as a producer sees it. -/
def writer : Writer Sink :=
  ⟨fun bytes s => ((s.writeAll bytes).result, (s.writeAll bytes).sink), flush⟩

theorem gets_perform (step : ScriptStep) (s : Sink) :
    s.Gets step.bytes (writer.perform step s).1 (writer.perform step s).2 := by
  cases step with
  | write bytes => exact s.gets_writeAll bytes
  | flush => exact s.gets_flush
  | fail e => exact gets_nil rfl _

/-- A sink gets what a script writes to it. -/
theorem gets_run (script : Script) (s : Sink) :
    s.Gets script.written (script.run writer s).1 (script.run writer s).2 :=
  Gets.run id gets_perform script s

/-! ### Watching a sink -/

/-- A way to watch a sink while bytes are written until all are accepted: what it holds whenever
someone looks. -/
abbrev Watch := Sink → Bytes → List Bytes

/-- What a sink holds behind each of at most `rounds` writes. -/
def seenRounds : (rounds : Nat) → Sink → Bytes → List Bytes
  | _, _, [] => []
  | 0, _, _ :: _ => []
  | rounds + 1, s, b :: bytes =>
    match s.write (b :: bytes) with
    | (.error _, _) => []
    | (.ok 0, s) => [s.received]
    | (.ok (n + 1), s) => s.received :: seenRounds rounds s (bytes.drop n)

/-- To look behind every single write. -/
def watchWrites : Watch := fun s bytes => seenRounds bytes.length s bytes

/-- To look behind all of them, once everything is accepted. -/
def watchChunks : Watch := fun s bytes =>
  match (s.writeAll bytes).result with
  | .error _ => []
  | .ok () => [(s.writeAll bytes).sink.received]

end Sink

/-- What is seen in a sink while one thing is done to it. -/
def ScriptStep.seen (watch : Sink.Watch) (s : Sink) : ScriptStep → List Bytes
  | .write bytes => watch s bytes
  | _ => []

/-- What is seen in a sink while a script runs against it. -/
def Script.seen (watch : Sink.Watch) : Script → Sink → List Bytes
  | [], _ => []
  | step :: rest, s =>
    step.seen watch s ++
      match Sink.writer.perform step s with
      | (.error _, _) => []
      | (.ok (), s) => Script.seen watch rest s

/-- How the sink of a push is watched: a callback writes to it by itself. -/
def FileSource.watch : FileSource → Sink.Watch
  | .callback _ => Sink.watchWrites
  | _ => Sink.watchChunks

/-! ### Counting -/

namespace Multipart

namespace CountingSink

/-- The counting sink as it is written to chunk by chunk. -/
def chunkWriter : Writer CountingSink := ⟨writeChunk, flush⟩

/-- A counting sink **counts from** what its sink held before the file. -/
def CountsFrom (start : Nat) (c : CountingSink) : Prop :=
  c.sink.received.length = start + c.written

/-- What becomes of a counting sink that something is done to, as far as a plain sink tells: it ends
the same way, and counts what is seen. As long as there is no failure, the count goes on from the
same start. -/
structure Counted (start : Nat) (c : CountingSink) (seen : List Bytes)
    (plain : Except IoError Unit × Sink) (counting : Except IoError Unit × CountingSink) :
    Prop where
  result : counting.1 = plain.1
  sink : counting.2.sink = plain.2
  counts : counting.2.counts = c.counts ++ seen.map (·.length - start)
  countsFrom : counting.1 = .ok () → counting.2.CountsFrom start

/-- A writer **counts by** a watch if that goes for everything that is done through it. -/
def CountsBy (watch : Sink.Watch) (w : Writer CountingSink) : Prop :=
  ∀ {start : Nat} {c : CountingSink}, c.CountsFrom start → ∀ step : ScriptStep,
    Counted start c (step.seen watch c.sink) (Sink.writer.perform step c.sink) (w.perform step c)

theorem totals_writeRounds {start written : Nat} (rounds : Nat) {s : Sink} (bytes : Bytes)
    (h : s.received.length = start + written) :
    totals written (Sink.writeRounds rounds s bytes).accepted =
        (Sink.seenRounds rounds s bytes).map (·.length - start) ∧
      (Sink.writeRounds rounds s bytes).sink.received.length =
        start + (Sink.writeRounds rounds s bytes).accepted.foldl (· + ·) written := by
  induction rounds generalizing s bytes written with
  | zero => cases bytes <;> exact ⟨rfl, h⟩
  | succ rounds ih =>
    cases bytes with
    | nil => exact ⟨rfl, h⟩
    | cons b bytes =>
      rw [Sink.writeRounds, Sink.seenRounds]
      cases hwrite : s.write (b :: bytes) with
      | mk result next =>
        cases result with
        | error e =>
          have hreceived := Sink.received_of_write_error hwrite
          exact ⟨rfl, (congrArg List.length hreceived).trans h⟩
        | ok n =>
          obtain ⟨hle, hreceived⟩ := Sink.received_of_write hwrite
          have hlength : next.received.length = start + (written + n) := by
            rw [hreceived, List.length_append, List.length_take, Nat.min_eq_left hle, h,
              Nat.add_assoc]
          have htotal : written + n = next.received.length - start := by
            rw [hlength, Nat.add_sub_cancel_left]
          cases n with
          | zero => exact ⟨congrArg (· :: []) htotal, hlength⟩
          | succ n =>
            obtain ⟨htotals, hsum⟩ := ih (bytes.drop n) hlength
            refine ⟨?_, hsum⟩
            show (written + (n + 1)) :: _ = (next.received.length - start) :: _
            rw [← htotal, htotals]

/-- Where nothing is seen, nothing is counted. -/
theorem counted_nil {start : Nat} {c c' : CountingSink} {result : Except IoError Unit}
    (hcounts : c'.counts = c.counts) (hfrom : result = .ok () → c'.CountsFrom start) :
    Counted start c [] (result, c'.sink) (result, c') where
  result := rfl
  sink := rfl
  counts := hcounts.trans (List.append_nil _).symm
  countsFrom := hfrom

theorem counted_flush {start : Nat} {c : CountingSink} (h : c.CountsFrom start) :
    Counted start c [] c.sink.flush c.flush :=
  @counted_nil start c c.flush.2 c.sink.flush.1 rfl fun _ =>
    (congrArg List.length c.sink.received_flush).trans h

theorem counted_fail (start : Nat) (c : CountingSink) (e : IoError) :
    Counted start c [] (.error e, c.sink) (.error e, c) :=
  counted_nil rfl fun hok => by cases hok

/-- A callback counts behind every single write. -/
theorem countsBy_writer : CountsBy Sink.watchWrites writer := by
  intro start c h step
  cases step with
  | write bytes =>
    obtain ⟨htotals, hlength⟩ := totals_writeRounds bytes.length bytes h
    exact
      { result := rfl
        sink := rfl
        counts := congrArg (c.counts ++ ·) htotals
        countsFrom := fun _ => hlength }
  | flush => exact counted_flush h
  | fail e => exact counted_fail start c e

/-- A medium is counted behind every chunk. -/
theorem countsBy_chunkWriter : CountsBy Sink.watchChunks chunkWriter := by
  intro start c h step
  cases step with
  | write bytes =>
    show Counted start c (Sink.watchChunks c.sink bytes)
      ((c.sink.writeAll bytes).result, (c.sink.writeAll bytes).sink) (c.writeChunk bytes)
    cases hresult : (c.sink.writeAll bytes).result with
    | error e =>
      -- what the sink has got of the chunk has not been counted
      simp only [writeChunk, Sink.watchChunks, hresult]
      exact @counted_nil start c { c with sink := (c.sink.writeAll bytes).sink } (.error e) rfl
        fun hok => by cases hok
    | ok u =>
      have hlength : (c.sink.writeAll bytes).sink.received.length =
          start + (c.written + bytes.length) := by
        rw [Sink.received_of_writeAll hresult, List.length_append, h, Nat.add_assoc]
      simp only [writeChunk, Sink.watchChunks, hresult]
      exact
        { result := rfl
          sink := rfl
          counts := by rw [List.map_cons, List.map_nil, hlength, Nat.add_sub_cancel_left]
          countsFrom := fun _ => hlength }
  | flush => exact counted_flush h
  | fail e => exact counted_fail start c e

/-- A writer that counts by a watch counts what is seen while a script runs. -/
theorem CountsBy.run {watch : Sink.Watch} {w : Writer CountingSink} (hw : CountsBy watch w)
    (script : Script) {start : Nat} {c : CountingSink} (h : c.CountsFrom start) :
    Counted start c (script.seen watch c.sink) (script.run Sink.writer c.sink)
      (script.run w c) := by
  induction script generalizing c with
  | nil => exact counted_nil rfl fun _ => h
  | cons step rest ih =>
    have hcounted := hw h step
    cases hstep : w.perform step c with
    | mk result next =>
      rw [hstep] at hcounted
      -- the plain sink goes along with the counting one
      have hplain : Sink.writer.perform step c.sink = (result, next.sink) :=
        Prod.ext hcounted.result.symm hcounted.sink.symm
      rw [Script.seen, hplain]
      cases result with
      | error e =>
        rw [Script.run_cons_error hstep, Script.run_cons_error hplain, List.append_nil]
        exact hplain ▸ hcounted
      | ok u =>
        have hrest := ih (hcounted.countsFrom rfl)
        rw [Script.run_cons_ok hstep, Script.run_cons_ok hplain]
        exact { hrest with
          counts := by
            rw [hrest.counts, hcounted.counts, List.map_append, List.append_assoc] }

end CountingSink

/-! ### Files as scripts -/

/-- How a file is counted: a callback writes to the sink by itself. -/
def counter : FileSource → Writer CountingSink
  | .callback _ => CountingSink.writer
  | _ => CountingSink.chunkWriter

theorem countsBy_counter (source : FileSource) :
    CountingSink.CountsBy source.watch (counter source) := by
  cases source with
  | callback script => exact CountingSink.countsBy_writer
  | seekable shared => exact CountingSink.countsBy_chunkWriter
  | reopened openAt opened => exact CountingSink.countsBy_chunkWriter

variable {chunkSize : Nat} {source : FileSource} {script : Script}

/-- Copying a stream does what its transcript does. -/
theorem copy_of_transcript {stream : FileStream} (h : stream.Transcript chunkSize source script)
    {rounds : Nat} (hrounds : stream.readBound source < rounds) (c : CountingSink) :
    (copy chunkSize rounds stream source c).1 = (script.run CountingSink.chunkWriter c).1 ∧
      (copy chunkSize rounds stream source c).2.2 =
        (script.run CountingSink.chunkWriter c).2 := by
  induction h generalizing rounds c with
  | ends read =>
    obtain ⟨rounds, rfl⟩ := Nat.exists_eq_succ_of_ne_zero (Nat.ne_zero_of_lt hrounds)
    simp only [copy, read, Script.run, and_self]
  | fails read =>
    obtain ⟨rounds, rfl⟩ := Nat.exists_eq_succ_of_ne_zero (Nat.ne_zero_of_lt hrounds)
    simp only [copy, read, Script.run, and_self]
  | @gives stream stream' source source' b bytes script read rest ih =>
    obtain ⟨rounds, rfl⟩ := Nat.exists_eq_succ_of_ne_zero (Nat.ne_zero_of_lt hrounds)
    -- the chunk has used up a byte at least, so the rounds left suffice for the rest
    have hused := FileStream.readBound_read (congrArg Prod.fst read)
    rw [read, List.length_cons] at hused
    dsimp only at hused
    cases hwrite : c.writeChunk (b :: bytes) with
    | mk result next =>
      have hstep : CountingSink.chunkWriter.perform (.write (b :: bytes)) c = (result, next) :=
        hwrite
      cases result with
      | error e =>
        rw [Script.run_cons_error hstep]
        simp only [copy, read, hwrite, and_self]
      | ok u =>
        rw [Script.run_cons_ok hstep]
        simpa only [copy, read, hwrite] using ih (by omega) next

/-- Writing a file does what the transcript of its source does. -/
theorem writeFile_of_transcript (h : source.Transcript chunkSize script) (c : CountingSink) :
    (writeFile source chunkSize c).1 = (script.run (counter source) c).1 ∧
      (writeFile source chunkSize c).2.2 = (script.run (counter source) c).2 := by
  cases h with
  | callback => exact ⟨rfl, rfl⟩
  | @medium source stream script hmedium opens pass =>
    have hcounter : counter source = CountingSink.chunkWriter := by
      cases source with
      | callback script => exact absurd rfl (hmedium script)
      | seekable shared => rfl
      | reopened openAt opened => rfl
    rw [writeFile_of_openStream opens hmedium, hcounter]
    exact copy_of_transcript pass (Nat.lt_succ_self _) c
  | @unopened source e refuses =>
    cases source with
    | seekable shared => cases refuses
    | reopened openAt opened =>
      have hopen : (openAt opened).map FileStream.owned = .error e := refuses
      simp only [writeFile, FileSource.openStream, hopen, Script.run, and_self]
    | callback script =>
      cases script with
      | some script => cases refuses
      | none =>
        cases refuses
        exact ⟨rfl, rfl⟩

end Multipart

/-! ### Bodies as scripts -/

namespace MultipartEncoder

variable (e : MultipartEncoder) (script : Script) (sink : Sink)

/-- The file of a body **comes as** a script: it is the one transcript of the source, and if the
source delivers a file, it writes the file. -/
structure FileComesAs : Prop where
  transcript : ∀ s, e.file.source.Transcript e.chunkSize s ↔ s = script
  delivered : ∀ file, e.file.source.Delivers file →
    script.written = file ∧ script.ending = .ok ()

theorem exists_fileComesAs : ∃ script, FileComesAs e script := by
  obtain ⟨script, hscript⟩ := e.file.source.existsUnique_transcript e.chunkSize
  exact ⟨script, hscript, fun file hfile =>
    hfile.written_transcript e.chunkSize_pos ((hscript script).mpr rfl)⟩

/-- What closes a body: its tail, and a flush. -/
def closing : Script := [.write Multipart.tail, .flush]

/-- What is done to push a body whose file comes as a script. -/
def bodyScript : Script := .write e.head :: (script ++ closing)

/-- What is seen in a sink while a script pushes the file into it, behind the head. -/
def seen : List Bytes :=
  match (sink.writeAll e.head).result with
  | .error _ => []
  | .ok () => script.seen e.file.source.watch (sink.writeAll e.head).sink

/-- A body **is pushed** by a script. -/
structure IsPushedBy : Prop where
  /-- The script ends as the writing of the body does, which gives the number of bytes that the sink
  has received. -/
  result : (e.writeTo sink).result = ((e.bodyScript script).run Sink.writer sink).1.map fun _ =>
    (e.writeTo sink).sink.received.length - sink.received.length
  final : (e.writeTo sink).sink = ((e.bodyScript script).run Sink.writer sink).2
  /-- The reports count what is seen behind the head. -/
  reports : (e.writeTo sink).reports =
    e.reports ((e.seen script sink).map (·.length - (sink.received.length + e.head.length)))

variable {e script sink} {source : FileSource} {c : Multipart.CountingSink}

/-- Behind a file that has been written, the body is closed. -/
theorem writeTo_of_writeFile_ok (hhead : (sink.writeAll e.head).result = .ok ())
    (hfile : Multipart.writeFile e.file.source e.chunkSize
      { sink := (sink.writeAll e.head).sink } = (.ok (), source, c)) :
    e.writeTo sink = ⟨(closing.run Sink.writer c.sink).1.map fun _ =>
        e.head.length + c.written + Multipart.tail.length, e.withSource source,
      (closing.run Sink.writer c.sink).2, e.reports c.counts, some (.ok ())⟩ := by
  have hwrite : Sink.writer.write Multipart.tail c.sink =
      ((c.sink.writeAll Multipart.tail).result, (c.sink.writeAll Multipart.tail).sink) := rfl
  have hflush (s : Sink) : Sink.writer.flush s = s.flush := rfl
  cases htail : (c.sink.writeAll Multipart.tail).result with
  | error x => simp only [writeTo, hhead, hfile, htail, closing, Script.run, hwrite, Except.map]
  | ok u =>
    cases hend : (c.sink.writeAll Multipart.tail).sink.flush with
    | mk result last =>
      cases result <;>
        simp only [writeTo, hhead, hfile, htail, hend, closing, Script.run, hwrite, hflush,
          Except.map, head_withSource]

/-- Behind the head, writing the file counts what is seen from there on. -/
theorem FileComesAs.counted_writeFile (h : FileComesAs e script)
    (hhead : (sink.writeAll e.head).result = .ok ()) {result : Except IoError Unit}
    (hfile : Multipart.writeFile e.file.source e.chunkSize
      { sink := (sink.writeAll e.head).sink } = (result, source, c)) :
    Multipart.CountingSink.Counted (sink.received.length + e.head.length)
      { sink := (sink.writeAll e.head).sink } (e.seen script sink)
      (script.run Sink.writer (sink.writeAll e.head).sink) (result, c) := by
  have hstart : Multipart.CountingSink.CountsFrom (sink.received.length + e.head.length)
      { sink := (sink.writeAll e.head).sink } := by
    rw [Multipart.CountingSink.CountsFrom, Sink.received_of_writeAll hhead, List.length_append]
    rfl
  have hcounted := Multipart.CountingSink.CountsBy.run
    (Multipart.countsBy_counter e.file.source) script hstart
  obtain ⟨hresult, hwritten⟩ := Multipart.writeFile_of_transcript
    ((h.transcript script).mpr rfl) { sink := (sink.writeAll e.head).sink }
  rw [hfile] at hresult hwritten
  rwa [seen, hhead, show (result, c) = _ from Prod.ext hresult hwritten]

/-- A body that has been closed has got its tail. -/
theorem received_of_closing {s : Sink} (h : (closing.run Sink.writer s).1 = .ok ()) :
    (closing.run Sink.writer s).2.received = s.received ++ Multipart.tail := by
  have hgets := s.gets_run closing
  rw [h] at hgets
  rw [hgets.received]
  exact congrArg _ (List.append_nil _)

/-- **Pushing.** To push a body is to do what its file comes as, between the head and the tail. -/
theorem FileComesAs.isPushedBy (h : FileComesAs e script) (sink : Sink) :
    IsPushedBy e script sink := by
  have hperform : Sink.writer.perform (.write e.head) sink =
      ((sink.writeAll e.head).result, (sink.writeAll e.head).sink) := rfl
  cases hhead : (sink.writeAll e.head).result with
  | error x =>
    rw [hhead] at hperform
    have heq := writeTo_of_head_error hhead
    refine ⟨?_, ?_, ?_⟩
    · rw [heq, bodyScript, Script.run_cons_error hperform, Except.map]
    · rw [heq, bodyScript, Script.run_cons_error hperform]
    · simp only [heq, seen, reports, hhead, List.map_nil, ite_self]
  | ok u =>
    rw [hhead] at hperform
    cases hfile : Multipart.writeFile e.file.source e.chunkSize
        { sink := (sink.writeAll e.head).sink } with
    | mk result next =>
      obtain ⟨source, c⟩ := next
      have hcounted := h.counted_writeFile hhead hfile
      have hplain : script.run Sink.writer (sink.writeAll e.head).sink = (result, c.sink) :=
        Prod.ext hcounted.result.symm hcounted.sink.symm
      have hreports : e.reports c.counts = e.reports
          ((e.seen script sink).map (·.length - (sink.received.length + e.head.length))) :=
        congrArg e.reports hcounted.counts
      cases result with
      | error x =>
        have heq := writeTo_of_writeFile_error hhead hfile
        have hrun : (e.bodyScript script).run Sink.writer sink = (.error x, c.sink) := by
          rw [bodyScript, Script.run_cons_ok hperform, Script.run_append_error hplain]
        refine ⟨?_, ?_, ?_⟩
        · rw [heq, hrun, Except.map]
        · rw [heq, hrun]
        · rw [heq, hreports]
      | ok u =>
        have heq := writeTo_of_writeFile_ok hhead hfile
        have hrun : (e.bodyScript script).run Sink.writer sink =
            closing.run Sink.writer c.sink := by
          rw [bodyScript, Script.run_cons_ok hperform, Script.run_append_ok hplain]
        refine ⟨?_, ?_, ?_⟩
        · rw [heq, hrun]
          cases hend : (closing.run Sink.writer c.sink).1 with
          | error x => rfl
          | ok u =>
            have hfrom : c.sink.received.length =
                sink.received.length + e.head.length + c.written := hcounted.countsFrom rfl
            simp only [Except.map, received_of_closing hend, List.length_append, hfrom]
            congr 1
            omega
        · rw [heq, hrun]
        · rw [heq, hreports]

end MultipartEncoder

end ContentClient
