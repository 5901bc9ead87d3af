import ContentClient.Proofs.Multipart.Body
import ContentClient.Proofs.Multipart.Pushing

/-!
# Reports of progress

A report says how many bytes of the file the consumer of a body has by then, and how large the file
is declared to be. It says neither more nor less, in every pass, whatever the source and the
consumer do; the head and the tail are never counted. The main statement is
`MultipartEncoder.reportsExactly`.

For a push, the consumer is the sink, and what it has is what is seen in it when the listener is
called: behind what the sink had before, the head and as many bytes of the file as are reported. For
a reader, the consumer has what the reads have handed over, the current one included, and the bytes
of the file among them are those that come neither off the head nor off the tail. What is left of
these is in the reader, so that they are told apart by its state alone (`Portions`).
-/

namespace ContentClient

/-! ### What a watch shows -/

namespace Sink

/-- What is seen in a sink **shows** how it is filled: it grows from what the sink had to what it
has in the end, and if nothing fails, the last look finds the end. -/
structure Shows (s : Sink) (held : List Bytes) (outcome : Except IoError Unit × Sink) : Prop where
  bounds : ∀ bytes ∈ held, s.received <+: bytes ∧ bytes <+: outcome.2.received
  grows : held.Pairwise (· <+: ·)
  keeps : s.received <+: outcome.2.received
  last : outcome.1 = .ok () → held.getLast?.getD s.received = outcome.2.received

variable {s s' : Sink} {held more : List Bytes} {outcome : Except IoError Unit × Sink}

/-- Where nothing is seen, nothing has to be received. -/
theorem shows_nil (h : s'.received = s.received) (result : Except IoError Unit) :
    s.Shows [] (result, s') where
  bounds _ hmem := absurd hmem List.not_mem_nil
  grows := .nil
  keeps := h ▸ List.prefix_rfl
  last _ := h.symm

theorem shows_one (h : s.received <+: s'.received) (result : Except IoError Unit) :
    s.Shows [s'.received] (result, s') where
  bounds bytes hmem := by
    rw [List.mem_singleton.mp hmem]
    exact ⟨h, List.prefix_rfl⟩
  grows := List.pairwise_singleton _ _
  keeps := h
  last _ := rfl

theorem Shows.trans (h : s.Shows held (.ok (), s')) (h' : s'.Shows more outcome) :
    s.Shows (held ++ more) outcome where
  bounds bytes hmem := by
    rcases List.mem_append.mp hmem with hmem | hmem
    · obtain ⟨hlow, hhigh⟩ := h.bounds bytes hmem
      exact ⟨hlow, hhigh.trans h'.keeps⟩
    · obtain ⟨hlow, hhigh⟩ := h'.bounds bytes hmem
      exact ⟨h.keeps.trans hlow, hhigh⟩
  grows := by
    rw [List.pairwise_append]
    refine ⟨h.grows, h'.grows, fun bytes hmem bytes' hmem' => ?_⟩
    exact (h.bounds bytes hmem).2.trans (h'.bounds bytes' hmem').1
  keeps := h.keeps.trans h'.keeps
  last hok := by
    have hlast := h'.last hok
    rw [← show _ = s'.received from h.last rfl] at hlast
    rw [List.getLast?_append]
    cases hmore : more.getLast? with
    | none => rwa [hmore] at hlast
    | some bytes => rwa [hmore] at hlast

theorem shows_seenRounds (rounds : Nat) (s : Sink) (bytes : Bytes) :
    s.Shows (seenRounds rounds s bytes)
      ((writeRounds rounds s bytes).result, (writeRounds rounds s bytes).sink) := by
  induction rounds generalizing s bytes with
  | zero => cases bytes <;> exact shows_nil rfl _
  | succ rounds ih =>
    cases bytes with
    | nil => exact shows_nil rfl _
    | cons b bytes =>
      rw [writeRounds, seenRounds]
      cases hwrite : s.write (b :: bytes) with
      | mk result next =>
        cases result with
        | error e => exact shows_nil (received_of_write_error hwrite) _
        | ok n =>
          have hreceived := (received_of_write hwrite).2
          have hgrows : s.received <+: next.received := hreceived ▸ List.prefix_append _ _
          cases n with
          | zero => exact shows_one hgrows _
          | succ n => exact (shows_one hgrows (.ok ())).trans (ih next (bytes.drop n))

/-- A watch shows how a sink is filled, by whatever is done to it. -/
def Watch.Faithful (watch : Watch) : Prop :=
  ∀ (step : ScriptStep) (s : Sink), s.Shows (step.seen watch s) (writer.perform step s)

/-- Only writes fill a sink. -/
theorem Watch.faithful_of_writes {watch : Watch} (h : ∀ (bytes : Bytes) (s : Sink),
      s.Shows (watch s bytes) ((s.writeAll bytes).result, (s.writeAll bytes).sink)) :
    watch.Faithful := by
  intro step s
  cases step with
  | write bytes => exact h bytes s
  | flush => exact shows_nil s.received_flush _
  | fail e => exact shows_nil rfl _

theorem faithful_watchWrites : watchWrites.Faithful :=
  Watch.faithful_of_writes fun bytes s => shows_seenRounds bytes.length s bytes

theorem faithful_watchChunks : watchChunks.Faithful := by
  refine Watch.faithful_of_writes fun bytes s => ?_
  obtain ⟨piece, -, hreceived⟩ := (s.gets_writeAll bytes).exists_piece
  have hkeeps : s.received <+: (s.writeAll bytes).sink.received :=
    hreceived ▸ List.prefix_append _ _
  unfold watchChunks
  cases hresult : (s.writeAll bytes).result with
  | error e =>
    exact
      { bounds := fun _ hmem => absurd hmem List.not_mem_nil
        grows := .nil
        keeps := hkeeps
        last := fun hok => by cases hok }
  | ok u => exact shows_one hkeeps _

/-- What is seen while a script runs shows how the sink is filled. -/
theorem Watch.Faithful.run {watch : Watch} (h : watch.Faithful) (script : Script) (s : Sink) :
    s.Shows (script.seen watch s) (script.run writer s) := by
  induction script generalizing s with
  | nil => exact shows_nil rfl _
  | cons step rest ih =>
    have hshows := h step s
    rw [Script.seen]
    cases hstep : writer.perform step s with
    | mk result next =>
      rw [hstep] at hshows
      cases result with
      | error e =>
        rw [Script.run_cons_error hstep]
        exact (List.append_nil (step.seen watch s)).symm ▸ hshows
      | ok u =>
        rw [Script.run_cons_ok hstep]
        exact hshows.trans (ih next)

end Sink

theorem FileSource.faithful_watch (source : FileSource) : source.watch.Faithful := by
  cases source with
  | callback script => exact Sink.faithful_watchWrites
  | seekable shared => exact Sink.faithful_watchChunks
  | reopened openAt opened => exact Sink.faithful_watchChunks

/-! ### Reports of a push -/

namespace MultipartEncoder

/-- The reports of a push **count** what the sink has of a file that comes as a script. -/
structure CountsPush (e : MultipartEncoder) (script : Script) (sink : Sink) (counts : List Nat) :
    Prop where
  reports : (e.writeTo sink).reports = e.reports counts
  /-- Whenever a number of bytes is reported, the sink has got the head and so many bytes of the
  file, and nothing else. -/
  exact : e.seen script sink =
    counts.map fun n => sink.received ++ (e.head ++ script.written.take n)
  bounded : ∀ n ∈ counts, n ≤ script.written.length
  grows : counts.Pairwise (· ≤ ·)
  /-- If the push succeeds, the last report is of the whole file. -/
  complete : ∀ n, (e.writeTo sink).result = .ok n → script.written ≠ [] →
    counts.getLast? = some script.written.length

variable {e : MultipartEncoder} {script : Script} {sink : Sink}

/-- A body that has been pushed has been pushed up to the end of its file. -/
theorem IsPushedBy.run_file_ok (h : IsPushedBy e script sink) {n : Nat}
    (hok : (e.writeTo sink).result = .ok n) : (sink.writeAll e.head).result = .ok () ∧
      (script.run Sink.writer (sink.writeAll e.head).sink).1 = .ok () := by
  have hperform : Sink.writer.perform (.write e.head) sink =
      ((sink.writeAll e.head).result, (sink.writeAll e.head).sink) := rfl
  rw [h.result, bodyScript] at hok
  cases hhead : (sink.writeAll e.head).result with
  | error x =>
    rw [Script.run_cons_error (hhead ▸ hperform)] at hok
    cases hok
  | ok u =>
    refine ⟨rfl, ?_⟩
    rw [Script.run_cons_ok (hhead ▸ hperform)] at hok
    cases hrun : script.run Sink.writer (sink.writeAll e.head).sink with
    | mk result next =>
      cases result with
      | error x =>
        rw [Script.run_append_error hrun] at hok
        cases hok
      | ok u => rfl

/-- The counts of a push are read off what is seen in the sink. -/
theorem IsPushedBy.countsPush (h : IsPushedBy e script sink) :
    CountsPush e script sink
      ((e.seen script sink).map (·.length - (sink.received.length + e.head.length))) := by
  cases hhead : (sink.writeAll e.head).result with
  | error x =>
    have hseen : e.seen script sink = [] := by simp only [seen, hhead]
    rw [hseen]
    refine
      { reports := by rw [h.reports, hseen]
        exact := hseen
        bounded := fun n hmem => absurd hmem List.not_mem_nil
        grows := .nil
        complete := fun n hok => ?_ }
    cases hhead.symm.trans (h.run_file_ok hok).1
  | ok u =>
    have hseen : e.seen script sink =
        script.seen e.file.source.watch (sink.writeAll e.head).sink := by
      simp only [seen, hhead]
    have hshows := e.file.source.faithful_watch.run script (sink.writeAll e.head).sink
    have hgets := (sink.writeAll e.head).sink.gets_run script
    have hstart := Sink.received_of_writeAll hhead
    rw [← hseen] at hshows
    -- what is seen lies between the head and the file behind it
    have hpiece : ∀ bytes ∈ e.seen script sink, ∃ n ≤ script.written.length,
        bytes = sink.received ++ (e.head ++ script.written.take n) ∧
          bytes.length - (sink.received.length + e.head.length) = n := by
      intro bytes hmem
      obtain ⟨⟨piece, rfl⟩, hhigh⟩ := hshows.bounds bytes hmem
      obtain ⟨all, hall, hreceived⟩ := hgets.exists_piece
      rw [hreceived, List.prefix_append_right_inj] at hhigh
      have hfile := hhigh.trans hall
      refine ⟨piece.length, hfile.length_le, ?_, ?_⟩
      · rw [hstart, ← List.prefix_iff_eq_take.mp hfile, List.append_assoc]
      · rw [hstart, List.length_append, List.length_append, Nat.add_sub_cancel_left]
    refine
      { reports := h.reports
        exact := ?_
        bounded := ?_
        grows := ?_
        complete := ?_ }
    · rw [List.map_map]
      refine (List.map_id _).symm.trans (List.map_congr_left fun bytes hmem => ?_)
      obtain ⟨n, -, heq, hlength⟩ := hpiece bytes hmem
      show bytes = _
      rw [Function.comp_apply, hlength, ← heq]
    · intro n hmem
      obtain ⟨bytes, hbytes, rfl⟩ := List.mem_map.mp hmem
      obtain ⟨n, hle, -, hlength⟩ := hpiece bytes hbytes
      exact hlength ▸ hle
    · refine List.pairwise_map.mpr (hshows.grows.imp fun hgrows => ?_)
      exact Nat.sub_le_sub_right hgrows.length_le _
    · intro n hok hne
      have hrun := (h.run_file_ok hok).2
      have hlast := hshows.last hrun
      rw [hrun] at hgets
      rw [hgets.received] at hlast
      rw [List.getLast?_map]
      cases hend : (e.seen script sink).getLast? with
      | none =>
        -- without a look, nothing of the file has got into the sink
        rw [hend] at hlast
        exact absurd (List.self_eq_append_right.mp hlast) hne
      | some bytes =>
        rw [hend] at hlast
        show some (bytes.length - _) = _
        rw [show bytes = _ from hlast, hstart, List.length_append, List.length_append,
          Nat.add_sub_cancel_left]

end MultipartEncoder

/-! ### Reports of a reader -/

namespace MultipartReader

/-- Reads into one buffer after another: the reports that they make. -/
def reportsEach : List Nat → MultipartReader → FileSource → List Report
  | [], _, _ => []
  | size :: sizes, r, source =>
    let step := r.read size source
    step.reports ++ reportsEach sizes step.reader step.source

/-- The reports that progress to the given counts makes. -/
def reportsOf (r : MultipartReader) (counts : List Nat) : List Report :=
  if r.observed then counts.map fun n => (n, r.total) else []

theorem reportsOf_nil (r : MultipartReader) : r.reportsOf [] = [] := ite_self _

theorem reportsOf_append (r : MultipartReader) (counts more : List Nat) :
    r.reportsOf (counts ++ more) = r.reportsOf counts ++ r.reportsOf more := by
  unfold reportsOf
  split
  · exact List.map_append
  · rfl

/-- The **portions** of what has been handed over since a reader was in an earlier state: what is no
longer left of the head, bytes of the file, and what is no longer left of the tail. -/
def Portions (start r : MultipartReader) (handed file : Bytes) : Prop :=
  ∃ opening closing, handed = opening ++ file ++ closing ∧ opening ++ r.head = start.head ∧
    closing ++ r.tail = start.tail

variable {start r : MultipartReader} {handed file : Bytes} {source : FileSource} {size : Nat}

/-- The bytes of the file are told apart by what is left of the head and the tail. -/
theorem Portions.unique {file' : Bytes} (h : Portions start r handed file)
    (h' : Portions start r handed file') : file = file' := by
  obtain ⟨opening, closing, hhanded, hhead, htail⟩ := h
  obtain ⟨opening', closing', hhanded', hhead', htail'⟩ := h'
  obtain rfl := List.append_cancel_right (hhead.trans hhead'.symm)
  obtain rfl := List.append_cancel_right (htail.trans htail'.symm)
  have heq := List.append_cancel_right (hhanded.symm.trans hhanded')
  exact List.append_cancel_left heq

/-- Where a reader is behind bytes that have been handed over, with those of a file among them. -/
inductive Place (start : MultipartReader) (handed file : Bytes) (r : MultipartReader) : Prop where
  | head (stage : r.stage = .head) (left : handed ++ r.head = start.head) (none : file = [])
      (tail : r.tail = start.tail)
  | file (stage : r.stage = .file) (all : handed = start.head ++ file) (head : r.head = [])
      (tail : r.tail = start.tail)
  | tail {closing : Bytes} (stage : r.stage = .tail) (all : handed = start.head ++ file ++ closing)
      (head : r.head = []) (left : closing ++ r.tail = start.tail)

/-- The count of a reader is that of the bytes of a file, and what it is reported to is kept. -/
structure Counts (start : MultipartReader) (file : Bytes) (r : MultipartReader) : Prop where
  written : r.written = file.length
  total : r.total = start.total
  observed : r.observed = start.observed

/-- A reader **has counted** the bytes of a file among those that have been handed over. -/
structure HasCounted (start : MultipartReader) (handed file : Bytes) (r : MultipartReader) :
    Prop where
  place : Place start handed file r
  counts : Counts start file r

theorem HasCounted.portions (h : HasCounted start handed file r) :
    Portions start r handed file := by
  cases h.place with
  | head stage left none tail =>
    refine ⟨handed, [], ?_, left, tail⟩
    rw [none, List.append_nil, List.append_nil]
  | file stage all head tail =>
    refine ⟨start.head, [], ?_, ?_, tail⟩
    · rw [all, List.append_nil]
    · rw [head, List.append_nil]
  | tail stage all head left =>
    refine ⟨start.head, _, all, ?_, left⟩
    rw [head, List.append_nil]

/-- The number of bytes of a file, if a read has added any to those before. -/
def newCount (file more : Bytes) : List Nat := if more = [] then [] else [(file ++ more).length]

/-- What a read comes to where the stream of the file would give `given`: it hands over bytes, those
of the file among them are counted, and it reports the count if there are any. -/
structure Reports (start : MultipartReader) (handed file : Bytes) (given : Except IoError Bytes)
    (step : Step) (more : Bytes) : Prop where
  counted : HasCounted start (handed ++ handedOver [step.result]) (file ++ more) step.reader
  reports : step.reports = start.reportsOf (newCount file more)
  /-- The bytes of the file come from its stream, and the read hands over nothing else with them. -/
  comes : more ≠ [] → given = .ok more ∧ step.result = .ok more

theorem handedOver_ok (bytes : Bytes) : handedOver [.ok bytes] = bytes := by
  rw [handedOver_cons_ok]
  exact List.append_nil bytes

theorem handedOver_append (results more : List (Except IoError Bytes)) :
    handedOver (results ++ more) = handedOver results ++ handedOver more := by
  rw [handedOver, List.filterMap_append, List.flatten_append]
  rfl

/-- A read that hands over nothing of the file reports nothing. -/
theorem reports_nil {given : Except IoError Bytes} {step : Step}
    (place : Place start (handed ++ handedOver [step.result]) file step.reader)
    (counts : Counts start file step.reader) (reports : step.reports = []) :
    Reports start handed file given step [] := by
  refine ⟨⟨?_, ?_⟩, reports.trans start.reportsOf_nil.symm, fun hne => absurd rfl hne⟩ <;>
    rwa [List.append_nil]

/-- Nothing of the tail is counted. -/
theorem reports_readTail (h : Counts start file r) {closing : Bytes}
    (all : handed = start.head ++ file ++ closing) (head : r.head = [])
    (left : closing ++ r.tail = start.tail) (given : Except IoError Bytes) :
    Reports start handed file given (r.readTail size source) [] := by
  refine reports_nil (@Place.tail _ _ _ _ (closing ++ r.tail.take size) rfl ?_ head ?_)
    ⟨h.written, h.total, h.observed⟩ rfl
  · show handed ++ handedOver [.ok (r.tail.take size)] = _
    rw [handedOver_ok, all, List.append_assoc]
  · show closing ++ r.tail.take size ++ r.tail.drop size = start.tail
    rw [List.append_assoc, List.take_append_drop, left]

/-- Behind the head, a read counts what it takes off the file. -/
theorem reports_readFile (h : Counts start file r) (all : handed = start.head ++ file)
    (head : r.head = []) (tail : r.tail = start.tail) :
    ∃ more, Reports start handed file (r.file.read (min size r.chunkSize) source).1
      (r.readFile size source) more := by
  cases hread : r.file.read (min size r.chunkSize) source with
  | mk result next =>
    obtain ⟨stream, source'⟩ := next
    cases result with
    | error x =>
      have heq : r.readFile size source =
          { result := .error x, reader := { r with stage := .file, file := stream }
            source := source' } := by
        simp only [readFile, hread]
      rw [heq]
      refine ⟨[], reports_nil (.file rfl ?_ head tail) ⟨h.written, h.total, h.observed⟩ rfl⟩
      show handed ++ [] = start.head ++ file
      rw [List.append_nil, all]
    | ok bytes =>
      cases bytes with
      | nil =>
        -- the file has ended, and the same read goes on with the tail
        have heq : r.readFile size source =
            ({ r with file := stream }).readTail size source' := by
          simp only [readFile, hread]
        have hcounts : Counts start file { r with file := stream } :=
          ⟨h.written, h.total, h.observed⟩
        rw [heq]
        exact ⟨[], reports_readTail hcounts (all.trans (List.append_nil _).symm) head tail _⟩
      | cons b bytes =>
        have heq : r.readFile size source =
            { result := .ok (b :: bytes)
              reports := if r.observed then [(r.written + (b :: bytes).length, r.total)] else []
              reader := { r with
                stage := .file, file := stream, written := r.written + (b :: bytes).length }
              source := source' } := by
          simp only [readFile, hread]
        have hlength : r.written + (b :: bytes).length = (file ++ b :: bytes).length := by
          rw [List.length_append, h.written]
        rw [heq]
        refine ⟨b :: bytes, ⟨.file rfl ?_ head tail, hlength, h.total, h.observed⟩, ?_,
          fun _ => ⟨rfl, rfl⟩⟩
        · show handed ++ handedOver [.ok (b :: bytes)] = _
          rw [handedOver_ok, all, List.append_assoc]
        · rw [hlength, h.total, h.observed]
          rfl

/-- **One read.** It reports the bytes of the file that have been handed over by then. -/
theorem HasCounted.read (h : HasCounted start handed file r) (size : Nat) (source : FileSource) :
    ∃ more, Reports start handed file (r.file.read (min size r.chunkSize) source).1
      (r.read size source) more := by
  rcases Nat.eq_zero_or_pos size with rfl | hsize
  · rw [read_zero]
    refine ⟨[], reports_nil ?_ h.counts rfl⟩
    show Place start (handed ++ []) file r
    rw [List.append_nil]
    exact h.place
  cases h.place with
  | head stage left none tail =>
    by_cases hempty : r.head = []
    · rw [read_of_head_eq_nil hsize stage hempty]
      rw [hempty, List.append_nil] at left
      exact reports_readFile h.counts (by rw [left, none, List.append_nil]) hempty tail
    · rw [read_of_head hsize stage hempty]
      refine ⟨[], reports_nil (.head stage ?_ none tail)
        ⟨h.counts.written, h.counts.total, h.counts.observed⟩ rfl⟩
      rw [handedOver_ok, List.append_assoc, List.take_append_drop, left]
  | file stage all head tail =>
    rw [read_of_file hsize stage]
    exact reports_readFile h.counts all head tail
  | tail stage all head left =>
    rw [read_of_tail hsize stage]
    exact ⟨[], reports_readTail h.counts all head left _⟩

/-- What a run of reads comes to: the counts that it reports grow from one to the next, and the last
one is of all bytes of the file that have been handed over. -/
structure ReportsRun (start : MultipartReader) (handed file : Bytes) (r : MultipartReader)
    (source : FileSource) (sizes : List Nat) (more : Bytes) (counts : List Nat) : Prop where
  counted : HasCounted start (handed ++ handedOver (r.readEach sizes source).1) (file ++ more)
    (r.readEach sizes source).2.1
  reports : r.reportsEach sizes source = start.reportsOf counts
  bounds : ∀ n ∈ counts, file.length < n ∧ n ≤ (file ++ more).length
  grows : counts.Pairwise (· < ·)
  last : more ≠ [] → counts.getLast? = some (file ++ more).length

/-- **A run of reads.** It reports as its reads do, one after another. -/
theorem HasCounted.readEach (h : HasCounted start handed file r) (sizes : List Nat)
    (source : FileSource) :
    ∃ more counts, ReportsRun start handed file r source sizes more counts := by
  induction sizes generalizing handed file r source with
  | nil =>
    refine ⟨[], [], ⟨?_, start.reportsOf_nil.symm, fun n hmem => absurd hmem List.not_mem_nil,
      .nil, fun hne => absurd rfl hne⟩⟩
    show HasCounted start (handed ++ []) (file ++ []) r
    rwa [List.append_nil, List.append_nil]
  | cons size sizes ih =>
    obtain ⟨first, hfirst⟩ := h.read size source
    obtain ⟨rest, counts, hrest⟩ := ih hfirst.counted (r.read size source).source
    -- the first read adds one count at most, of all that there is by then
    have hbounds : ∀ n ∈ newCount file first,
        file.length < n ∧ n = (file ++ first).length := by
      intro n hmem
      unfold newCount at hmem
      split at hmem
      · exact absurd hmem List.not_mem_nil
      · rename_i hne
        obtain rfl := List.mem_singleton.mp hmem
        have hpos := List.length_pos_iff.mpr hne
        rw [List.length_append]
        omega
    refine ⟨first ++ rest, newCount file first ++ counts, ?_, ?_, ?_, ?_, ?_⟩
    · have hcounted := hrest.counted
      rw [List.append_assoc, ← handedOver_append] at hcounted
      rw [← List.append_assoc]
      exact hcounted
    · rw [reportsEach, hfirst.reports, hrest.reports, reportsOf_append]
    · intro n hmem
      rw [← List.append_assoc]
      rcases List.mem_append.mp hmem with hmem | hmem
      · obtain ⟨hlt, rfl⟩ := hbounds n hmem
        exact ⟨hlt, (List.prefix_append _ rest).length_le⟩
      · obtain ⟨hlt, hle⟩ := hrest.bounds n hmem
        exact ⟨Nat.lt_of_le_of_lt (List.prefix_append file first).length_le hlt, hle⟩
    · refine List.pairwise_append.mpr ⟨?_, hrest.grows, fun n hmem n' hmem' => ?_⟩
      · unfold newCount
        split
        · exact .nil
        · exact List.pairwise_singleton _ _
      · rw [(hbounds n hmem).2]
        exact (hrest.bounds n' hmem').1
    · intro hne
      rw [← List.append_assoc, List.getLast?_append]
      by_cases hrestNil : rest = []
      · -- no later read has counted anything
        have hcounts : counts = [] := by
          refine List.eq_nil_iff_forall_not_mem.mpr fun n hmem => ?_
          obtain ⟨hlt, hle⟩ := hrest.bounds n hmem
          rw [hrestNil, List.append_nil] at hle
          omega
        have hfirstNe : first ≠ [] := fun hnil => hne (by rw [hnil, hrestNil, List.append_nil])
        rw [hcounts, hrestNil, newCount, if_neg hfirstNe, List.append_nil]
        rfl
      · rw [hrest.last hrestNil]
        rfl

end MultipartReader

namespace MultipartEncoder

/-- The reports of a reader of a body **count** what its reads have handed over of the file. -/
structure CountsReads (e : MultipartEncoder) (r : MultipartReader) (source : FileSource) :
    Prop where
  /-- All of the head and the tail is left at the start. -/
  starts : r.head = e.head ∧ r.tail = Multipart.tail
  /-- Whatever reads came before, the next one reports how many bytes of the file have been handed
  over by then, its own included, which are all that its stream gives; it reports nothing if it has
  none to add. -/
  exact : ∀ sizes size, ∃ file more,
    let before := r.readEach sizes source
    let step := before.2.1.read size before.2.2
    r.Portions before.2.1 (MultipartReader.handedOver before.1) file ∧
      r.Portions step.reader (MultipartReader.handedOver (before.1 ++ [step.result]))
        (file ++ more) ∧
      (more ≠ [] → step.result = .ok more ∧
        (before.2.1.file.read (min size before.2.1.chunkSize) before.2.2).1 = .ok more) ∧
      step.reports = e.reports (MultipartReader.newCount file more)
  /-- All the counts of a run grow, and the last one is of all bytes of the file that have been
  handed over. -/
  run : ∀ sizes, ∃ file counts,
    r.Portions (r.readEach sizes source).2.1
        (MultipartReader.handedOver (r.readEach sizes source).1) file ∧
      r.reportsEach sizes source = e.reports counts ∧ counts.Pairwise (· < ·) ∧
      (file ≠ [] → counts.getLast? = some file.length)
  /-- Once the whole body of a file that is delivered has been handed over, the last report is of
  the whole file. -/
  complete : ∀ file, e.file.source.Delivers file → ∀ sizes,
    MultipartReader.handedOver (r.readEach sizes source).1 = e.head ++ file ++ Multipart.tail →
      ∃ counts, r.reportsEach sizes source = e.reports counts ∧
        (file ≠ [] → counts.getLast? = some file.length)

variable {e : MultipartEncoder} {r : MultipartReader}

/-- The state of the reader of a body before its first read. -/
theorem hasCounted_reader (h : e.reader.1 = .ok r) :
    MultipartReader.HasCounted r [] [] r ∧ r.head = e.head ∧ r.tail = Multipart.tail ∧
      ∀ counts, r.reportsOf counts = e.reports counts := by
  cases hopen : (e.file.source.openStream e.chunkSize).1 with
  | error x =>
    simp only [reader, hopen, Except.map] at h
    cases h
  | ok stream =>
    simp only [reader, hopen, Except.map] at h
    cases h
    exact ⟨⟨.head rfl (List.nil_append _) rfl rfl, rfl, rfl, rfl⟩, rfl, rfl, fun _ => rfl⟩

/-- Once the whole body has been handed over, the portion of the file is the whole file. -/
theorem portions_of_whole (hreader : e.reader.1 = .ok r) {file : Bytes}
    (h : e.file.source.Delivers file) {sizes : List Nat}
    (hwhole : MultipartReader.handedOver (r.readEach sizes e.reader.2.file.source).1 =
      e.head ++ file ++ Multipart.tail) :
    r.Portions (r.readEach sizes e.reader.2.file.source).2.1
      (MultipartReader.handedOver (r.readEach sizes e.reader.2.file.source).1) file := by
  obtain ⟨hcounted, hhead, htail, -⟩ := hasCounted_reader hreader
  obtain ⟨r', hreader', hchunk, hstands⟩ := exists_reader h
  cases hreader.symm.trans hreader'
  have hends := (hstands.readEach (hchunk ▸ e.chunkSize_pos) sizes).2.1
  obtain ⟨more, counts, hrun⟩ := hcounted.readEach sizes e.reader.2.file.source
  rw [List.nil_append, hwhole] at hends
  rw [hwhole]
  -- only in the stage of the tail can the tail have been handed over
  have hpos : 0 < Multipart.tail.length := by decide +kernel
  cases hends with
  | head stage left delivers tail =>
    have hlength := congrArg List.length left
    simp only [List.length_append] at hlength
    omega
  | file stage past left delivers tail =>
    have hlength := congrArg List.length left
    simp only [List.length_append] at hlength
    omega
  | tail stage past left =>
    have hleft := List.self_eq_append_right.mp left.symm
    cases hrun.counted.place with
    | head stage' => cases stage.symm.trans stage'
    | file stage' => cases stage.symm.trans stage'
    | tail stage' all head left' =>
      refine ⟨e.head, Multipart.tail, rfl, ?_, ?_⟩
      · rw [head, List.append_nil, hhead]
      · rw [hleft, List.append_nil, htail]

theorem countsReads (h : e.reader.1 = .ok r) : CountsReads e r e.reader.2.file.source := by
  obtain ⟨hcounted, hhead, htail, hreports⟩ := hasCounted_reader h
  have hrun := fun sizes => hcounted.readEach sizes e.reader.2.file.source
  refine
    { starts := ⟨hhead, htail⟩
      exact := ?_
      run := ?_
      complete := ?_ }
  · intro sizes size
    obtain ⟨file, counts, hfile⟩ := hrun sizes
    obtain ⟨more, hmore⟩ := hfile.counted.read size (r.readEach sizes e.reader.2.file.source).2.2
    refine ⟨file, more, hfile.counted.portions, ?_, fun hne => (hmore.comes hne).symm, ?_⟩
    · rw [MultipartReader.handedOver_append]
      exact hmore.counted.portions
    · rw [hmore.reports, hreports]
      rfl
  · intro sizes
    obtain ⟨file, counts, hfile⟩ := hrun sizes
    exact ⟨file, counts, hfile.counted.portions, hfile.reports.trans (hreports counts), hfile.grows,
      hfile.last⟩
  · intro file hdelivers sizes hwhole
    obtain ⟨file', counts, hfile⟩ := hrun sizes
    obtain rfl := hfile.counted.portions.unique (portions_of_whole h hdelivers hwhole)
    exact ⟨counts, hfile.reports.trans (hreports counts), hfile.last⟩

/-- **Progress.** Every report is of exactly the bytes of the file that the consumer has by then, in
every push and for every reader. -/
theorem reportsExactly (e : MultipartEncoder) :
    (∀ sink : Sink, ∃ script, FileComesAs e script ∧ ∃ counts, CountsPush e script sink counts) ∧
      ∀ r, e.reader.1 = .ok r → CountsReads e r e.reader.2.file.source := by
  refine ⟨fun sink => ?_, fun r h => countsReads h⟩
  obtain ⟨script, hscript⟩ := e.exists_fileComesAs
  exact ⟨script, hscript, _, (hscript.isPushedBy sink).countsPush⟩

/-- A callback is reported by what the sink accepts, write by write. -/
example : ({ dictated with observed := true }.writeTo bytewise).reports =
    [(1, 0), (2, 0), (3, 0), (4, 0)] := by
  decide +kernel

end MultipartEncoder

end ContentClient
