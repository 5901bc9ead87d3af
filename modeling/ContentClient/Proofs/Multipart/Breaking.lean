import ContentClient.Proofs.Multipart.Body
import ContentClient.Proofs.Multipart.Received
import ContentClient.Proofs.Stream.Sharing

/-!
# Bodies whose file breaks off

A file **breaks off** if its medium fails at a position and keeps failing there, or if the callback
that writes it gives up. The bytes before that are all that there is of it, so that a body with it
must not look complete. The main statement is `staysIncomplete`.

A medium that keeps failing holds a reader in the stage of the file, which never comes to its end,
however often it is read again (`Awaits.keepsFailing`). A pipe is different: its failure is one of
the things in it, and a read takes it out. The pipe is empty behind it, which is how a file ends, so
that a reader that is read once more hands over the tail (`Awaits.failsOnce`). What it hands over
until then is a piece of the head and the file. Pushing a body stops at the failure in either case,
and the tail is not written.
-/

namespace ContentClient

/-! ### Files that break off -/

/-- A file source breaks off behind bytes: a medium that breaks behind those up to the break, and a
callback that gives up behind what it has written. -/
inductive FileSource.BreaksOff : FileSource → Bytes → Prop where
  | seekable {shared : SharedSource} {stop : Nat} (breaks : shared.source.BreaksAt stop) :
      BreaksOff (.seekable shared) (shared.source.upTo stop)
  | reopened {openAt : Nat → Except IoError ByteSource} {opened : Nat} {source : ByteSource}
      {stop : Nat} (opens : openAt opened = .ok source) (breaks : source.BreaksAt stop) :
      BreaksOff (.reopened openAt opened) (source.upTo stop)
  | callback {script : Script} {e : IoError} (fails : script.ending = .error e) :
      BreaksOff (.callback (some script)) script.written

/-- A stream breaks off behind bytes. The stream of a medium keeps failing; a pipe fails **once**,
with a failure of its own. -/
inductive FileStream.BreaksOff : Option IoError → FileStream → FileSource → Bytes → Prop where
  | shared {medium : SharedSource} {stop : Nat} (breaks : medium.source.BreaksAt stop) :
      BreaksOff none (.shared medium.handle) (.seekable medium) (medium.source.upTo stop)
  | owned {bytes : ByteSource} {source : FileSource} {stop : Nat} (breaks : bytes.BreaksAt stop) :
      BreaksOff none (.owned bytes) source (bytes.upTo stop)
  | piped {pipe : Pipe} {source : FileSource} {e : IoError} {left : Bytes}
      (breaks : pipe.BreaksOff e left) : BreaksOff (some e) (.piped pipe) source left

namespace FileStream

/-- What a read of a stream that breaks off behind bytes comes to. -/
inductive Stumbles (once : Option IoError) (left : Bytes) :
    Except IoError Bytes × FileStream × FileSource → Prop where
  /-- The next bytes, and the stream breaks off behind the rest. -/
  | gives {bytes rest : Bytes} {stream : FileStream} {source : FileSource} (nonempty : bytes ≠ [])
      (split : left = bytes ++ rest) (breaks : stream.BreaksOff once source rest) :
      Stumbles once left (.ok bytes, stream, source)
  /-- A failure of the medium, which is still where it was. -/
  | fails {e : IoError} {stream : FileStream} {source : FileSource} (keeps : once = none)
      (breaks : stream.BreaksOff once source left) : Stumbles once left (.error e, stream, source)
  /-- The failure of the producer, behind which the stream delivers nothing. -/
  | givesUp {e : IoError} {stream : FileStream} {source : FileSource} (failure : once = some e)
      (empty : left = []) (ends : stream.Delivers source []) :
      Stumbles once left (.error e, stream, source)

variable {once : Option IoError} {stream : FileStream} {source : FileSource} {left : Bytes}

theorem BreaksOff.read (h : stream.BreaksOff once source left) {size : Nat} (hsize : 0 < size) :
    Stumbles once left (stream.read size source) := by
  cases h with
  | @shared medium stop breaks =>
    have hread : medium.read medium.handle size =
        ((medium.source.read size).1, { medium with source := (medium.source.read size).2 }) :=
      SharedSource.read_of_current rfl size
    obtain ⟨hbreaks, hresult⟩ := breaks.read hsize
    have hnext :=
      @BreaksOff.shared { medium with source := (medium.source.read size).2 } stop hbreaks
    rw [FileStream.read, hread]
    dsimp only
    rcases hresult with ⟨e, herror, hleft⟩ | ⟨hne, bytes, htakes⟩
    · rw [herror]
      exact .fails rfl (hleft ▸ hnext)
    · rw [htakes.result]
      exact .gives (mt htakes.eq_nil hne) htakes.split hnext
  | @owned bytes source stop breaks =>
    obtain ⟨hbreaks, hresult⟩ := breaks.read hsize
    have hnext := @BreaksOff.owned _ source stop hbreaks
    rw [FileStream.read]
    dsimp only
    rcases hresult with ⟨e, herror, hleft⟩ | ⟨hne, bytes, htakes⟩
    · rw [herror]
      exact .fails rfl (hleft ▸ hnext)
    · rw [htakes.result]
      exact .gives (mt htakes.eq_nil hne) htakes.split hnext
  | piped breaks =>
    rw [FileStream.read]
    dsimp only
    rcases breaks.read hsize with ⟨hne, bytes, rest, htakes, hbreaks⟩ | ⟨hempty, herror, hcarries⟩
    · rw [htakes.result]
      exact .gives (mt htakes.eq_nil hne) htakes.split (.piped hbreaks)
    · rw [herror]
      exact .givesUp rfl hempty (.piped hcarries)

/-- A medium holds at least the bytes before its break. -/
theorem BreaksOff.length_le (h : stream.BreaksOff none source left) :
    left.length ≤ stream.readBound source := by
  have hupTo (s : ByteSource) (stop : Nat) : (s.upTo stop).length ≤ s.readBound := by
    rw [ByteSource.upTo, ByteSource.readBound, List.length_drop, List.length_take]
    omega
  cases h with
  | shared breaks => exact hupTo _ _
  | owned breaks => exact hupTo _ _

end FileStream

namespace FileSource

variable {source : FileSource} {file : Bytes}

/-- A pass over a medium that breaks can be started, and breaks off where the medium does. -/
theorem BreaksOff.openStream (h : source.BreaksOff file)
    (hmedium : ∀ script, source ≠ .callback script) (chunkSize : Nat) :
    ∃ stream, (source.openStream chunkSize).1 = .ok stream ∧
      stream.BreaksOff none (source.openStream chunkSize).2 file := by
  cases h with
  | seekable breaks => exact ⟨_, rfl, .shared breaks⟩
  | reopened opens breaks =>
    refine ⟨.owned _, ?_, .owned breaks⟩
    simp only [FileSource.openStream, opens, Except.map]
  | callback fails => exact absurd rfl (hmedium _)

end FileSource

/-! ### Reading -/

namespace MultipartReader

/-- Where a reader stands as long as no failure has been taken out of its file, behind the bytes
that have been handed over of a head and of what comes before the break. -/
inductive Awaits (once : Option IoError) (head file handed : Bytes) (r : MultipartReader)
    (source : FileSource) : Prop where
  | head (stage : r.stage = .head) (left : handed ++ r.head = head)
      (breaks : r.file.BreaksOff once source file) (tail : r.tail = Multipart.tail)
  | file {rest : Bytes} (stage : r.stage = .file) (past : head.length ≤ handed.length)
      (left : handed ++ rest = head ++ file) (breaks : r.file.BreaksOff once source rest)
      (tail : r.tail = Multipart.tail)

/-- What a read with a buffer that has room comes to, where a file breaks off. -/
inductive Meets (once : Option IoError) (head file handed : Bytes) (chunkSize : Nat) (step : Step) :
    Prop where
  /-- The next bytes. -/
  | gives {bytes : Bytes} (result : step.result = .ok bytes) (nonempty : bytes ≠ [])
      (awaits : Awaits once head file (handed ++ bytes) step.reader step.source)
  /-- A failure that stays. -/
  | fails {e : IoError} (result : step.result = .error e) (keeps : once = none)
      (awaits : Awaits once head file handed step.reader step.source)
  /-- A failure that comes once, behind all the bytes before it. The file ends there. -/
  | givesUp {e : IoError} (result : step.result = .error e) (failure : once = some e)
      (all : handed = head ++ file) (stands : Stands head file handed step.reader step.source)

variable {once : Option IoError} {head file handed : Bytes} {r : MultipartReader}
  {source : FileSource} {size : Nat}

theorem Awaits.isPrefix (h : Awaits once head file handed r source) : handed <+: head ++ file := by
  cases h with
  | head stage left breaks tail =>
    rw [← left, List.append_assoc]
    exact List.prefix_append _ _
  | file stage past left breaks tail =>
    rw [← left]
    exact List.prefix_append _ _

theorem meets_readFile (hsize : 0 < size) (hchunk : 0 < r.chunkSize) {rest : Bytes}
    (past : head.length ≤ handed.length) (left : handed ++ rest = head ++ file)
    (breaks : r.file.BreaksOff once source rest) (tail : r.tail = Multipart.tail) :
    Meets once head file handed r.chunkSize (r.readFile size source) ∧
      (r.readFile size source).reader.chunkSize = r.chunkSize := by
  have hroom : 0 < min size r.chunkSize := by omega
  have hstumbles := breaks.read hroom
  unfold readFile
  cases hread : r.file.read (min size r.chunkSize) source with
  | mk result next =>
    rw [hread] at hstumbles
    cases hstumbles with
    | @gives bytes rest' stream source' nonempty split breaks' =>
      obtain ⟨b, bytes, rfl⟩ := List.exists_cons_of_ne_nil nonempty
      refine ⟨.gives rfl nonempty (.file rfl ?_ ?_ breaks' tail), rfl⟩
      · rw [List.length_append]
        omega
      · rw [List.append_assoc, ← split, left]
    | fails keeps breaks' => exact ⟨.fails rfl keeps (.file rfl past left breaks' tail), rfl⟩
    | givesUp failure empty ends =>
      have hall : handed = head ++ file := by rw [← left, empty, List.append_nil]
      refine ⟨.givesUp rfl failure hall (.file rfl past ?_ ends tail), rfl⟩
      rw [hall, List.append_nil]

/-- **One read.** It hands over bytes or fails, and so never looks like the end of the body. -/
theorem Awaits.meets_read (h : Awaits once head file handed r source) (hsize : 0 < size)
    (hchunk : 0 < r.chunkSize) :
    Meets once head file handed r.chunkSize (r.read size source) ∧
      (r.read size source).reader.chunkSize = r.chunkSize := by
  cases h with
  | head stage left breaks tail =>
    by_cases hempty : r.head = []
    · have hhanded : handed = head := by rw [← left, hempty, List.append_nil]
      rw [read_of_head_eq_nil hsize stage hempty]
      exact meets_readFile hsize hchunk (Nat.le_of_eq (by rw [hhanded])) (by rw [hhanded]) breaks
        tail
    · have hnonempty : r.head.take size ≠ [] := mt (TakesOff.take hsize r.head).eq_nil hempty
      rw [read_of_head hsize stage hempty]
      refine ⟨.gives rfl hnonempty (.head stage ?_ breaks tail), rfl⟩
      rw [List.append_assoc, List.take_append_drop, left]
  | file stage past left breaks tail =>
    rw [read_of_file hsize stage]
    exact meets_readFile hsize hchunk past left breaks tail

/-! ### Runs of reads -/

/-- **A failure that stays.** Whatever reads come before, a reader over a medium that keeps failing
goes on waiting for the rest of the file. -/
theorem Awaits.readEach (h : Awaits none head file handed r source) (hchunk : 0 < r.chunkSize)
    (sizes : List Nat) :
    Awaits none head file (handed ++ handedOver (r.readEach sizes source).1)
        (r.readEach sizes source).2.1 (r.readEach sizes source).2.2 ∧
      (r.readEach sizes source).2.1.chunkSize = r.chunkSize := by
  induction sizes generalizing handed r source with
  | nil =>
    refine ⟨?_, rfl⟩
    show Awaits none head file (handed ++ []) r source
    rwa [List.append_nil]
  | cons size sizes ih =>
    rw [readEach_cons]
    rcases Nat.eq_zero_or_pos size with rfl | hsize
    · exact ih h hchunk
    · obtain ⟨hmeets, hkeeps⟩ := h.meets_read hsize hchunk
      cases hmeets with
      | gives result nonempty awaits =>
        obtain ⟨hrest, hkeep⟩ := ih awaits (hkeeps ▸ hchunk)
        rw [result, handedOver_cons_ok, ← List.append_assoc]
        exact ⟨hrest, hkeep.trans hkeeps⟩
      | fails result keeps awaits =>
        obtain ⟨hrest, hkeep⟩ := ih awaits (hkeeps ▸ hchunk)
        rw [result, handedOver_cons_error]
        exact ⟨hrest, hkeep.trans hkeeps⟩
      | givesUp result failure all stands => cases failure

/-- A reader **keeps failing** behind bytes if reads hand over nothing but an initial piece of them,
and none with room looks like the end of the body. -/
structure KeepsFailing (limit : Bytes) (r : MultipartReader) (source : FileSource) : Prop where
  initial : ∀ sizes, handedOver (r.readEach sizes source).1 <+: limit
  unended : ∀ sizes size, 0 < size →
    ((r.readEach sizes source).2.1.read size (r.readEach sizes source).2.2).result ≠ .ok []

theorem Awaits.result_read_ne (h : Awaits once head file handed r source)
    (hchunk : 0 < r.chunkSize) (hsize : 0 < size) : (r.read size source).result ≠ .ok [] := by
  intro hnil
  obtain ⟨hmeets, -⟩ := h.meets_read hsize hchunk
  cases hmeets with
  | gives result nonempty awaits => exact nonempty (Except.ok.inj (result.symm.trans hnil))
  | fails result keeps awaits => cases result.symm.trans hnil
  | givesUp result failure all stands => cases result.symm.trans hnil

theorem Awaits.keepsFailing (h : Awaits none head file [] r source) (hchunk : 0 < r.chunkSize) :
    KeepsFailing (head ++ file) r source where
  initial := fun sizes => (h.readEach hchunk sizes).1.isPrefix
  unended := by
    intro sizes size hsize
    obtain ⟨hawaits, hkeeps⟩ := h.readEach hchunk sizes
    exact hawaits.result_read_ne (hkeeps ▸ hchunk) hsize

/-- A run of reads has **not failed yet** if none of them fails, they hand over an initial piece of
some bytes, and a further read with room does not look like the end of the body. -/
structure NotYet (limit handed : Bytes) (r : MultipartReader) (source : FileSource)
    (sizes : List Nat) : Prop where
  succeeds : ∀ result ∈ (r.readEach sizes source).1, ∃ bytes, result = .ok bytes
  initial : handed ++ handedOver (r.readEach sizes source).1 <+: limit
  unended : ∀ size, 0 < size →
    ((r.readEach sizes source).2.1.read size (r.readEach sizes source).2.2).result ≠ .ok []

/-- A run of reads has **failed once** if one of them has, with an error: the reads before it hand
over all of some bytes, and those behind it an initial piece of the tail. -/
structure Failed (limit handed : Bytes) (e : IoError) (results : List (Except IoError Bytes)) :
    Prop where
  splits : ∃ before after, results = before ++ .error e :: after ∧
    (∀ result ∈ before ++ after, ∃ bytes, result = .ok bytes) ∧
    handed ++ handedOver before = limit ∧ handedOver after <+: Multipart.tail

theorem Failed.cons {limit : Bytes} {e : IoError} {results : List (Except IoError Bytes)}
    {bytes : Bytes} (h : Failed limit (handed ++ bytes) e results) :
    Failed limit handed e (.ok bytes :: results) := by
  obtain ⟨before, after, rfl, hok, hall, htail⟩ := h.splits
  refine ⟨.ok bytes :: before, after, rfl, ?_, ?_, htail⟩
  · intro result hmem
    rcases List.mem_cons.mp hmem with rfl | hmem
    · exact ⟨bytes, rfl⟩
    · exact hok result hmem
  · rw [handedOver_cons_ok, ← List.append_assoc, hall]

/-- **A failure that comes once.** A run of reads of a pipe that breaks off has not failed yet, or
it has failed once. -/
theorem Awaits.notYet_or_failed {e : IoError} (h : Awaits (some e) head file handed r source)
    (hchunk : 0 < r.chunkSize) (sizes : List Nat) :
    NotYet (head ++ file) handed r source sizes ∨
      Failed (head ++ file) handed e (r.readEach sizes source).1 := by
  induction sizes generalizing handed r source with
  | nil =>
    refine .inl ⟨fun _ hmem => absurd hmem List.not_mem_nil, ?_, ?_⟩
    · show handed ++ [] <+: head ++ file
      rw [List.append_nil]
      exact h.isPrefix
    · intro size hsize
      exact h.result_read_ne hchunk hsize
  | cons size sizes ih =>
    have hgives {bytes : Bytes} (hresult : (r.read size source).result = .ok bytes)
        (hrest : NotYet (head ++ file) (handed ++ bytes) (r.read size source).reader
            (r.read size source).source sizes ∨
          Failed (head ++ file) (handed ++ bytes) e
            ((r.read size source).reader.readEach sizes (r.read size source).source).1) :
        NotYet (head ++ file) handed r source (size :: sizes) ∨
          Failed (head ++ file) handed e (r.readEach (size :: sizes) source).1 := by
      rcases hrest with hnot | hfailed
      · left
        refine ⟨?_, ?_, hnot.unended⟩
        · intro result hmem
          rw [readEach_cons, hresult] at hmem
          rcases List.mem_cons.mp hmem with rfl | hmem
          · exact ⟨bytes, rfl⟩
          · exact hnot.succeeds result hmem
        · rw [readEach_cons, hresult, handedOver_cons_ok, ← List.append_assoc]
          exact hnot.initial
      · right
        rw [readEach_cons, hresult]
        exact hfailed.cons
    rcases Nat.eq_zero_or_pos size with rfl | hsize
    · refine @hgives [] rfl ?_
      rw [List.append_nil]
      exact ih h hchunk
    · obtain ⟨hmeets, hkeeps⟩ := h.meets_read hsize hchunk
      cases hmeets with
      | gives result nonempty awaits => exact hgives result (ih awaits (hkeeps ▸ hchunk))
      | fails result keeps awaits => cases keeps
      | givesUp result failure all stands =>
        -- the file has ended with its failure, so that what follows it is the tail
        obtain ⟨hok, hstands, -⟩ := stands.readEach (hkeeps ▸ hchunk) sizes
        have hprefix := hstands.isPrefix
        rw [all, List.prefix_append_right_inj] at hprefix
        right
        rw [readEach_cons, result, ← Option.some.inj failure]
        exact ⟨[], _, rfl, hok, (List.append_nil _).trans all, hprefix⟩

/-- A reader **fails once** behind bytes if every run of reads has not failed yet, or has failed
once. -/
def FailsOnce (limit : Bytes) (e : IoError) (r : MultipartReader) (source : FileSource) : Prop :=
  ∀ sizes, NotYet limit [] r source sizes ∨ Failed limit [] e (r.readEach sizes source).1

theorem Awaits.failsOnce {e : IoError} (h : Awaits (some e) head file [] r source)
    (hchunk : 0 < r.chunkSize) : FailsOnce (head ++ file) e r source :=
  fun sizes => h.notYet_or_failed hchunk sizes

end MultipartReader

/-! ### Writing -/

/-- A callback that gives up does not succeed, whatever it writes to. -/
theorem Script.isError_run {σ : Type} (w : Writer σ) {script : Script} {e : IoError}
    (h : script.ending = .error e) (s : σ) : ∃ error, (script.run w s).1 = .error error := by
  induction script generalizing s with
  | nil => cases h
  | cons step rest ih =>
    cases hstep : w.perform step s with
    | mk result next =>
      cases result with
      | error error => exact ⟨error, by rw [run_cons_error hstep]⟩
      | ok u =>
        rw [run_cons_ok hstep]
        exact ih ((ending_cons_ok hstep).symm.trans h) next

namespace Multipart

/-- Copying a stream that keeps failing fails, and the sink gets a piece of what comes before. -/
theorem copy_of_breaksOff {stream : FileStream} {source : FileSource} {file : Bytes}
    (h : stream.BreaksOff none source file) {chunkSize : Nat} (hchunk : 0 < chunkSize)
    {rounds : Nat} (hrounds : file.length < rounds) (c : CountingSink) :
    ∃ error, (copy chunkSize rounds stream source c).1 = .error error ∧
      c.sink.Gets file (.error error) (copy chunkSize rounds stream source c).2.2.sink := by
  induction rounds generalizing stream source file c with
  | zero => omega
  | succ rounds ih =>
    have hstumbles := h.read hchunk
    rw [copy]
    cases hread : stream.read chunkSize source with
    | mk result next =>
      rw [hread] at hstumbles
      cases hstumbles with
      | @gives bytes rest stream' source' nonempty split breaks =>
        obtain ⟨b, bytes, rfl⟩ := List.exists_cons_of_ne_nil nonempty
        have hgets := c.gets_writeChunk (b :: bytes)
        rw [split]
        cases hwrite : c.writeChunk (b :: bytes) with
        | mk result next =>
          rw [hwrite] at hgets
          cases result with
          | error e =>
            simp only [hwrite]
            exact ⟨e, rfl, hgets.stop rest⟩
          | ok u =>
            have hlen := congrArg List.length split
            rw [List.length_append, List.length_cons] at hlen
            obtain ⟨error, herror, hrest⟩ := ih breaks (by omega) next
            simp only [hwrite]
            exact ⟨error, herror, hgets.trans hrest⟩
      | @fails e stream' source' keeps breaks =>
        exact ⟨e, rfl, .part List.nil_prefix (List.append_nil _).symm⟩
      | givesUp failure empty ends => cases failure

/-- Writing a file that breaks off fails, and the sink gets a piece of what comes before. -/
theorem writeFile_of_breaksOff {source : FileSource} {file : Bytes} (h : source.BreaksOff file)
    {chunkSize : Nat} (hchunk : 0 < chunkSize) (c : CountingSink) :
    ∃ error, (writeFile source chunkSize c).1 = .error error ∧
      c.sink.Gets file (.error error) (writeFile source chunkSize c).2.2.sink := by
  by_cases hmedium : ∀ script, source ≠ .callback script
  · obtain ⟨stream, hopen, hbreaks⟩ := h.openStream hmedium chunkSize
    rw [writeFile_of_openStream hopen hmedium]
    exact copy_of_breaksOff hbreaks hchunk (Nat.lt_succ_of_le hbreaks.length_le) c
  · cases h with
    | @callback script e fails =>
      obtain ⟨error, herror⟩ := Script.isError_run CountingSink.writer fails c
      have hgets := CountingSink.gets_run script c
      rw [herror] at hgets
      exact ⟨error, herror, hgets⟩
    | seekable breaks => exact absurd (fun _ h => by cases h) hmedium
    | reopened opens breaks => exact absurd (fun _ h => by cases h) hmedium

end Multipart

namespace MultipartEncoder

variable {e : MultipartEncoder} {file : Bytes}

/-- If writing the file fails, so does writing the body, and nothing follows the file. -/
theorem writeTo_of_file_error {sink : Sink} {source : FileSource} {c : Multipart.CountingSink}
    {error : IoError} (hhead : (sink.writeAll e.head).result = .ok ())
    (hfile : Multipart.writeFile e.file.source e.chunkSize
      { sink := (sink.writeAll e.head).sink } = (.error error, source, c)) :
    (e.writeTo sink).result = .error error ∧ (e.writeTo sink).sink = c.sink := by
  rw [writeTo_of_writeFile_error hhead hfile]
  exact ⟨rfl, rfl⟩

variable (e file)

/-- A body whose file breaks off behind bytes **stays incomplete**. -/
structure StaysIncomplete : Prop where
  /-- A reader over a medium hands over nothing but a piece of the head and the file, and never
  comes to an end. -/
  medium : (∀ script, e.file.source ≠ .callback script) →
    ∃ r, e.reader.1 = .ok r ∧ r.KeepsFailing (e.head ++ file) e.reader.2.file.source
  /-- A reader over a callback hands over a piece of the head and of what the callback has written,
  then its failure. Only behind the failure does it hand over any of the tail. -/
  callback : ∀ script, e.file.source = .callback (some script) →
    ∃ r error sent, e.reader.1 = .ok r ∧ script.ending = .error error ∧ sent <+: file ∧
      r.FailsOnce (e.head ++ sent) error e.reader.2.file.source
  /-- Writing the body fails, and the sink gets nothing but a piece of the head and the file. -/
  writing : ∀ sink : Sink, ∃ error piece, (e.writeTo sink).result = .error error ∧
    piece <+: e.head ++ file ∧ (e.writeTo sink).sink.received = sink.received ++ piece

variable {e file}

/-- The reader of a body over a stream that breaks off waits for its failure. -/
theorem exists_reader_of_breaksOff {once : Option IoError} {stream : FileStream}
    (hopen : (e.file.source.openStream e.chunkSize).1 = .ok stream)
    (hbreaks : stream.BreaksOff once (e.file.source.openStream e.chunkSize).2 file) :
    ∃ r, e.reader.1 = .ok r ∧ 0 < r.chunkSize ∧
      MultipartReader.Awaits once e.head file [] r e.reader.2.file.source := by
  refine ⟨{ head := e.head, file := stream, chunkSize := e.chunkSize, total := e.file.size
            observed := e.observed }, ?_, e.chunkSize_pos,
    .head rfl (List.nil_append _) hbreaks rfl⟩
  simp only [reader, hopen, Except.map]

/-- **Broken files.** A body whose file breaks off is not completed: neither by a reader, unless it
is read on behind the failure of a callback, nor in a sink. -/
theorem staysIncomplete (h : e.file.source.BreaksOff file) : StaysIncomplete e file where
  medium := by
    intro hmedium
    obtain ⟨stream, hopen, hbreaks⟩ := h.openStream hmedium e.chunkSize
    obtain ⟨r, hreader, hchunk, hawaits⟩ := exists_reader_of_breaksOff hopen hbreaks
    exact ⟨r, hreader, hawaits.keepsFailing hchunk⟩
  callback := by
    intro script hscript
    obtain ⟨error, hfails, hwritten⟩ : ∃ error, script.ending = .error error ∧
        script.written = file := by
      rw [hscript] at h
      cases h with
      | callback fails => exact ⟨_, fails, rfl⟩
    obtain ⟨sent, hsent, hpipe⟩ := Pipe.breaksOff_ofScript hfails e.chunkSize
    have hopen : (e.file.source.openStream e.chunkSize).1 =
        .ok (.piped (.ofScript script e.chunkSize)) := by
      rw [hscript]
      rfl
    obtain ⟨r, hreader, hchunk, hawaits⟩ := exists_reader_of_breaksOff hopen (.piped hpipe)
    exact ⟨r, error, sent, hreader, hfails, hwritten ▸ hsent, hawaits.failsOnce hchunk⟩
  writing := by
    intro sink
    have hhead := sink.gets_writeAll e.head
    cases hresult : (sink.writeAll e.head).result with
    | error error =>
      rw [hresult] at hhead
      obtain ⟨piece, hpiece, hreceived⟩ := (hhead.stop file).exists_piece
      refine ⟨error, piece, ?_, hpiece, ?_⟩
      · simp only [writeTo, hresult]
      · simpa only [writeTo, hresult] using hreceived
    | ok u =>
      rw [hresult] at hhead
      obtain ⟨error, herror, hgets⟩ := Multipart.writeFile_of_breaksOff h e.chunkSize_pos
        { sink := (sink.writeAll e.head).sink }
      obtain ⟨piece, hpiece, hreceived⟩ := (hhead.trans hgets).exists_piece
      obtain ⟨hfailed, hsink⟩ := writeTo_of_file_error hresult (Prod.ext herror rfl)
      exact ⟨error, piece, hfailed, hpiece, hsink ▸ hreceived⟩

/-! ### Letters that break off -/

/-- A body whose medium fails at its third byte, every time. -/
def jammed : MultipartEncoder where
  file :=
    { partName := "file"
      filename := "letters.txt"
      source := .seekable { source :=
        { data := [0x61, 0x62, 0x63, 0x64]
          pace := fun _ p => if p < 2 then .ok (2 - p) else .error (.other "disk gone") } } }
  chunkSize_pos := Multipart.defaultChunkSize_pos

/-- A body whose callback gives up behind three bytes, the first two of which fill a chunk. -/
def abandoned : MultipartEncoder where
  file :=
    { partName := "file"
      filename := "letters.txt"
      source := .callback (some [.write [0x61, 0x62, 0x63], .fail (.other "disk gone")]) }
  chunkSize := 2
  chunkSize_pos := Nat.zero_lt_two

theorem breaksOff_jammed : jammed.file.source.BreaksOff [0x61, 0x62] := by
  refine @FileSource.BreaksOff.seekable _ 2 ⟨Nat.zero_le 2, by decide, fun n _ => ⟨_, rfl⟩, ?_⟩
  intro n p most _ _ hp hpace
  have hpace' : (if p < 2 then .ok (2 - p) else .error (.other "disk gone") :
      Except IoError Nat) = .ok most := hpace
  rw [if_pos hp] at hpace'
  obtain rfl := Except.ok.inj hpace'
  omega

theorem breaksOff_abandoned : abandoned.file.source.BreaksOff [0x61, 0x62, 0x63] :=
  .callback (e := .other "disk gone") rfl

theorem staysIncomplete_letters :
    (jammed.file.source.BreaksOff [0x61, 0x62] ∧ StaysIncomplete jammed [0x61, 0x62]) ∧
      abandoned.file.source.BreaksOff [0x61, 0x62, 0x63] ∧
      StaysIncomplete abandoned [0x61, 0x62, 0x63] :=
  ⟨⟨breaksOff_jammed, staysIncomplete breaksOff_jammed⟩, breaksOff_abandoned,
    staysIncomplete breaksOff_abandoned⟩

/-- Read on behind its failure, a body that a callback gives up is closed by its tail, and all that
has been handed over is no piece of the head and the file. -/
theorem handedOver_abandoned :
    abandoned.file.source.BreaksOff [0x61, 0x62, 0x63] ∧
      ∃ r, abandoned.reader.1 = .ok r ∧
        (r.readEach [200, 200, 200, 200] abandoned.reader.2.file.source).1 =
          [.ok abandoned.head, .ok [0x61, 0x62], .error (.other "disk gone"),
            .ok Multipart.tail] ∧
        ¬ MultipartReader.handedOver
            (r.readEach [200, 200, 200, 200] abandoned.reader.2.file.source).1 <+:
          abandoned.head ++ [0x61, 0x62, 0x63] := by
  refine ⟨breaksOff_abandoned, _, rfl, ?_, ?_⟩
  · decide +kernel
  · decide +kernel

end MultipartEncoder

end ContentClient
