import ContentClient.Proofs.Multipart.Writing

/-!
# What a sink has received

Writing stops at the first failure. So whatever the sink does, it **gets** an initial piece of what
is written to it, and all of it if the writing succeeds (`Sink.Gets`). That goes for one run of
writes, for a chunk, and for all that a callback writes (`CountingSink.gets_run`). If the writing of
a body succeeds, every write before has succeeded, and the sink has received the whole body: the
main statement is `MultipartEncoder.received_of_writeTo`. Nothing is said here about when writing
succeeds.
-/

namespace ContentClient

namespace Sink

/-- A sink **gets** bytes that are written to it: all of them if the writing succeeds, and else an
initial piece of them. -/
inductive Gets (s : Sink) (bytes : Bytes) : Except IoError Unit → Sink → Prop
  | all {s' : Sink} (received : s'.received = s.received ++ bytes) : Gets s bytes (.ok ()) s'
  | part {s' : Sink} {e : IoError} {piece : Bytes} (initial : piece <+: bytes)
    (received : s'.received = s.received ++ piece) : Gets s bytes (.error e) s'

variable {s s' s'' : Sink} {bytes more : Bytes} {result : Except IoError Unit} {e : IoError}

namespace Gets

theorem received (h : s.Gets bytes (.ok ()) s') : s'.received = s.received ++ bytes := by
  cases h
  assumption

theorem exists_piece (h : s.Gets bytes result s') :
    ∃ piece, piece <+: bytes ∧ s'.received = s.received ++ piece := by
  cases h with
  | all received => exact ⟨bytes, List.prefix_rfl, received⟩
  | part initial received => exact ⟨_, initial, received⟩

theorem trans (h : s.Gets bytes (.ok ()) s') (h' : s'.Gets more result s'') :
    s.Gets (bytes ++ more) result s'' := by
  cases h' with
  | all received => exact .all (by rw [received, h.received, List.append_assoc])
  | part initial received =>
    exact .part ((List.prefix_append_right_inj bytes).mpr initial)
      (by rw [received, h.received, List.append_assoc])

/-- After a failure, nothing more is written. -/
theorem stop (h : s.Gets bytes (.error e) s') (more : Bytes) :
    s.Gets (bytes ++ more) (.error e) s' := by
  cases h with
  | part initial received => exact .part (initial.trans (List.prefix_append _ _)) received

end Gets

theorem gets_nil (hreceived : s'.received = s.received) (result : Except IoError Unit) :
    s.Gets [] result s' := by
  have hnil : s'.received = s.received ++ [] := by rw [hreceived, List.append_nil]
  cases result with
  | error e => exact .part List.prefix_rfl hnil
  | ok u => exact .all hnil

theorem gets_flush (s : Sink) : s.Gets [] s.flush.1 s.flush.2 := gets_nil (received_flush s) _

/-- A write that succeeds adds as many bytes as it says, from the front on. -/
theorem received_of_write {n : Nat} (h : s.write bytes = (.ok n, s')) :
    n ≤ bytes.length ∧ s'.received = s.received ++ bytes.take n := by
  unfold write at h
  split at h
  · cases h
  · rename_i most hroom
    cases h
    rw [List.length_take]
    exact ⟨Nat.min_le_right _ _, by rw [← List.take_eq_take_min]⟩

theorem received_of_write_error (h : s.write bytes = (.error e, s')) :
    s'.received = s.received := by
  unfold write at h
  split at h
  · cases h
    rfl
  · cases h

theorem gets_writeRounds (rounds : Nat) (s : Sink) (bytes : Bytes) :
    s.Gets bytes (writeRounds rounds s bytes).result (writeRounds rounds s bytes).sink := by
  induction rounds generalizing s bytes with
  | zero =>
    cases bytes with
    | nil => exact gets_nil rfl _
    | cons b bytes => exact .part List.nil_prefix (List.append_nil _).symm
  | succ rounds ih =>
    cases bytes with
    | nil => exact gets_nil rfl _
    | cons b bytes =>
      rw [writeRounds]
      cases hwrite : s.write (b :: bytes) with
      | mk result next =>
        cases result with
        | error e =>
          exact .part List.nil_prefix (by rw [received_of_write_error hwrite, List.append_nil])
        | ok n =>
          have hreceived := (received_of_write hwrite).2
          cases n with
          | zero => exact .part List.nil_prefix hreceived
          | succ n =>
            -- what is left to write begins where the bytes that were accepted end
            have hfirst : s.Gets (b :: bytes.take n) (.ok ()) next := .all hreceived
            have hboth := hfirst.trans (ih next (bytes.drop n))
            rwa [List.cons_append, List.take_append_drop] at hboth

/-- What becomes of bytes that are written until all are accepted. -/
theorem gets_writeAll (s : Sink) (bytes : Bytes) :
    s.Gets bytes (s.writeAll bytes).result (s.writeAll bytes).sink :=
  gets_writeRounds bytes.length s bytes

/-- If all bytes have been written, the sink has received them. -/
theorem received_of_writeAll (h : (s.writeAll bytes).result = .ok ()) :
    (s.writeAll bytes).sink.received = s.received ++ bytes := by
  have hgets := s.gets_writeAll bytes
  rw [h] at hgets
  exact hgets.received

/-- A sink gets what a script writes if it gets what each of its steps hands over. -/
theorem Gets.run {σ : Type} {w : Writer σ} (sink : σ → Sink)
    (h : ∀ step s, (sink s).Gets step.bytes (w.perform step s).1 (sink (w.perform step s).2))
    (script : Script) (s : σ) :
    (sink s).Gets script.written (script.run w s).1 (sink (script.run w s).2) := by
  induction script generalizing s with
  | nil => exact gets_nil rfl _
  | cons step rest ih =>
    have hgets := h step s
    cases hstep : w.perform step s with
    | mk result next =>
      rw [hstep] at hgets
      cases result with
      | error e =>
        obtain ⟨more, hmore⟩ := Script.bytes_isPrefix_written step rest
        rw [Script.run_cons_error hstep, ← hmore]
        exact hgets.stop more
      | ok u =>
        rw [Script.run_cons_ok hstep, Script.written_cons_ok hstep]
        exact hgets.trans (ih next)

end Sink

namespace Multipart

namespace CountingSink

theorem gets_writeChunk (c : CountingSink) (bytes : Bytes) :
    c.sink.Gets bytes (c.writeChunk bytes).1 (c.writeChunk bytes).2.sink := by
  have hgets := c.sink.gets_writeAll bytes
  unfold writeChunk
  cases hall : (c.sink.writeAll bytes).result with
  | error e =>
    simp only [hall]
    rwa [hall] at hgets
  | ok u =>
    simp only [hall]
    rwa [hall] at hgets

/-- A sink gets what a callback writes to it. A callback that gives up has written it all, but
does not succeed. -/
theorem gets_run (script : Script) (c : CountingSink) :
    c.sink.Gets script.written (script.run writer c).1 (script.run writer c).2.sink := by
  refine Sink.Gets.run CountingSink.sink (fun step c => ?_) script c
  cases step with
  | write bytes => exact c.sink.gets_writeAll bytes
  | flush => exact c.sink.gets_flush
  | fail e => exact Sink.gets_nil rfl _

end CountingSink

/-- If a stream that delivers a file has been copied, the sink has received the file. -/
theorem received_of_copy {stream : FileStream} {source : FileSource} {file : Bytes}
    (h : stream.Delivers source file) {chunkSize : Nat} (hchunk : 0 < chunkSize) {rounds : Nat}
    (hrounds : file.length < rounds) {c : CountingSink}
    (hok : (copy chunkSize rounds stream source c).1 = .ok ()) :
    (copy chunkSize rounds stream source c).2.2.sink.received = c.sink.received ++ file := by
  induction rounds generalizing stream source file c with
  | zero => omega
  | succ rounds ih =>
    obtain ⟨bytes, rest, htakes, hdelivers⟩ := h.read hchunk
    have hresult := htakes.result
    cases hread : stream.read chunkSize source with
    | mk result next =>
      obtain ⟨stream', source'⟩ := next
      rw [hread] at hresult hdelivers
      cases hresult
      cases bytes with
      | nil =>
        simp only [copy, hread]
        rw [htakes.eq_nil rfl, List.append_nil]
      | cons b bytes =>
        have hgets := c.gets_writeChunk (b :: bytes)
        have hlen := congrArg List.length htakes.split
        rw [List.length_append, List.length_cons] at hlen
        cases hwrite : c.writeChunk (b :: bytes) with
        | mk result next =>
          rw [hwrite] at hgets
          simp only [copy, hread, hwrite] at hok ⊢
          cases result with
          | error e => cases hok
          | ok u =>
            dsimp only at hok ⊢
            rw [ih hdelivers (by omega) hok, hgets.received, List.append_assoc, ← htakes.split]

/-- If a file that is delivered has been written, the sink has received it. -/
theorem received_of_writeFile {source : FileSource} {file : Bytes} (h : source.Delivers file)
    {chunkSize : Nat} (hchunk : 0 < chunkSize) {c : CountingSink}
    (hok : (writeFile source chunkSize c).1 = .ok ()) :
    (writeFile source chunkSize c).2.2.sink.received = c.sink.received ++ file := by
  by_cases hmedium : ∀ script, source ≠ .callback script
  · obtain ⟨stream, hopen, hstream⟩ := h.openStream chunkSize
    rw [writeFile_of_openStream hopen hmedium] at hok ⊢
    exact received_of_copy hstream hchunk (Nat.lt_succ_of_le (Nat.le_of_eq hstream.length_eq)) hok
  · cases h with
    | @callback script output writes =>
      have hgets := CountingSink.gets_run script c
      rw [show (script.run CountingSink.writer c).1 = .ok () from hok] at hgets
      rw [← (Script.ending_of_output writes).2]
      exact hgets.received
    | seekable flows => exact absurd (fun _ h => by cases h) hmedium
    | reopened opens flows => exact absurd (fun _ h => by cases h) hmedium

end Multipart

namespace MultipartEncoder

variable {e : MultipartEncoder} {sink : Sink} {file : Bytes}

/-- Writing that succeeds has come past every step that could have ended it: the head, the file, the
tail and the flush behind them. -/
theorem steps_of_writeTo {n : Nat} (hok : (e.writeTo sink).result = .ok n) :
    ∃ source c, (sink.writeAll e.head).result = .ok () ∧
      Multipart.writeFile e.file.source e.chunkSize { sink := (sink.writeAll e.head).sink } =
        (.ok (), source, c) ∧
      (c.sink.writeAll Multipart.tail).result = .ok () ∧
      (e.writeTo sink).sink = (c.sink.writeAll Multipart.tail).sink.flush.2 := by
  unfold writeTo at hok ⊢
  cases hhead : (sink.writeAll e.head).result with
  | error x =>
    simp only [hhead] at hok
    cases hok
  | ok u =>
    cases hfile : Multipart.writeFile e.file.source e.chunkSize
        { sink := (sink.writeAll e.head).sink } with
    | mk result next =>
      obtain ⟨source, c⟩ := next
      simp only [hhead, hfile] at hok ⊢
      cases result with
      | error x => cases hok
      | ok u =>
        cases htail : (c.sink.writeAll Multipart.tail).result with
        | error x =>
          simp only [htail] at hok
          cases hok
        | ok u =>
          simp only [htail] at hok ⊢
          refine ⟨source, c, trivial, rfl, htail, ?_⟩
          split <;> simp_all

/-- **A body that has been written.** If the writing of a body succeeds, the sink has received the
head, the file and the tail behind what it had before. -/
theorem received_of_writeTo (h : e.file.source.Delivers file) {n : Nat}
    (hok : (e.writeTo sink).result = .ok n) :
    (e.writeTo sink).sink.received = sink.received ++ (e.head ++ file ++ Multipart.tail) := by
  obtain ⟨source, c, hhead, hwrite, htail, hsink⟩ := steps_of_writeTo hok
  have hfile := Multipart.received_of_writeFile h e.chunkSize_pos
    (c := { sink := (sink.writeAll e.head).sink })
  rw [hwrite] at hfile
  calc (e.writeTo sink).sink.received
      = (c.sink.writeAll Multipart.tail).sink.received := by rw [hsink, Sink.received_flush]
    _ = c.sink.received ++ Multipart.tail := Sink.received_of_writeAll htail
    _ = (sink.writeAll e.head).sink.received ++ file ++ Multipart.tail := by rw [hfile rfl]
    _ = sink.received ++ e.head ++ file ++ Multipart.tail := by
      rw [Sink.received_of_writeAll hhead]
    _ = sink.received ++ (e.head ++ file ++ Multipart.tail) := by simp only [List.append_assoc]

end MultipartEncoder

end ContentClient
