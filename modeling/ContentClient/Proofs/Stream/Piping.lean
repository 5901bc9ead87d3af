import ContentClient.Proofs.Stream.Flowing
import ContentClient.Stream.Pipe

/-!
# What goes through a pipe

The **output** of a producer is what it writes, in order, if it does not give up. Gathering a
producer's writes into chunks loses nothing: as long as every chunk is taken, the chunks sent and
the bytes that no chunk holds yet make up what has been written. So the chunks of a producer with an
output make up that output (`chunks_of_output`), and a read of the pipe takes bytes off the front of
what is left of it.

A producer that gives up sends its failure behind the chunks that it has filled
(`chunks_of_failure`). The pipe **breaks off** there: a read that finds no chunk before the failure
takes the failure out of the pipe, and leaves a pipe that carries nothing.
-/

namespace ContentClient

/-! ### Producers -/

namespace Script

/-- The bytes that a producer writes; none if it gives up. -/
def output? : Script → Option Bytes
  | [] => some []
  | .write bytes :: rest => (output? rest).map (bytes ++ ·)
  | .flush :: rest => output? rest
  | .fail _ :: _ => none

/-- The bytes that a producer writes until it ends or gives up. -/
def written : Script → Bytes
  | [] => []
  | .write bytes :: rest => bytes ++ written rest
  | .flush :: rest => written rest
  | .fail _ :: _ => []

/-- How a producer ends by itself. -/
def ending : Script → Except IoError Unit
  | [] => .ok ()
  | .write _ :: rest => ending rest
  | .flush :: rest => ending rest
  | .fail e :: _ => .error e

/-- A producer with an output does not give up, and writes its output. -/
theorem ending_of_output {script : Script} {output : Bytes} (h : script.output? = some output) :
    script.ending = .ok () ∧ script.written = output := by
  induction script generalizing output with
  | nil => exact ⟨rfl, Option.some.inj h⟩
  | cons step rest ih =>
    cases step with
    | write bytes =>
      obtain ⟨output', hrest, rfl⟩ := Option.map_eq_some_iff.mp h
      obtain ⟨hending, hwritten⟩ := ih hrest
      exact ⟨hending, congrArg (bytes ++ ·) hwritten⟩
    | flush => exact ih h
    | fail e => cases h

end Script

/-! ### The writing end -/

namespace PipeWriter

/-- The bytes that a writing end has taken in. -/
def gathered (w : PipeWriter) : Bytes := w.sent.flatten ++ w.buffered

variable {w : PipeWriter}

theorem sendFull_unbounded (rounds : Nat) (hroom : w.room = none) :
    ∃ w', w.sendFull rounds = (.ok (), w') ∧ w'.room = none ∧ w'.gathered = w.gathered := by
  induction rounds generalizing w with
  | zero => exact ⟨w, rfl, hroom, rfl⟩
  | succ rounds ih =>
    rw [sendFull]
    split
    · exact ⟨w, rfl, hroom, rfl⟩
    · -- a full chunk moves from the buffer to what has been sent
      obtain ⟨w', hw', hroom', hgathered⟩ := ih (w := { w with
        buffered := w.buffered.drop w.chunkSize
        sent := w.sent ++ [w.buffered.take w.chunkSize] }) hroom
      refine ⟨w', ?_, hroom', ?_⟩
      · rw [hroom] at hw'
        simpa only [send, hroom] using hw'
      · rw [hgathered]
        simp [gathered]

/-- An unbounded writing end takes everything in. -/
theorem write_unbounded (bytes : Bytes) (hroom : w.room = none) :
    ∃ w', w.write bytes = (.ok (), w') ∧ w'.room = none ∧
      w'.gathered = w.gathered ++ bytes := by
  obtain ⟨w', hw', hroom', hgathered⟩ := sendFull_unbounded (w.buffered ++ bytes).length
    (w := { w with buffered := w.buffered ++ bytes }) hroom
  refine ⟨w', hw', hroom', ?_⟩
  rw [hgathered]
  simp [gathered]

/-- A flush of an unbounded writing end leaves nothing that no chunk holds. -/
theorem flush_unbounded (hroom : w.room = none) :
    ∃ w', w.flush = (.ok (), w') ∧ w'.room = none ∧ w'.gathered = w.gathered ∧
      w'.buffered = [] := by
  rw [flush]
  split
  · rename_i hempty
    exact ⟨w, rfl, hroom, rfl, List.isEmpty_iff.mp hempty⟩
  · refine ⟨{ w with buffered := [], sent := w.sent ++ [w.buffered] }, ?_, hroom, ?_, rfl⟩
    · simp only [send, hroom]
    · simp [gathered]

/-- An unbounded writing end takes in all that a producer writes, and leaves the producer to end by
itself. -/
theorem run_unbounded (script : Script) (hroom : w.room = none) :
    ∃ w', script.run writer w = (script.ending, w') ∧ w'.room = none ∧
      w'.gathered = w.gathered ++ script.written := by
  induction script generalizing w with
  | nil => exact ⟨w, rfl, hroom, (List.append_nil _).symm⟩
  | cons step rest ih =>
    cases step with
    | write bytes =>
      obtain ⟨w', hw', hroom', hgathered⟩ := write_unbounded bytes hroom
      obtain ⟨w'', hw'', hroom'', hgathered'⟩ := ih hroom'
      refine ⟨w'', ?_, hroom'', ?_⟩
      · have hw : writer.write bytes w = (.ok (), w') := hw'
        rw [Script.run, hw]
        exact hw''
      · rw [hgathered', hgathered, List.append_assoc, Script.written]
    | flush =>
      obtain ⟨w', hw', hroom', hgathered, -⟩ := flush_unbounded hroom
      obtain ⟨w'', hw'', hroom'', hgathered'⟩ := ih hroom'
      refine ⟨w'', ?_, hroom'', ?_⟩
      · have hw : writer.flush w = (.ok (), w') := hw'
        rw [Script.run, hw]
        exact hw''
      · rw [hgathered', hgathered, Script.written]
    | fail e => exact ⟨w, rfl, hroom, (List.append_nil _).symm⟩

end PipeWriter

namespace Script

variable {script : Script}

/-- The chunks of a producer make up its output. -/
theorem chunks_of_output {output : Bytes} (hout : script.output? = some output)
    (chunkSize : Nat) :
    ∃ chunks : List Bytes, script.chunks chunkSize = chunks.map .ok ∧ chunks.flatten = output := by
  obtain ⟨hending, hwritten⟩ := ending_of_output hout
  obtain ⟨w, hw, hroom, hgathered⟩ :=
    PipeWriter.run_unbounded (w := { chunkSize := chunkSize }) script rfl
  obtain ⟨w', hw', -, hgathered', hempty⟩ := PipeWriter.flush_unbounded hroom
  refine ⟨w'.sent, ?_, ?_⟩
  · rw [chunks, hw, hending]
    dsimp only
    rw [hw']
  · have hall : w'.gathered = output := by
      rw [hgathered', hgathered, hwritten]
      rfl
    rwa [PipeWriter.gathered, hempty, List.append_nil] at hall

/-- The chunks of a producer that gives up hold a piece of what it writes, and its failure stands
behind them. What no full chunk holds is lost. -/
theorem chunks_of_failure {e : IoError} (hfails : script.ending = .error e) (chunkSize : Nat) :
    ∃ chunks : List Bytes, script.chunks chunkSize = chunks.map .ok ++ [.error e] ∧
      chunks.flatten <+: script.written := by
  obtain ⟨w, hw, -, hgathered⟩ :=
    PipeWriter.run_unbounded (w := { chunkSize := chunkSize }) script rfl
  refine ⟨w.sent, ?_, ?_⟩
  · rw [chunks, hw, hfails]
  · have hall : w.sent.flatten ++ w.buffered = script.written := hgathered
    rw [← hall]
    exact List.prefix_append _ _

end Script

/-! ### The reading end -/

namespace Pipe

/-- A pipe **carries** bytes if they are what is left of its chunks, none of which is a failure. -/
def Carries (p : Pipe) (bytes : Bytes) : Prop :=
  ∃ chunks : List Bytes, p.pending = chunks.map .ok ∧ bytes = p.current ++ chunks.flatten

theorem carries_ofScript {script : Script} {output : Bytes} (hout : script.output? = some output)
    (chunkSize : Nat) : (ofScript script chunkSize).Carries output := by
  obtain ⟨chunks, hchunks, hflatten⟩ := Script.chunks_of_output hout chunkSize
  exact ⟨chunks, hchunks, hflatten.symm⟩

/-- A read takes bytes off the front of the chunk at hand if it holds any. -/
theorem readFrom_cons (p : Pipe) (size : Nat) (b : UInt8) (current : Bytes) (pending : List Chunk)
    (taken : Nat) :
    p.readFrom size (b :: current) pending taken =
      (.ok ((b :: current).take size),
        { p with current := (b :: current).drop size, pending := pending, taken := taken }) := by
  cases pending <;> rfl

/-- A read of a pipe without failures takes bytes off the front of what it carries. -/
theorem readFrom_of_ok (p : Pipe) {size : Nat} (hsize : 0 < size) (chunks : List Bytes)
    (current : Bytes) (taken : Nat) :
    ∃ bytes rest, TakesOff size (current ++ chunks.flatten)
        (p.readFrom size current (chunks.map .ok) taken).1 bytes rest ∧
      (p.readFrom size current (chunks.map .ok) taken).2.Carries rest := by
  induction chunks generalizing current taken with
  | nil =>
    cases current with
    | nil => exact ⟨[], [], ⟨rfl, rfl, Nat.zero_le _, fun _ => rfl⟩, [], rfl, rfl⟩
    | cons b current =>
      rw [readFrom_cons]
      exact ⟨_, _, (TakesOff.take hsize _).append (List.cons_ne_nil _ _) _, [], rfl, rfl⟩
  | cons chunk chunks ih =>
    cases current with
    -- nothing is left of the chunk at hand, so the read goes on with the next one
    | nil => exact ih chunk (taken + 1)
    | cons b current =>
      rw [readFrom_cons]
      exact ⟨_, _, (TakesOff.take hsize _).append (List.cons_ne_nil _ _) _, chunk :: chunks,
        rfl, rfl⟩

theorem Carries.read {p : Pipe} {carried : Bytes} (h : p.Carries carried) {size : Nat}
    (hsize : 0 < size) :
    ∃ bytes rest, TakesOff size carried (p.read size).1 bytes rest ∧
      (p.read size).2.Carries rest := by
  obtain ⟨chunks, hpending, rfl⟩ := h
  rw [Pipe.read, hpending]
  exact readFrom_of_ok p hsize chunks p.current p.taken

/-- A pipe **breaks off** behind bytes if they are what its chunks hold before a failure, with which
it ends. -/
def BreaksOff (p : Pipe) (e : IoError) (bytes : Bytes) : Prop :=
  ∃ chunks : List Bytes, p.pending = chunks.map .ok ++ [.error e] ∧
    bytes = p.current ++ chunks.flatten

theorem breaksOff_ofScript {script : Script} {e : IoError} (hfails : script.ending = .error e)
    (chunkSize : Nat) :
    ∃ bytes, bytes <+: script.written ∧ (ofScript script chunkSize).BreaksOff e bytes := by
  obtain ⟨chunks, hchunks, hflatten⟩ := Script.chunks_of_failure hfails chunkSize
  exact ⟨chunks.flatten, hflatten, chunks, hchunks, rfl⟩

/-- A read of a pipe that breaks off takes bytes off the front of what comes before the failure. If
there are none, it takes out the failure, and the pipe carries nothing any more. -/
theorem readFrom_of_failure (p : Pipe) (e : IoError) {size : Nat} (hsize : 0 < size)
    (chunks : List Bytes) (current : Bytes) (taken : Nat) :
    let read := p.readFrom size current (chunks.map .ok ++ [.error e]) taken
    (current ++ chunks.flatten ≠ [] ∧
        ∃ bytes rest, TakesOff size (current ++ chunks.flatten) read.1 bytes rest ∧
          read.2.BreaksOff e rest) ∨
      (current ++ chunks.flatten = [] ∧ read.1 = .error e ∧ read.2.Carries []) := by
  induction chunks generalizing current taken with
  | nil =>
    cases current with
    | nil => exact .inr ⟨rfl, rfl, [], rfl, rfl⟩
    | cons b current =>
      rw [readFrom_cons]
      exact .inl ⟨List.cons_ne_nil _ _, _, _,
        (TakesOff.take hsize _).append (List.cons_ne_nil _ _) _, [], rfl, rfl⟩
  | cons chunk chunks ih =>
    cases current with
    | nil => exact ih chunk (taken + 1)
    | cons b current =>
      rw [readFrom_cons]
      exact .inl ⟨List.cons_ne_nil _ _, _, _,
        (TakesOff.take hsize _).append (List.cons_ne_nil _ _) _, chunk :: chunks, rfl, rfl⟩

theorem BreaksOff.read {p : Pipe} {e : IoError} {left : Bytes} (h : p.BreaksOff e left)
    {size : Nat} (hsize : 0 < size) :
    (left ≠ [] ∧ ∃ bytes rest, TakesOff size left (p.read size).1 bytes rest ∧
        (p.read size).2.BreaksOff e rest) ∨
      (left = [] ∧ (p.read size).1 = .error e ∧ (p.read size).2.Carries []) := by
  obtain ⟨chunks, hpending, rfl⟩ := h
  rw [Pipe.read, hpending]
  exact readFrom_of_failure p e hsize chunks p.current p.taken

end Pipe

end ContentClient
