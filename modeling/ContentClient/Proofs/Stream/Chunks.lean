import ContentClient.Proofs.Stream.Scripts
import Mathlib.Data.List.Forall2

/-!
# The chunks of a script

The writing end of a pipe fills chunks of one size and sends each as soon as it is full. A flush
sends what no full chunk holds, so that it ends a **stretch** of what a producer writes: the chunks
of a stretch are all full but the last, which may be shorter, and none of them is empty (`CutsUp`).

What the writing end has sent and what it holds back follow the stretches of the script, one step at
a time (`PipeWriter.Follows.perform`) and so over a whole run (`PipeWriter.Follows.run`). In
particular it never holds back as much as a chunk, and nothing behind a flush.
-/

namespace ContentClient

/-! ### Runs cut up -/

/-- Chunks of size `n` **cut up** a run of bytes: they make it up, all but the last are full, and
the last is neither empty nor larger. -/
structure CutsUp (n : Nat) (bytes : Bytes) (chunks : List Bytes) : Prop where
  flatten : chunks.flatten = bytes
  full : ∀ chunk ∈ chunks.dropLast, chunk.length = n
  last : ∀ chunk ∈ chunks.getLast?, 0 < chunk.length ∧ chunk.length ≤ n

variable {n : Nat} {bytes rest : Bytes} {chunks full : List Bytes}

theorem CutsUp.ne_nil (h : CutsUp n bytes chunks) (hn : 0 < n) : ∀ chunk ∈ chunks, chunk ≠ [] := by
  intro chunk hmem
  refine List.length_pos_iff.mp ?_
  rcases List.eq_nil_or_concat' chunks with rfl | ⟨front, back, rfl⟩
  · exact absurd hmem List.not_mem_nil
  · rcases List.mem_append.mp hmem with hfront | hback
    · have hlen := h.full chunk (by rwa [List.dropLast_concat])
      omega
    · obtain rfl := List.mem_singleton.mp hback
      exact (h.last _ List.getLast?_concat).1

/-- Full chunks cut up what they make up. -/
theorem cutsUp_flatten (hn : 0 < n) (hfull : ∀ chunk ∈ full, chunk.length = n) :
    CutsUp n full.flatten full where
  flatten := rfl
  full := fun chunk hmem => hfull chunk (List.dropLast_subset full hmem)
  last := fun chunk hmem => by
    have hlen := hfull chunk (List.mem_of_mem_getLast? hmem)
    omega

/-- And so they do with a shorter one behind them. -/
theorem cutsUp_concat (hfull : ∀ chunk ∈ full, chunk.length = n) (hne : rest ≠ [])
    (hlt : rest.length < n) : CutsUp n (full.flatten ++ rest) (full ++ [rest]) where
  flatten := List.flatten_concat
  full := by rwa [List.dropLast_concat]
  last := by
    intro chunk hmem
    rw [List.getLast?_concat] at hmem
    obtain rfl := Option.some.inj hmem
    exact ⟨List.length_pos_iff.mpr hne, Nat.le_of_lt hlt⟩

/-- Runs that are cut up one by one are made up by all their chunks, -/
theorem flatten_of_cutsUp {runs : List Bytes} {groups : List (List Bytes)}
    (h : List.Forall₂ (CutsUp n) runs groups) : groups.flatten.flatten = runs.flatten := by
  induction h with
  | nil => rfl
  | cons first rest ih =>
    rw [List.flatten_cons, List.flatten_append, first.flatten, ih, List.flatten_cons]

/-- none of which is empty. -/
theorem ne_nil_of_cutsUp (hn : 0 < n) {runs : List Bytes} {groups : List (List Bytes)}
    (h : List.Forall₂ (CutsUp n) runs groups) : ∀ chunk ∈ groups.flatten, chunk ≠ [] := by
  induction h with
  | nil => exact fun _ hmem => absurd hmem List.not_mem_nil
  | cons first rest ih => exact List.forall_mem_append.mpr ⟨first.ne_nil hn, ih⟩

/-! ### Stretches -/

/-- What a producer has written, cut at its flushes. -/
structure Stretches where
  /-- What stands before each flush, from the flush before it on. -/
  closed : List Bytes := []
  /-- What stands behind the last flush. -/
  current : Bytes := []

namespace Stretches

/-- The stretches behind one more step. -/
def next (s : Stretches) : ScriptStep → Stretches
  | .write bytes => { s with current := s.current ++ bytes }
  | .flush => { closed := s.closed ++ [s.current], current := [] }
  | .fail _ => s

/-- All stretches. The end of a script closes the last. -/
def all (s : Stretches) : List Bytes := s.closed ++ [s.current]

theorem flatten_all (s : Stretches) : s.all.flatten = s.closed.flatten ++ s.current :=
  List.flatten_concat

end Stretches

namespace Script

/-- The stretches of a script. -/
def stretches (script : Script) : Stretches := script.foldl Stretches.next {}

variable {script first second : Script}

/-- The stretches make up what is written. -/
theorem flatten_all_foldl (s : Stretches) (h : script.ending = .ok ()) :
    (script.foldl Stretches.next s).all.flatten = s.all.flatten ++ script.written := by
  induction script generalizing s with
  | nil => exact (List.append_nil _).symm
  | cons step rest ih =>
    cases step with
    | write bytes =>
      rw [List.foldl_cons, ih _ h, Stretches.flatten_all, Stretches.flatten_all]
      simp only [Stretches.next, written, List.append_assoc]
    | flush =>
      rw [List.foldl_cons, ih _ h, Stretches.flatten_all, Stretches.flatten_all]
      simp only [Stretches.next, written, List.flatten_concat, List.append_nil]
    | fail e => cases h

theorem flatten_stretches (h : script.ending = .ok ()) :
    script.stretches.all.flatten = script.written :=
  flatten_all_foldl {} h

/-- Both parts of a script that does not give up do not give up. -/
theorem ending_of_append (h : Script.ending (first ++ second) = .ok ()) :
    first.ending = .ok () ∧ second.ending = .ok () := by
  induction first with
  | nil => exact ⟨rfl, h⟩
  | cons step first ih =>
    cases step with
    | write bytes => exact ih h
    | flush => exact ih h
    | fail e => cases h

end Script

/-! ### The writing end -/

namespace PipeWriter

variable {w : PipeWriter} {s : Stretches}

/-- Sending full chunks, in as many rounds as there are bytes, leaves less than a chunk. -/
theorem sendFull_of_rounds (hn : 0 < w.chunkSize) (hroom : w.room = none) {rounds : Nat}
    (hrounds : w.buffered.length ≤ rounds) :
    ∃ full rest, w.sendFull rounds =
        (.ok (), { w with buffered := rest, sent := w.sent ++ full }) ∧
      (∀ chunk ∈ full, chunk.length = w.chunkSize) ∧ full.flatten ++ rest = w.buffered ∧
      rest.length < w.chunkSize := by
  have hdone : ({ w with buffered := w.buffered, sent := w.sent ++ [] } : PipeWriter) = w := by
    rw [List.append_nil]
  induction rounds generalizing w with
  | zero =>
    have hlen : w.buffered.length = 0 := Nat.le_zero.mp hrounds
    exact ⟨[], w.buffered, by rw [hdone]; rfl, fun _ hmem => absurd hmem List.not_mem_nil, rfl,
      by omega⟩
  | succ rounds ih =>
    rw [sendFull]
    split
    · rename_i hshort
      exact ⟨[], w.buffered, by rw [hdone], fun _ hmem => absurd hmem List.not_mem_nil, rfl, hshort⟩
    · rename_i hlong
      -- one full chunk goes out, which leaves fewer bytes than there are rounds
      have hleft : (w.buffered.drop w.chunkSize).length ≤ rounds := by
        rw [List.length_drop]
        omega
      obtain ⟨full, rest, hsend, hfull, hflatten, hlt⟩ := ih (w := { w with
        buffered := w.buffered.drop w.chunkSize
        sent := w.sent ++ [w.buffered.take w.chunkSize] }) hn hroom hleft (by rw [List.append_nil])
      refine ⟨w.buffered.take w.chunkSize :: full, rest, ?_, ?_, ?_, hlt⟩
      · rw [hroom, List.append_assoc, List.singleton_append] at hsend
        simpa only [send, hroom] using hsend
      · refine List.forall_mem_cons.mpr ⟨?_, hfull⟩
        rw [List.length_take]
        omega
      · rw [List.flatten_cons, List.append_assoc, hflatten, List.take_append_drop]

/-- A writing end **follows** the stretches of what has been written to it: it has sent the chunks
of the closed ones and the full chunks of the current one, and holds less than a chunk back. -/
structure Follows (n : Nat) (s : Stretches) (w : PipeWriter) : Prop where
  chunkSize : w.chunkSize = n
  room : w.room = none
  buffered_lt : w.buffered.length < n
  sent : ∃ groups full, w.sent = groups.flatten ++ full ∧
    List.Forall₂ (CutsUp n) s.closed groups ∧ (∀ chunk ∈ full, chunk.length = n) ∧
    full.flatten ++ w.buffered = s.current

theorem follows_new (hn : 0 < n) : Follows n {} { chunkSize := n } where
  chunkSize := rfl
  room := rfl
  buffered_lt := hn
  sent := ⟨[], [], rfl, .nil, fun _ hmem => absurd hmem List.not_mem_nil, rfl⟩

namespace Follows

/-- A write goes on with the current stretch. -/
theorem write (h : Follows n s w) (bytes : Bytes) :
    ∃ w', w.write bytes = (.ok (), w') ∧ w.sent <+: w'.sent ∧
      Follows n (s.next (.write bytes)) w' := by
  obtain ⟨groups, full, hsent, hgroups, hfull, hcurrent⟩ := h.sent
  have hpos : 0 < w.chunkSize := h.chunkSize ▸ Nat.lt_of_le_of_lt (Nat.zero_le _) h.buffered_lt
  obtain ⟨more, rest, hsend, hmore, hflatten, hlt⟩ :=
    sendFull_of_rounds (w := { w with buffered := w.buffered ++ bytes }) hpos h.room (Nat.le_refl _)
  refine ⟨_, hsend, List.prefix_append _ _, h.chunkSize, h.room, h.chunkSize ▸ hlt,
    groups, full ++ more, ?_, hgroups, ?_, ?_⟩
  · show w.sent ++ more = _
    rw [hsent, List.append_assoc]
  · exact List.forall_mem_append.mpr ⟨hfull, fun chunk hmem => (hmore chunk hmem).trans h.chunkSize⟩
  · show _ = s.current ++ bytes
    rw [List.flatten_append, List.append_assoc, hflatten, ← hcurrent, List.append_assoc]

/-- A flush closes the current stretch, and holds nothing back. -/
theorem flush (h : Follows n s w) :
    ∃ w', w.flush = (.ok (), w') ∧ w.sent <+: w'.sent ∧ w'.buffered = [] ∧
      Follows n (s.next .flush) w' := by
  obtain ⟨groups, full, hsent, hgroups, hfull, hcurrent⟩ := h.sent
  have hpos : 0 < n := Nat.lt_of_le_of_lt (Nat.zero_le _) h.buffered_lt
  -- the chunks of the current stretch become a group of their own
  have hclosed : ∀ w' : PipeWriter, w'.chunkSize = n → w'.room = none → w'.buffered = [] →
      ∀ group, CutsUp n s.current group → w'.sent = groups.flatten ++ group →
      Follows n (s.next .flush) w' := by
    intro w' hsize hroom hempty group hgroup hsent'
    refine ⟨hsize, hroom, hempty ▸ hpos, groups ++ [group], [], ?_, ?_, ?_, ?_⟩
    · rw [hsent', List.flatten_concat, List.append_nil]
    · exact List.rel_append hgroups (.cons hgroup .nil)
    · exact fun _ hmem => absurd hmem List.not_mem_nil
    · rw [hempty]
      rfl
  rw [PipeWriter.flush]
  split
  · rename_i hempty
    have hnil : w.buffered = [] := List.isEmpty_iff.mp hempty
    rw [hnil, List.append_nil] at hcurrent
    refine ⟨w, rfl, List.prefix_rfl, hnil, hclosed w h.chunkSize h.room hnil full ?_ hsent⟩
    exact hcurrent ▸ cutsUp_flatten hpos hfull
  · rename_i hsome
    have hne : w.buffered ≠ [] := fun hnil => hsome (List.isEmpty_iff.mpr hnil)
    refine ⟨{ w with buffered := [], sent := w.sent ++ [w.buffered] }, ?_,
      List.prefix_append _ _, rfl,
      hclosed _ h.chunkSize h.room rfl (full ++ [w.buffered]) ?_ ?_⟩
    · simp only [send, h.room]
    · exact hcurrent ▸ cutsUp_concat hfull hne h.buffered_lt
    · show w.sent ++ [w.buffered] = _
      rw [hsent, List.append_assoc]

/-- **One step.** A step that does not give up succeeds, and the writing end follows it. -/
theorem perform (h : Follows n s w) {step : ScriptStep} {rest : Script}
    (hends : Script.ending (step :: rest) = .ok ()) :
    ∃ w', writer.perform step w = (.ok (), w') ∧ w.sent <+: w'.sent ∧
      Follows n (s.next step) w' := by
  cases step with
  | write bytes => exact h.write bytes
  | flush =>
    obtain ⟨w', hflush, hsent, -, hnext⟩ := h.flush
    exact ⟨w', hflush, hsent, hnext⟩
  | fail e => cases hends

/-- **A whole run.** -/
theorem run (h : Follows n s w) {script : Script} (hends : script.ending = .ok ()) :
    ∃ w', script.run writer w = (.ok (), w') ∧ w.sent <+: w'.sent ∧
      Follows n (script.foldl Stretches.next s) w' := by
  induction script generalizing s w with
  | nil => exact ⟨w, rfl, List.prefix_rfl, h⟩
  | cons step rest ih =>
    obtain ⟨next, hstep, hsent, hnext⟩ := h.perform hends
    rw [Script.ending_cons_ok hstep] at hends
    obtain ⟨w', hrun, hsent', hlast⟩ := ih hnext hends
    exact ⟨w', (Script.run_cons_ok hstep).trans hrun, hsent.trans hsent', hlast⟩

/-- What has been sent and what is held back make up the stretches. -/
theorem flatten_sent (h : Follows n s w) : w.sent.flatten ++ w.buffered = s.all.flatten := by
  obtain ⟨groups, full, hsent, hgroups, -, hcurrent⟩ := h.sent
  rw [hsent, List.flatten_append, flatten_of_cutsUp hgroups, List.append_assoc, hcurrent,
    s.flatten_all]

/-- Where no stretch has begun, everything has been sent, as the chunks of the closed ones. -/
theorem of_current_eq_nil (h : Follows n s w) (hcurrent : s.current = []) :
    w.buffered = [] ∧
      ∃ groups, w.sent = groups.flatten ∧ List.Forall₂ (CutsUp n) s.closed groups := by
  obtain ⟨groups, full, hsent, hgroups, hfull, hbytes⟩ := h.sent
  rw [hcurrent] at hbytes
  obtain ⟨hflatten, hbuffered⟩ := List.append_eq_nil_iff.mp hbytes
  have hnone : full = [] := by
    refine List.eq_nil_iff_forall_not_mem.mpr fun chunk hmem => ?_
    have hlen := hfull chunk hmem
    have hpos := h.buffered_lt
    rw [List.flatten_eq_nil_iff.mp hflatten chunk hmem, List.length_nil] at hlen
    omega
  rw [hnone, List.append_nil] at hsent
  exact ⟨hbuffered, groups, hsent, hgroups⟩

end Follows

/-- On the way through a script, the writing end has sent some of the chunks that it will have sent
behind the whole of it, and holds back what it has not sent of the writes so far. -/
theorem run_partway (hn : 0 < n) {first second : Script}
    (hends : Script.ending (first ++ second) = .ok ()) :
    ∃ w w', first.run writer { chunkSize := n } = (.ok (), w) ∧
      Script.run writer (first ++ second) { chunkSize := n } = (.ok (), w') ∧
      w.sent <+: w'.sent ∧ w.sent.flatten ++ w.buffered = first.written ∧
      Follows n first.stretches w := by
  obtain ⟨hfirst, hsecond⟩ := Script.ending_of_append hends
  obtain ⟨w, hrun, -, hfollows⟩ := (follows_new hn).run hfirst
  obtain ⟨w', hrest, hsent, -⟩ := hfollows.run hsecond
  refine ⟨w, w', hrun, (Script.run_append_ok hrun).trans hrest, hsent, ?_, hfollows⟩
  rw [hfollows.flatten_sent]
  exact Script.flatten_stretches hfirst

end PipeWriter

end ContentClient
