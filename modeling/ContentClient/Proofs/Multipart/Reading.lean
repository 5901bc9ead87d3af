import ContentClient.Multipart.Reader
import ContentClient.Proofs.Multipart.Delivery

/-!
# Reading a body out

A reader of a multipart body whose file is delivered **reads out** the body: whatever buffers it is
read with, what it hands over is an initial piece of the head, the file and the tail, and it hands
over nothing to a buffer with room only behind the whole body. The main statement is
`Stands.readsOut`.

The invariant says where a reader stands behind the bytes that have been handed over (`Stands`). It
has one case for each stage; in the stage of the file, the reader may not have noticed yet that the
file has ended. A read either gives bytes of the piece at hand, or goes on to the next piece at
once, so that it never gives nothing before the end.
-/

namespace ContentClient

/-- The number of bytes of a file among the bytes that follow those handed over of a body. -/
def Multipart.fileShare (head file handed bytes : Bytes) : Nat :=
  min (handed.length + bytes.length) (head.length + file.length) - max handed.length head.length

namespace MultipartReader

/-- Reads into one buffer after another: what the reads give, and the states behind them. -/
def readEach : List Nat → MultipartReader → FileSource →
    List (Except IoError Bytes) × MultipartReader × FileSource
  | [], r, source => ([], r, source)
  | size :: sizes, r, source =>
    let step := r.read size source
    let rest := readEach sizes step.reader step.source
    (step.result :: rest.1, rest.2)

/-- The bytes that reads hand over together. -/
def handedOver (results : List (Except IoError Bytes)) : Bytes :=
  (results.filterMap Except.toOption).flatten

/-! ### The invariant -/

/-- Where a reader **stands** behind the bytes that have been handed over of a head, a file and the
tail. -/
inductive Stands (head file handed : Bytes) (r : MultipartReader) (source : FileSource) : Prop where
  | head (stage : r.stage = .head) (left : handed ++ r.head = head)
      (delivers : r.file.Delivers source file) (tail : r.tail = Multipart.tail)
  | file {rest : Bytes} (stage : r.stage = .file) (past : head.length ≤ handed.length)
      (left : handed ++ rest = head ++ file) (delivers : r.file.Delivers source rest)
      (tail : r.tail = Multipart.tail)
  | tail (stage : r.stage = .tail) (past : head.length + file.length ≤ handed.length)
      (left : handed ++ r.tail = head ++ file ++ Multipart.tail)

/-- What a read with a buffer that has room comes to: the next bytes of the body, none only behind
its end, and no more of the file than a chunk. -/
structure Hands (head file handed : Bytes) (size chunkSize : Nat) (step : Step) (bytes : Bytes) :
    Prop where
  result : step.result = .ok bytes
  stands : Stands head file (handed ++ bytes) step.reader step.source
  keeps : step.reader.chunkSize = chunkSize
  length_le : bytes.length ≤ size
  fileShare_le : Multipart.fileShare head file handed bytes ≤ min size chunkSize
  eq_nil : bytes = [] → handed = head ++ file ++ Multipart.tail

variable {head file handed : Bytes} {r : MultipartReader} {source : FileSource} {size : Nat}

/-- What has been handed over is an initial piece of the body. -/
theorem Stands.isPrefix (h : Stands head file handed r source) :
    handed <+: head ++ file ++ Multipart.tail := by
  cases h with
  | head stage left delivers tail =>
    rw [← left, List.append_assoc, List.append_assoc]
    exact List.prefix_append _ _
  | file stage past left delivers tail =>
    rw [← left, List.append_assoc]
    exact List.prefix_append _ _
  | tail stage past left =>
    rw [← left]
    exact List.prefix_append _ _

/-- Behind the file, a read takes off the tail. -/
theorem hands_readTail (hsize : 0 < size) (past : head.length + file.length ≤ handed.length)
    (left : handed ++ r.tail = head ++ file ++ Multipart.tail) :
    Hands head file handed size r.chunkSize (r.readTail size source) (r.tail.take size) := by
  have htakes := TakesOff.take hsize r.tail
  refine
    { result := rfl
      stands := .tail rfl ?_ ?_
      keeps := rfl
      length_le := htakes.length_le
      fileShare_le := ?_
      eq_nil := ?_ }
  · rw [List.length_append]
    omega
  · show handed ++ r.tail.take size ++ r.tail.drop size = _
    rw [List.append_assoc, List.take_append_drop, left]
  · unfold Multipart.fileShare
    omega
  · intro hnil
    rw [← left, htakes.eq_nil hnil, List.append_nil]

/-- Behind the head, a read takes off the file, and off the tail if the file has ended. -/
theorem hands_readFile (hsize : 0 < size) (hchunk : 0 < r.chunkSize) {rest : Bytes}
    (past : head.length ≤ handed.length) (left : handed ++ rest = head ++ file)
    (delivers : r.file.Delivers source rest) (tail : r.tail = Multipart.tail) :
    ∃ bytes, Hands head file handed size r.chunkSize (r.readFile size source) bytes := by
  have hroom : 0 < min size r.chunkSize := by omega
  obtain ⟨bytes, rest', htakes, hdelivers⟩ := delivers.read hroom
  have hresult := htakes.result
  have hlen := htakes.length_le
  cases hread : r.file.read (min size r.chunkSize) source with
  | mk result next =>
    obtain ⟨stream, source'⟩ := next
    rw [hread] at hresult hdelivers
    cases hresult
    cases bytes with
    | nil =>
      -- the file has ended, so the same read goes on with the tail
      have hend : handed = head ++ file := by
        rw [← left, htakes.eq_nil rfl, List.append_nil]
      have heq : r.readFile size source = ({ r with file := stream }).readTail size source' := by
        simp only [readFile, hread]
      have hpast : head.length + file.length ≤ handed.length :=
        Nat.le_of_eq (by rw [hend, List.length_append])
      have hleft : handed ++ r.tail = head ++ file ++ Multipart.tail := by rw [hend, tail]
      rw [heq]
      exact ⟨_, hands_readTail (r := { r with file := stream }) hsize hpast hleft⟩
    | cons b bytes =>
      have heq : r.readFile size source =
          { result := .ok (b :: bytes)
            reports := if r.observed then [(r.written + (b :: bytes).length, r.total)] else []
            reader := { r with
              stage := .file, file := stream, written := r.written + (b :: bytes).length }
            source := source' } := by
        simp only [readFile, hread]
      rw [heq]
      refine ⟨b :: bytes,
        { result := rfl
          stands := .file rfl ?_ ?_ hdelivers tail
          keeps := rfl
          length_le := by omega
          fileShare_le := ?_
          eq_nil := fun hnil => by cases hnil }⟩
      · rw [List.length_append]
        omega
      · rw [List.append_assoc, ← htakes.split, left]
      · unfold Multipart.fileShare
        omega

/-! ### The piece that a read is of -/

/-- A buffer without room changes nothing. -/
theorem read_zero (r : MultipartReader) (source : FileSource) :
    r.read 0 source = { result := .ok [], reader := r, source := source } := rfl

theorem read_of_head (hsize : 0 < size) (stage : r.stage = .head) (hne : r.head ≠ []) :
    r.read size source =
      { result := .ok (r.head.take size), reader := { r with head := r.head.drop size }
        source := source } := by
  simp [read, Nat.ne_of_gt hsize, stage, hne]

/-- Once the head has been handed over, a read goes on with the file. -/
theorem read_of_head_eq_nil (hsize : 0 < size) (stage : r.stage = .head) (hnil : r.head = []) :
    r.read size source = r.readFile size source := by
  simp [read, Nat.ne_of_gt hsize, stage, hnil]

theorem read_of_file (hsize : 0 < size) (stage : r.stage = .file) :
    r.read size source = r.readFile size source := by
  simp [read, Nat.ne_of_gt hsize, stage]

theorem read_of_tail (hsize : 0 < size) (stage : r.stage = .tail) :
    r.read size source = r.readTail size source := by
  simp [read, Nat.ne_of_gt hsize, stage]

/-- **One read.** It hands over the next bytes of the body, and nothing only behind its end. -/
theorem Stands.hands_read (h : Stands head file handed r source) (hsize : 0 < size)
    (hchunk : 0 < r.chunkSize) :
    ∃ bytes, Hands head file handed size r.chunkSize (r.read size source) bytes := by
  cases h with
  | head stage left delivers tail =>
    by_cases hempty : r.head = []
    · have hhanded : handed = head := by rw [← left, hempty, List.append_nil]
      have hpast : head.length ≤ handed.length := Nat.le_of_eq (by rw [hhanded])
      rw [read_of_head_eq_nil hsize stage hempty]
      exact hands_readFile hsize hchunk hpast (by rw [hhanded]) delivers tail
    · have htakes := TakesOff.take hsize r.head
      -- what is taken off the head lies before the file
      have hlen : handed.length + (r.head.take size).length ≤ head.length := by
        have hsum := congrArg List.length left
        rw [List.length_append] at hsum
        have := List.length_take_le' size r.head
        omega
      rw [read_of_head hsize stage hempty]
      refine ⟨r.head.take size,
        { result := rfl
          stands := .head stage ?_ delivers tail
          keeps := rfl
          length_le := htakes.length_le
          fileShare_le := ?_
          eq_nil := fun hnil => absurd (htakes.eq_nil hnil) hempty }⟩
      · rw [List.append_assoc, List.take_append_drop, left]
      · unfold Multipart.fileShare
        omega
  | file stage past left delivers tail =>
    rw [read_of_file hsize stage]
    exact hands_readFile hsize hchunk past left delivers tail
  | tail stage past left =>
    rw [read_of_tail hsize stage]
    exact ⟨_, hands_readTail hsize past left⟩

/-! ### Runs of reads -/

theorem readEach_cons (size : Nat) (sizes : List Nat) (r : MultipartReader) (source : FileSource) :
    r.readEach (size :: sizes) source =
      ((r.read size source).result ::
          ((r.read size source).reader.readEach sizes (r.read size source).source).1,
        ((r.read size source).reader.readEach sizes (r.read size source).source).2) := rfl

theorem handedOver_cons_ok (bytes : Bytes) (results : List (Except IoError Bytes)) :
    handedOver (.ok bytes :: results) = bytes ++ handedOver results := by
  simp [handedOver, Except.toOption]

theorem handedOver_cons_error (e : IoError) (results : List (Except IoError Bytes)) :
    handedOver (.error e :: results) = handedOver results := rfl

theorem eq_nil_of_handedOver_eq_nil {results : List (Except IoError Bytes)}
    (h : handedOver results = []) {bytes : Bytes} (hmem : .ok bytes ∈ results) : bytes = [] :=
  List.flatten_eq_nil_iff.mp h bytes (List.mem_filterMap.mpr ⟨_, hmem, rfl⟩)

/-- **A run of reads.** No read fails, and behind them the reader stands where the bytes that they
hand over lead. -/
theorem Stands.readEach (h : Stands head file handed r source) (hchunk : 0 < r.chunkSize)
    (sizes : List Nat) :
    (∀ result ∈ (r.readEach sizes source).1, ∃ bytes, result = .ok bytes) ∧
      Stands head file (handed ++ handedOver (r.readEach sizes source).1)
        (r.readEach sizes source).2.1 (r.readEach sizes source).2.2 ∧
      (r.readEach sizes source).2.1.chunkSize = r.chunkSize := by
  induction sizes generalizing handed r source with
  | nil =>
    refine ⟨fun _ hmem => absurd hmem List.not_mem_nil, ?_, rfl⟩
    show Stands head file (handed ++ []) r source
    rwa [List.append_nil]
  | cons size sizes ih =>
    obtain ⟨bytes, hresult, hstands, hkeeps⟩ : ∃ bytes,
        (r.read size source).result = .ok bytes ∧
          Stands head file (handed ++ bytes) (r.read size source).reader
            (r.read size source).source ∧
          (r.read size source).reader.chunkSize = r.chunkSize := by
      rcases Nat.eq_zero_or_pos size with rfl | hsize
      · rw [read_zero]
        exact ⟨[], rfl, by rwa [List.append_nil], rfl⟩
      · obtain ⟨bytes, hhands⟩ := h.hands_read hsize hchunk
        exact ⟨bytes, hhands.result, hhands.stands, hhands.keeps⟩
    obtain ⟨hok, hrest, hkeep⟩ := ih hstands (hkeeps ▸ hchunk)
    rw [readEach_cons, hresult]
    refine ⟨?_, ?_, hkeep.trans hkeeps⟩
    · intro result hmem
      rcases List.mem_cons.mp hmem with rfl | hmem
      · exact ⟨bytes, rfl⟩
      · exact hok result hmem
    · rw [handedOver_cons_ok, ← List.append_assoc]
      exact hrest

/-- Behind the whole body, a read hands over nothing. -/
theorem Stands.eq_nil_of_whole {bytes : Bytes}
    (h : Stands head file (handed ++ bytes) r source)
    (hwhole : handed = head ++ file ++ Multipart.tail) : bytes = [] := by
  have hlen := h.isPrefix.length_le
  rw [List.length_append, hwhole] at hlen
  exact List.length_eq_zero_iff.mp (by omega)

/-- Reads into buffers with room hand over a byte each, until the whole body has been handed
over. -/
theorem Stands.whole_or_length_le (h : Stands head file handed r source) (hchunk : 0 < r.chunkSize)
    {sizes : List Nat} (hsizes : ∀ size ∈ sizes, 0 < size) :
    handed ++ handedOver (r.readEach sizes source).1 = head ++ file ++ Multipart.tail ∨
      sizes.length ≤ (handedOver (r.readEach sizes source).1).length := by
  induction sizes generalizing handed r source with
  | nil => exact .inr (Nat.le_refl 0)
  | cons size sizes ih =>
    obtain ⟨bytes, hhands⟩ := h.hands_read (hsizes size List.mem_cons_self) hchunk
    have hrest := hhands.stands.readEach (hhands.keeps ▸ hchunk) sizes
    have heq : handedOver (r.readEach (size :: sizes) source).1 =
        bytes ++ handedOver
          ((r.read size source).reader.readEach sizes (r.read size source).source).1 := by
      rw [readEach_cons, hhands.result, handedOver_cons_ok]
    rw [heq, ← List.append_assoc]
    rcases ih hhands.stands (hhands.keeps ▸ hchunk)
      (fun size' hmem => hsizes size' (List.mem_cons_of_mem _ hmem)) with hwhole | hlen
    · exact .inl hwhole
    · by_cases hnil : bytes = []
      · -- a read that gives nothing stands behind the whole body, and so do all reads after it
        have hwhole := hhands.eq_nil hnil
        rw [hnil, List.append_nil] at hrest ⊢
        rw [hrest.2.1.eq_nil_of_whole hwhole, List.append_nil]
        exact .inl hwhole
      · have hpos : 0 < bytes.length := List.length_pos_iff.mpr hnil
        right
        rw [List.length_cons, List.length_append]
        omega

/-! ### Reading out -/

variable (head file r source) (chunkSize : Nat)

/-- A reader **reads out** the body of a head and a file. -/
structure ReadsOut : Prop where
  /-- No read fails. -/
  succeeds : ∀ sizes, ∀ result ∈ (r.readEach sizes source).1, ∃ bytes, result = .ok bytes
  /-- What reads hand over together is an initial piece of the body. -/
  initial : ∀ sizes,
    handedOver (r.readEach sizes source).1 <+: head ++ file ++ Multipart.tail
  /-- As many reads with room as the body has bytes hand over the whole body. -/
  whole : ∀ sizes, (∀ size ∈ sizes, 0 < size) →
    (head ++ file ++ Multipart.tail).length ≤ sizes.length →
      handedOver (r.readEach sizes source).1 = head ++ file ++ Multipart.tail
  /-- A buffer with room gets no byte exactly if the whole body has been handed over. -/
  ends : ∀ sizes size, 0 < size →
    (((r.readEach sizes source).2.1.read size (r.readEach sizes source).2.2).result = .ok [] ↔
      handedOver (r.readEach sizes source).1 = head ++ file ++ Multipart.tail)
  /-- Once the whole body has been handed over, all further reads give no byte. -/
  stays : ∀ sizes more,
    handedOver (r.readEach sizes source).1 = head ++ file ++ Multipart.tail →
      ∀ result ∈ ((r.readEach sizes source).2.1.readEach more (r.readEach sizes source).2.2).1,
        result = .ok []
  /-- A buffer without room gets no byte and changes nothing. -/
  empty : ∀ sizes,
    (r.readEach sizes source).2.1.read 0 (r.readEach sizes source).2.2 =
      { result := .ok []
        reader := (r.readEach sizes source).2.1
        source := (r.readEach sizes source).2.2 }
  /-- No read gives more bytes than fit, or more bytes of the file than a chunk. -/
  bounded : ∀ sizes size bytes,
    ((r.readEach sizes source).2.1.read size (r.readEach sizes source).2.2).result = .ok bytes →
      bytes.length ≤ size ∧
        Multipart.fileShare head file (handedOver (r.readEach sizes source).1) bytes ≤
          min size chunkSize

variable {head file r source}

/-- A reader that stands at the start of a body reads it out. -/
theorem Stands.readsOut (h : Stands head file [] r source) (hchunk : 0 < r.chunkSize) :
    ReadsOut head file r source r.chunkSize := by
  have hrun := fun sizes => h.readEach hchunk sizes
  refine
    { succeeds := fun sizes => (hrun sizes).1
      initial := fun sizes => (hrun sizes).2.1.isPrefix
      whole := ?_
      ends := ?_
      stays := ?_
      empty := fun _ => rfl
      bounded := ?_ }
  · intro sizes hsizes hlen
    rcases h.whole_or_length_le hchunk hsizes with hwhole | hle
    · exact hwhole
    · exact (hrun sizes).2.1.isPrefix.eq_of_length_le (Nat.le_trans hlen hle)
  · intro sizes size hsize
    obtain ⟨-, hstands, hkeeps⟩ := hrun sizes
    obtain ⟨bytes, hhands⟩ := hstands.hands_read hsize (hkeeps ▸ hchunk)
    rw [hhands.result]
    constructor
    · intro hnil
      exact hhands.eq_nil (Except.ok.inj hnil)
    · intro hwhole
      exact congrArg _ (hhands.stands.eq_nil_of_whole hwhole)
  · intro sizes more hwhole result hmem
    obtain ⟨-, hstands, hkeeps⟩ := hrun sizes
    obtain ⟨hok, hstands', -⟩ := hstands.readEach (hkeeps ▸ hchunk) more
    obtain ⟨bytes, rfl⟩ := hok result hmem
    exact congrArg _ (eq_nil_of_handedOver_eq_nil (hstands'.eq_nil_of_whole hwhole) hmem)
  · intro sizes size bytes hbytes
    obtain ⟨-, hstands, hkeeps⟩ := hrun sizes
    rcases Nat.eq_zero_or_pos size with rfl | hsize
    · rw [read_zero] at hbytes
      obtain rfl := Except.ok.inj hbytes
      refine ⟨Nat.le_refl 0, ?_⟩
      unfold Multipart.fileShare
      rw [List.length_nil]
      omega
    · obtain ⟨bytes', hhands⟩ := hstands.hands_read hsize (hkeeps ▸ hchunk)
      obtain rfl := Except.ok.inj (hbytes.symm.trans hhands.result)
      exact ⟨hhands.length_le, hkeeps ▸ hhands.fileShare_le⟩

end MultipartReader

end ContentClient
