import ContentClient.Proofs.Stream.Piping

/-!
# Chunks read in pieces

The reading end of a pipe hands out a row of chunks in pieces. It stands between two chunks or
inside one (`Pipe.StandsIn`). A read gives the next piece of the chunk at hand, and never goes on
into the one behind it; it gives nothing only behind the last chunk (`Pipe.StandsIn.read`). So all
reads together give the bytes of the chunks, as far as they go (`Pipe.StandsIn.readEach`,
`ReadsOff.isPrefix`).
-/

namespace ContentClient

variable {chunks : List Bytes}

/-! ### Pieces -/

/-- The **next piece** of a row of chunks, of which some bytes have been handed over, for a buffer
of `size` bytes. -/
inductive NextPiece (chunks : List Bytes) (size : Nat) (handed : Bytes) : Bytes → Prop where
  /-- Nothing comes behind the last chunk. -/
  | ended (whole : handed = chunks.flatten) : NextPiece chunks size handed []
  /-- Before that, something comes of one chunk, and as much of it as is left or has room. -/
  | inside {done rest : List Bytes} {before piece after : Bytes}
      (chunks_eq : chunks = done ++ (before ++ piece ++ after) :: rest)
      (handed_eq : handed = done.flatten ++ before) (ne_nil : piece ≠ [])
      (length_le : piece.length ≤ size) (fits : after = [] ∨ piece.length = size) :
      NextPiece chunks size handed piece

/-- Pieces are **read off** a row of chunks with buffers of given sizes, one after another. -/
inductive ReadsOff (chunks : List Bytes) : Bytes → List Nat → List Bytes → Prop where
  | nil {handed : Bytes} : ReadsOff chunks handed [] []
  | cons {handed piece : Bytes} {size : Nat} {sizes : List Nat} {pieces : List Bytes}
      (first : NextPiece chunks size handed piece)
      (rest : ReadsOff chunks (handed ++ piece) sizes pieces) :
      ReadsOff chunks handed (size :: sizes) (piece :: pieces)

section ReadsOff

variable {handed piece : Bytes} {size : Nat} {sizes : List Nat} {pieces : List Bytes}

theorem NextPiece.isPrefix (h : NextPiece chunks size handed piece) :
    handed ++ piece <+: chunks.flatten := by
  cases h with
  | ended whole =>
    have hall : handed ++ [] = chunks.flatten := (List.append_nil handed).trans whole
    exact hall ▸ List.prefix_rfl
  | @inside done rest before piece after chunks_eq handed_eq =>
    refine ⟨after ++ rest.flatten, ?_⟩
    rw [chunks_eq, handed_eq, List.flatten_append, List.flatten_cons]
    simp only [List.append_assoc]

/-- Nothing comes exactly where the chunks have been handed over. -/
theorem NextPiece.eq_nil_iff (h : NextPiece chunks size handed piece) :
    piece = [] ↔ handed = chunks.flatten := by
  refine ⟨fun hnil => ?_, fun hwhole => ?_⟩
  · cases h with
    | ended whole => exact whole
    | inside chunks_eq handed_eq ne_nil => exact absurd hnil ne_nil
  · have hlen := h.isPrefix.length_le
    rw [List.length_append, ← hwhole] at hlen
    exact List.length_eq_zero_iff.mp (by omega)

/-- Nothing comes behind what is whole. -/
theorem ReadsOff.flatten_eq_nil (h : ReadsOff chunks handed sizes pieces)
    (hwhole : handed = chunks.flatten) : pieces.flatten = [] := by
  induction h with
  | nil => rfl
  | cons first rest ih =>
    have hnil := first.eq_nil_iff.mpr hwhole
    rw [List.flatten_cons, hnil, List.nil_append]
    exact ih (by rw [hnil, List.append_nil, hwhole])

/-- **The same bytes.** The pieces make up the bytes of the chunks as far as they go. They make up
all of them if there are as many reads as bytes, or if a read has given nothing. -/
theorem ReadsOff.isPrefix (h : ReadsOff chunks handed sizes pieces)
    (hhanded : handed <+: chunks.flatten) :
    handed ++ pieces.flatten <+: chunks.flatten ∧
      (chunks.flatten.length ≤ handed.length + sizes.length →
        handed ++ pieces.flatten = chunks.flatten) ∧
      ([] ∈ pieces → handed ++ pieces.flatten = chunks.flatten) := by
  induction h with
  | @nil handed =>
    have hlen := hhanded.length_le
    rw [List.flatten_nil, List.append_nil]
    refine ⟨hhanded, fun hle => ?_, fun hmem => absurd hmem List.not_mem_nil⟩
    exact hhanded.eq_of_length_le hle
  | @cons handed piece size sizes pieces first rest ih =>
    obtain ⟨hbegins, henough, hempty⟩ := ih first.isPrefix
    rw [List.append_assoc, ← List.flatten_cons] at hbegins henough hempty
    have hended : piece = [] → handed ++ (piece :: pieces).flatten = chunks.flatten := by
      intro hnil
      have hwhole := first.eq_nil_iff.mp hnil
      rw [hnil, List.append_nil] at rest
      rw [List.flatten_cons, hnil, List.nil_append, rest.flatten_eq_nil hwhole, List.append_nil,
        hwhole]
    refine ⟨hbegins, fun hle => ?_, fun hmem => ?_⟩
    · by_cases hnil : piece = []
      · exact hended hnil
      · -- this read has given a byte at least, so the others suffice for the rest
        have hpos := List.length_pos_iff.mpr hnil
        rw [List.length_cons] at hle
        exact henough (by rw [List.length_append]; omega)
    · rcases List.mem_cons.mp hmem with hnil | hlater
      · exact hended hnil.symm
      · exact hempty hlater

end ReadsOff

/-! ### The reading end -/

namespace Pipe

/-- Where a pipe **stands** in a row of chunks of which some bytes have been handed over. -/
inductive StandsIn (chunks : List Bytes) (handed : Bytes) (p : Pipe) : Prop where
  | between (done rest : List Bytes) (chunks_eq : chunks = done ++ rest)
      (handed_eq : handed = done.flatten) (current : p.current = [])
      (pending : p.pending = rest.map .ok)
  | inside (done rest : List Bytes) (before : Bytes)
      (chunks_eq : chunks = done ++ (before ++ p.current) :: rest)
      (handed_eq : handed = done.flatten ++ before) (current : p.current ≠ [])
      (pending : p.pending = rest.map .ok)

variable {p : Pipe} {handed : Bytes} {size : Nat}

/-- What a read gives inside a chunk. -/
theorem readFrom_inside {done rest : List Bytes} {before current : Bytes}
    (hchunks : chunks = done ++ (before ++ current) :: rest)
    (hhanded : handed = done.flatten ++ before) (hcurrent : current ≠ []) (hsize : 0 < size)
    (taken : Nat) :
    ∃ piece, (p.readFrom size current (rest.map .ok) taken).1 = .ok piece ∧
      NextPiece chunks size handed piece ∧
      (p.readFrom size current (rest.map .ok) taken).2.StandsIn chunks (handed ++ piece) := by
  obtain ⟨b, left, rfl⟩ := List.exists_cons_of_ne_nil hcurrent
  rw [readFrom_cons]
  have hsplit : before ++ (b :: left).take size ++ (b :: left).drop size = before ++ b :: left := by
    rw [List.append_assoc, List.take_append_drop]
  refine ⟨(b :: left).take size, rfl, ?_, ?_⟩
  · refine .inside (hsplit ▸ hchunks) hhanded ?_ (List.length_take_le _ _) ?_
    · exact fun hnil => hcurrent ((List.take_eq_nil_iff.mp hnil).resolve_left (by omega))
    · rw [List.drop_eq_nil_iff, List.length_take]
      omega
  · by_cases hend : (b :: left).drop size = []
    · -- the read comes to the end of the chunk
      rw [hend, List.append_nil] at hsplit
      refine .between (done ++ [before ++ b :: left]) rest ?_ ?_ hend rfl
      · rw [hchunks, List.append_assoc, List.singleton_append]
      · rw [List.flatten_concat, ← hsplit, hhanded, List.append_assoc]
    · refine .inside done rest (before ++ (b :: left).take size) (hsplit ▸ hchunks) ?_ hend rfl
      rw [hhanded, List.append_assoc]

/-- **One read** gives the next piece. -/
theorem StandsIn.read (h : p.StandsIn chunks handed) (hne : ∀ chunk ∈ chunks, chunk ≠ [])
    (hsize : 0 < size) :
    ∃ piece, (p.read size).1 = .ok piece ∧ NextPiece chunks size handed piece ∧
      (p.read size).2.StandsIn chunks (handed ++ piece) := by
  cases h with
  | between done rest chunks_eq handed_eq current pending =>
    rw [Pipe.read, current, pending]
    cases rest with
    | nil =>
      rw [List.append_nil] at chunks_eq
      have hwhole : handed = chunks.flatten := by rw [handed_eq, chunks_eq]
      refine ⟨[], rfl, .ended hwhole, .between done [] ?_ ?_ rfl rfl⟩
      · rw [chunks_eq, List.append_nil]
      · rw [List.append_nil, handed_eq]
    | cons chunk rest =>
      have hchunk : chunk ≠ [] :=
        hne chunk (chunks_eq ▸ List.mem_append_right _ List.mem_cons_self)
      -- the read takes the next chunk, which holds something, and goes on inside it
      have hstep : p.readFrom size [] ((chunk :: rest).map .ok) p.taken =
          p.readFrom size chunk (rest.map .ok) (p.taken + 1) := rfl
      rw [hstep]
      have hinside : chunks = done ++ ([] ++ chunk) :: rest := chunks_eq
      exact readFrom_inside hinside (by rw [handed_eq, List.append_nil]) hchunk hsize _
  | inside done rest before chunks_eq handed_eq current pending =>
    rw [Pipe.read, pending]
    exact readFrom_inside chunks_eq handed_eq current hsize _

/-- What reads with buffers of given sizes give, one after another. -/
def readEach : List Nat → Pipe → List (Except IoError Bytes)
  | [], _ => []
  | size :: sizes, p => (p.read size).1 :: readEach sizes (p.read size).2

/-- **All reads** give one piece after another. -/
theorem StandsIn.readEach (h : p.StandsIn chunks handed) (hne : ∀ chunk ∈ chunks, chunk ≠ [])
    {sizes : List Nat} (hsizes : ∀ size ∈ sizes, 0 < size) :
    ∃ pieces, p.readEach sizes = pieces.map .ok ∧ ReadsOff chunks handed sizes pieces := by
  induction sizes generalizing p handed with
  | nil => exact ⟨[], rfl, .nil⟩
  | cons size sizes ih =>
    obtain ⟨hfirst, hrest⟩ := List.forall_mem_cons.mp hsizes
    obtain ⟨piece, hread, hpiece, hnext⟩ := h.read hne hfirst
    obtain ⟨pieces, hpieces, hreads⟩ := ih hnext hrest
    exact ⟨piece :: pieces, by rw [Pipe.readEach, hread, hpieces]; rfl, .cons hpiece hreads⟩

end Pipe

end ContentClient
