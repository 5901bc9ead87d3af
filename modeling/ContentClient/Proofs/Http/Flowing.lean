import ContentClient.Http.Body
import ContentClient.Proofs.Multipart.Body

/-!
# What a flow delivers

A flow **delivers** bytes if they are what reading it to its end hands over: the rest of fixed
bytes, what remains in a shared source since the last rewind, or what is left of a multipart body.
A read of such a flow takes bytes off the front of what it delivers, so whatever buffers it is read
with, it **reads out** those bytes and then ends (`Flow.Delivers.readsOut`).
-/

namespace ContentClient

/-- What is left of a body is no longer than the bound on the number of its reads. -/
theorem MultipartReader.Stands.length_le_readBound {head file handed rest : Bytes}
    {r : MultipartReader} {source : FileSource}
    (h : MultipartReader.Stands head file handed r source)
    (left : handed ++ rest = head ++ file ++ Multipart.tail) :
    rest.length ≤ r.readBound source := by
  unfold MultipartReader.readBound
  have hwhole := congrArg List.length left
  simp only [List.length_append] at hwhole
  cases h with
  | head stage past delivers tail =>
    have hpast := congrArg List.length past
    rw [List.length_append] at hpast
    rw [← delivers.length_eq, tail]
    omega
  | file stage past pieces delivers tail =>
    have hpieces := congrArg List.length pieces
    simp only [List.length_append] at hpieces
    rw [← delivers.length_eq, tail]
    omega
  | tail stage past pieces =>
    have hpieces := congrArg List.length pieces
    simp only [List.length_append] at hpieces
    omega

namespace Flow

/-- A flow still delivers bytes. -/
inductive Delivers : Flow → Bytes → Prop where
  | fixed (rest : Bytes) (body : Body) (reports : List Report) :
      Delivers ⟨.fixed rest, body, reports⟩ rest
  | shared {medium : SharedSource} (reports : List Report) (flows : medium.source.Flows) :
      Delivers ⟨.shared medium.handle, .stream medium, reports⟩ medium.source.remaining
  | multipart {reader : MultipartReader} {encoder : MultipartEncoder} {head file handed rest : Bytes}
      (reports : List Report) (room : 0 < reader.chunkSize)
      (stands : MultipartReader.Stands head file handed reader encoder.file.source)
      (left : handed ++ rest = head ++ file ++ Multipart.tail) :
      Delivers ⟨.multipart reader, .multipart encoder, reports⟩ rest

/-! ### One read -/

variable {f : Flow} {present : Bytes} {size : Nat}

/-- A read takes bytes off the front of what a flow delivers. -/
theorem Delivers.read (h : f.Delivers present) (hsize : 0 < size) :
    ∃ bytes rest, TakesOff size present (f.read size).1 bytes rest ∧
      (f.read size).2.Delivers rest := by
  cases h with
  | fixed _ body reports => exact ⟨_, _, TakesOff.take hsize present, .fixed _ body reports⟩
  | @shared medium reports flows =>
    obtain ⟨bytes, htakes, hflows⟩ := flows.read hsize
    have hread : medium.read medium.handle size =
        ((medium.source.read size).1, { medium with source := (medium.source.read size).2 }) := by
      simp [SharedSource.read, SharedSource.handle]
    simp only [Flow.read, hread]
    exact ⟨bytes, _, htakes,
      @Delivers.shared { medium with source := (medium.source.read size).2 } reports hflows⟩
  | @multipart reader encoder head file handed rest reports room stands left =>
    obtain ⟨bytes, hhands⟩ := stands.hands_read hsize room
    -- what has been handed over stays an initial piece of the body
    obtain ⟨more, hmore⟩ := hhands.stands.isPrefix
    have hleft : present = bytes ++ more := by
      rw [← left, List.append_assoc] at hmore
      exact (List.append_cancel_left hmore).symm
    refine ⟨bytes, more, ⟨hhands.result, hleft, hhands.length_le, fun hnil => ?_⟩,
      .multipart _ (hhands.keeps ▸ room) hhands.stands hmore⟩
    have hwhole := hhands.eq_nil hnil
    rw [hwhole] at left
    exact List.append_right_eq_self.mp left

theorem Delivers.length_le_readBound (h : f.Delivers present) : present.length ≤ f.readBound := by
  cases h with
  | fixed _ body reports => exact Nat.le_refl _
  | shared reports flows => exact Nat.le_of_eq List.length_drop
  | multipart reports room stands left => exact stands.length_le_readBound left

/-- A flow that delivers nothing gives nothing to a buffer with room, and the other way round. -/
theorem Delivers.read_eq_nil_iff (h : f.Delivers present) (hsize : 0 < size) :
    (f.read size).1 = .ok [] ↔ present = [] := by
  obtain ⟨bytes, rest, htakes, -⟩ := h.read hsize
  rw [htakes.result]
  constructor
  · intro hnil
    exact htakes.eq_nil (Except.ok.inj hnil)
  · rintro rfl
    rw [(List.append_eq_nil_iff.mp htakes.split.symm).1]

/-! ### Runs of reads -/

/-- Reads into one buffer after another: what the reads give, and the flow behind them. -/
def readEach : List Nat → Flow → List (Except IoError Bytes) × Flow
  | [], f => ([], f)
  | size :: sizes, f =>
    let rest := readEach sizes (f.read size).2
    ((f.read size).1 :: rest.1, rest.2)

/-- Reads into buffers with room succeed, and hand over an initial piece of what a flow delivers. -/
theorem Delivers.readEach (h : f.Delivers present) {sizes : List Nat}
    (hsizes : ∀ size ∈ sizes, 0 < size) :
    (∀ result ∈ (f.readEach sizes).1, ∃ bytes, result = .ok bytes) ∧
      ∃ rest, present = MultipartReader.handedOver (f.readEach sizes).1 ++ rest ∧
        (f.readEach sizes).2.Delivers rest := by
  induction sizes generalizing f present with
  | nil => exact ⟨fun _ hmem => absurd hmem List.not_mem_nil, present, rfl, h⟩
  | cons size sizes ih =>
    obtain ⟨bytes, rest, htakes, hdelivers⟩ := h.read (hsizes size List.mem_cons_self)
    obtain ⟨hok, rest', hrest, hdelivers'⟩ :=
      ih hdelivers fun size' hmem => hsizes size' (List.mem_cons_of_mem _ hmem)
    have heq : f.readEach (size :: sizes) =
        (.ok bytes :: ((f.read size).2.readEach sizes).1, ((f.read size).2.readEach sizes).2) := by
      rw [Flow.readEach, htakes.result]
    rw [heq]
    refine ⟨?_, rest', ?_, hdelivers'⟩
    · intro result hmem
      rcases List.mem_cons.mp hmem with rfl | hmem
      · exact ⟨bytes, rfl⟩
      · exact hok result hmem
    · rw [MultipartReader.handedOver_cons_ok, List.append_assoc, ← hrest]
      exact htakes.split

theorem Delivers.readRounds (h : f.Delivers present) (hsize : 0 < size) {rounds : Nat}
    (hrounds : present.length < rounds) : (f.readRounds size rounds).1 = .ok present := by
  induction rounds generalizing f present with
  | zero => exact absurd hrounds (Nat.not_lt_zero _)
  | succ rounds ih =>
    obtain ⟨bytes, rest, htakes, hdelivers⟩ := h.read hsize
    have hresult := htakes.result
    cases hread : f.read size with
    | mk result next =>
      rw [hread] at hresult hdelivers
      cases hresult
      cases bytes with
      | nil =>
        rw [htakes.eq_nil rfl]
        simp only [Flow.readRounds, hread]
      | cons b bytes =>
        -- what the flow still delivers is shorter
        have hlen := congrArg List.length htakes.split
        rw [List.length_append, List.length_cons] at hlen
        have hrest := ih hdelivers (by omega)
        simp only [Flow.readRounds, hread, hrest]
        exact congrArg _ htakes.split.symm

variable (f) (whole : Bytes)

/-- A flow **reads out** bytes. -/
structure ReadsOut : Prop where
  /-- No read into a buffer with room fails. -/
  succeeds : ∀ sizes, (∀ size ∈ sizes, 0 < size) →
    ∀ result ∈ (f.readEach sizes).1, ∃ bytes, result = .ok bytes
  /-- What reads hand over together is an initial piece of the bytes. -/
  initial : ∀ sizes, (∀ size ∈ sizes, 0 < size) →
    MultipartReader.handedOver (f.readEach sizes).1 <+: whole
  /-- A buffer with room gets no byte exactly if all bytes have been handed over. -/
  ends : ∀ sizes, (∀ size ∈ sizes, 0 < size) → ∀ size, 0 < size →
    (((f.readEach sizes).2.read size).1 = .ok [] ↔
      MultipartReader.handedOver (f.readEach sizes).1 = whole)
  /-- Reading to the end hands over all bytes. -/
  all : ∀ size, 0 < size → (f.readAll size).1 = .ok whole

variable {f whole}

/-- A flow reads out what it delivers. -/
theorem Delivers.readsOut (h : f.Delivers whole) : f.ReadsOut whole where
  succeeds := fun _ hsizes => (h.readEach hsizes).1
  initial := by
    intro sizes hsizes
    obtain ⟨-, rest, hrest, -⟩ := h.readEach hsizes
    exact ⟨rest, hrest.symm⟩
  ends := by
    intro sizes hsizes size hsize
    obtain ⟨-, rest, hrest, hdelivers⟩ := h.readEach hsizes
    rw [hdelivers.read_eq_nil_iff hsize]
    constructor
    · rintro rfl
      rw [hrest, List.append_nil]
    · intro hall
      rw [hall] at hrest
      exact List.append_right_eq_self.mp hrest.symm
  all := fun _ hsize => h.readRounds hsize (Nat.lt_succ_of_le h.length_le_readBound)

end Flow

end ContentClient
