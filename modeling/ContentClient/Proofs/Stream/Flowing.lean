import ContentClient.Stream.Sink
import ContentClient.Stream.Source

/-!
# Sources that flow and sinks that take

A source **flows** if no read of it fails and every read before its end hands over a byte at least;
a read may still be as short as the medium likes. A sink **takes** if no write to it fails and every
write accepts a byte at least. Reading and writing keep both, so that a flowing source hands over
all that remains in it, and a taking sink accepts all that is written to it.

A source **breaks** at a position if every read there fails. Reading keeps that too, so that a
source that breaks hands over what lies before the position, and never comes to an end.
-/

namespace ContentClient

/-! ### Reads -/

/-- A read into a buffer of `size` bytes **takes off** bytes from the front of what is there, and
takes nothing only if nothing is there. -/
structure TakesOff (size : Nat) (present : Bytes) (result : Except IoError Bytes)
    (bytes rest : Bytes) : Prop where
  result : result = .ok bytes
  split : present = bytes ++ rest
  length_le : bytes.length ≤ size
  eq_nil : bytes = [] → present = []

/-- Taking as much as fits off something. -/
theorem TakesOff.take {size : Nat} (hsize : 0 < size) (present : Bytes) :
    TakesOff size present (.ok (present.take size)) (present.take size) (present.drop size) where
  result := rfl
  split := (List.take_append_drop size present).symm
  length_le := List.length_take_le size present
  eq_nil := by
    intro hnil
    rcases List.take_eq_nil_iff.mp hnil with rfl | hempty
    · omega
    · exact hempty

/-- What is taken off the front is also taken off the front of more, if it is not empty. -/
theorem TakesOff.append {size : Nat} {present : Bytes} {result : Except IoError Bytes}
    {bytes rest : Bytes} (h : TakesOff size present result bytes rest) (hne : present ≠ [])
    (more : Bytes) : TakesOff size (present ++ more) result bytes (rest ++ more) where
  result := h.result
  split := by rw [h.split, List.append_assoc]
  length_le := h.length_le
  eq_nil := fun hnil => absurd (h.eq_nil hnil) hne

/-! ### Sources -/

namespace ByteSource

/-- A source flows if from now on every read succeeds, and gives something before the end. -/
def Flows (s : ByteSource) : Prop :=
  ∀ n p, s.reads ≤ n → s.position ≤ p → ∃ most, s.pace n p = .ok most ∧
    (p < s.data.length → 0 < most)

theorem flows_ofBytes (data : Bytes) : (ofBytes data).Flows := by
  intro n p _ _
  refine ⟨data.length - p, rfl, fun hp => ?_⟩
  have hp' : p < data.length := hp
  omega

variable {s : ByteSource} {size : Nat}

/-- A read of a flowing source takes bytes off the front of what remains, and none only at the
end. -/
theorem Flows.read (h : s.Flows) (hsize : 0 < size) :
    ∃ bytes, TakesOff size s.remaining (s.read size).1 bytes (s.read size).2.remaining ∧
      (s.read size).2.Flows := by
  obtain ⟨most, hpace, hmost⟩ := h s.reads s.position (Nat.le_refl _) (Nat.le_refl _)
  have hread : s.read size = (.ok (s.remaining.take (min size most)), { s with
      reads := s.reads + 1
      position := s.position + (s.remaining.take (min size most)).length }) := by
    simp only [ByteSource.read, hpace]
  have hok : (s.read size).1 = .ok (s.remaining.take (min size most)) := by rw [hread]
  refine ⟨_, ⟨hok, remaining_read hok, ?_, ?_⟩, ?_⟩
  · rw [List.length_take]
    omega
  · intro hnil
    -- nothing is taken where something remains only if there is no room or no pace
    rcases List.take_eq_nil_iff.mp hnil with hzero | hempty
    · rw [remaining, List.drop_eq_nil_iff]
      omega
    · exact hempty
  · rw [hread]
    intro n p hn hp
    exact h n p (Nat.le_of_succ_le hn) (Nat.le_trans (Nat.le_add_right _ _) hp)

/-- A source breaks at a position if from now on every read there fails, and a read before it that
does not fail hands over a byte at least and none that lies behind it. -/
structure BreaksAt (s : ByteSource) (stop : Nat) : Prop where
  ahead : s.position ≤ stop
  inside : stop ≤ s.data.length
  fails : ∀ n, s.reads ≤ n → ∃ e, s.pace n stop = .error e
  gives : ∀ n p most, s.reads ≤ n → s.position ≤ p → p < stop → s.pace n p = .ok most →
    0 < most ∧ p + most ≤ stop

/-- The bytes from the position of a source up to another position. -/
def upTo (s : ByteSource) (stop : Nat) : Bytes := (s.data.take stop).drop s.position

/-- A read of a source that breaks fails, or it takes bytes off the front of what lies before the
break. -/
theorem BreaksAt.read {stop : Nat} (h : s.BreaksAt stop) (hsize : 0 < size) :
    (s.read size).2.BreaksAt stop ∧
      ((∃ e, (s.read size).1 = .error e ∧ (s.read size).2.upTo stop = s.upTo stop) ∨
        s.upTo stop ≠ [] ∧ ∃ bytes,
          TakesOff size (s.upTo stop) (s.read size).1 bytes ((s.read size).2.upTo stop)) := by
  have hahead := h.ahead
  have hinside := h.inside
  cases hpace : s.pace s.reads s.position with
  | error e =>
    have hread : s.read size = (.error e, { s with reads := s.reads + 1 }) := by
      simp only [ByteSource.read, hpace]
    rw [hread]
    refine ⟨{ h with fails := ?_, gives := ?_ }, .inl ⟨e, rfl, rfl⟩⟩
    · intro n hn
      exact h.fails n (Nat.le_of_succ_le hn)
    · intro n p most hn hp
      exact h.gives n p most (Nat.le_of_succ_le hn) hp
  | ok most =>
    -- a read that does not fail stands before the break
    have hlt : s.position < stop := by
      refine Nat.lt_of_le_of_ne hahead fun heq => ?_
      obtain ⟨e, hfails⟩ := h.fails s.reads (Nat.le_refl _)
      rw [← heq, hpace] at hfails
      cases hfails
    obtain ⟨hmost, hstop⟩ :=
      h.gives s.reads s.position most (Nat.le_refl _) (Nat.le_refl _) hlt hpace
    have hlen : (s.remaining.take (min size most)).length = min size most := by
      rw [List.length_take, remaining, List.length_drop]
      omega
    have hread : s.read size = (.ok (s.remaining.take (min size most)), { s with
        reads := s.reads + 1, position := s.position + min size most }) := by
      simp only [ByteSource.read, hpace, hlen]
    have htaken : s.remaining.take (min size most) = (s.upTo stop).take (min size most) := by
      rw [upTo, List.drop_take, List.take_take, remaining]
      congr 1
      omega
    have hsplit : s.upTo stop = s.remaining.take (min size most) ++
        (s.data.take stop).drop (s.position + min size most) := by
      rw [htaken, ← List.drop_drop]
      exact (List.take_append_drop _ _).symm
    have hne : s.remaining.take (min size most) ≠ [] := by
      intro hnil
      rw [hnil, List.length_nil] at hlen
      omega
    rw [hread]
    refine ⟨⟨?_, hinside, ?_, ?_⟩, .inr ⟨?_, _, ⟨rfl, hsplit, ?_, fun hnil => absurd hnil hne⟩⟩⟩
    · show s.position + min size most ≤ stop
      omega
    · intro n hn
      exact h.fails n (Nat.le_of_succ_le hn)
    · intro n p most hn hp
      exact h.gives n p most (Nat.le_of_succ_le hn) (Nat.le_trans (Nat.le_add_right _ _) hp)
    · rw [hsplit]
      exact List.append_ne_nil_of_left_ne_nil hne _
    · omega

end ByteSource

/-! ### Sinks -/

namespace Sink

/-- A sink takes if from now on every write is accepted, at least in part. -/
def Takes (s : Sink) : Prop :=
  ∀ n m, s.writes ≤ n → s.received.length ≤ m → ∃ most, s.room n m = .ok most ∧ 0 < most

/-- A flush of a sink may fail with an error. -/
def MayFailAtFlush (s : Sink) (e : IoError) : Prop := ∃ n, s.flushFault n = some e

/-- A sink **has taken** bytes: they stand behind what it had before, and it goes on taking. -/
structure HasTaken (s : Sink) (bytes : Bytes) (s' : Sink) : Prop where
  received : s'.received = s.received ++ bytes
  flushFault : s'.flushFault = s.flushFault
  takes : s'.Takes

variable {s s' s'' : Sink} {bytes more : Bytes}

theorem Takes.hasTaken_nil (h : s.Takes) : s.HasTaken [] s := ⟨(List.append_nil _).symm, rfl, h⟩

theorem HasTaken.trans (h : s.HasTaken bytes s') (h' : s'.HasTaken more s'') :
    s.HasTaken (bytes ++ more) s'' where
  received := by rw [h'.received, h.received, List.append_assoc]
  flushFault := h'.flushFault.trans h.flushFault
  takes := h'.takes

theorem HasTaken.mayFailAtFlush (h : s.HasTaken bytes s') {e : IoError}
    (he : s'.MayFailAtFlush e) : s.MayFailAtFlush e := by
  rwa [MayFailAtFlush, h.flushFault] at he

/-- A flush leaves what a sink has taken, and fails only as the sink may. -/
theorem Takes.flush (h : s.Takes) :
    s.HasTaken [] s.flush.2 ∧
      (s.flush.1 = .ok () ∨ ∃ e, s.MayFailAtFlush e ∧ s.flush.1 = .error e) := by
  cases hfault : s.flushFault s.flushes with
  | none =>
    have heq : s.flush = (.ok (), { s with flushes := s.flushes + 1 }) := by
      simp only [Sink.flush, hfault]
    rw [heq]
    exact ⟨⟨(List.append_nil _).symm, rfl, h⟩, .inl rfl⟩
  | some e =>
    have heq : s.flush = (.error e, { s with flushes := s.flushes + 1 }) := by
      simp only [Sink.flush, hfault]
    rw [heq]
    exact ⟨⟨(List.append_nil _).symm, rfl, h⟩, .inr ⟨e, ⟨_, hfault⟩, rfl⟩⟩

/-- A write to a taking sink accepts some of the bytes, from the front on. -/
theorem Takes.write (h : s.Takes) (b : UInt8) (bytes : Bytes) :
    ∃ n, (s.write (b :: bytes)).1 = .ok (n + 1) ∧ n ≤ bytes.length ∧
      s.HasTaken (b :: bytes.take n) (s.write (b :: bytes)).2 := by
  obtain ⟨most, hroom, hmost⟩ := h s.writes s.received.length (Nat.le_refl _) (Nat.le_refl _)
  obtain ⟨k, rfl⟩ : ∃ k, most = k + 1 := ⟨most - 1, by omega⟩
  have hwrite : s.write (b :: bytes) = (.ok (min k bytes.length + 1), { s with
      writes := s.writes + 1, received := s.received ++ b :: bytes.take k }) := by
    simp only [Sink.write, hroom, List.take_succ_cons, List.length_cons, List.length_take]
  rw [hwrite]
  refine ⟨min k bytes.length, rfl, Nat.min_le_right _ _, ?_, rfl, ?_⟩
  · rw [← List.take_eq_take_min]
  · intro n m hn hm
    refine h n m (Nat.le_of_succ_le hn) (Nat.le_trans ?_ hm)
    simp

theorem Takes.writeRounds (h : s.Takes) {rounds : Nat} (hrounds : bytes.length ≤ rounds) :
    (writeRounds rounds s bytes).result = .ok () ∧
      (∀ n, (writeRounds rounds s bytes).accepted.foldl (· + ·) n = n + bytes.length) ∧
      s.HasTaken bytes (writeRounds rounds s bytes).sink := by
  induction rounds generalizing s bytes with
  | zero =>
    obtain rfl := List.length_eq_zero_iff.mp (Nat.le_zero.mp hrounds)
    exact ⟨rfl, fun _ => rfl, h.hasTaken_nil⟩
  | succ rounds ih =>
    cases bytes with
    | nil => exact ⟨rfl, fun _ => rfl, h.hasTaken_nil⟩
    | cons b bytes =>
      obtain ⟨n, hok, hn, htaken⟩ := h.write b bytes
      -- the first write accepts a byte at least, so the rounds left suffice for the rest
      have hrest : (bytes.drop n).length ≤ rounds := by
        rw [List.length_drop]
        rw [List.length_cons] at hrounds
        omega
      obtain ⟨hresult, hsum, htaken'⟩ := ih htaken.takes hrest
      have heq : Sink.writeRounds (rounds + 1) s (b :: bytes) =
          let rest := Sink.writeRounds rounds (s.write (b :: bytes)).2 (bytes.drop n)
          ⟨(n + 1) :: rest.accepted, rest.result, rest.sink⟩ := by
        rw [Sink.writeRounds]
        cases hw : s.write (b :: bytes) with
        | mk result next =>
          rw [hw] at hok
          cases hok
          rfl
      rw [heq]
      refine ⟨hresult, ?_, ?_⟩
      · intro start
        show (Sink.writeRounds rounds _ _).accepted.foldl (· + ·) (start + (n + 1)) = _
        rw [hsum, List.length_drop, List.length_cons]
        omega
      · have hall := htaken.trans htaken'
        rwa [List.cons_append, List.take_append_drop] at hall

/-- A taking sink takes all that is written to it. -/
theorem Takes.writeAll (h : s.Takes) (bytes : Bytes) :
    (s.writeAll bytes).result = .ok () ∧
      (∀ n, (s.writeAll bytes).accepted.foldl (· + ·) n = n + bytes.length) ∧
      s.HasTaken bytes (s.writeAll bytes).sink :=
  h.writeRounds (Nat.le_refl _)

end Sink

end ContentClient
