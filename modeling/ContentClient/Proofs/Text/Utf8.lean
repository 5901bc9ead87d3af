import ContentClient.Text.Utf8

/-!
# Reading UTF-8 back

The octets of a text decode to its characters (`decode_utf8`), so that both ways of reading octets
give the text back. A character of ASCII takes up the one octet with its code, and no other
character has such an octet among its own (`mem_utf8_iff`): what is absent from a text is absent
from its octets.
-/

namespace ContentClient.Text

/-! ### One octet at a time -/

theorem decodeFrom_cons (p : Option Pending) (b : UInt8) (rest : Bytes) :
    decodeFrom p (b :: rest) = (step p b.toNat).1 ++ decodeFrom (step p b.toNat).2 rest := rfl

theorem charOf_toNat (c : Char) : charOf c.toNat = c := by
  have hvalid : c.toNat.isValidChar := c.valid
  rw [charOf, dif_pos hvalid]
  rfl

theorem toNat_ofNat_of_lt {n : Nat} (h : n < 0x100) : (UInt8.ofNat n).toNat = n :=
  UInt8.toNat_ofNat_of_lt' h

theorem start_one {n : Nat} (h : n < 0x80) : start n = ([some (charOf n)], none) := by
  simp [start, h]

theorem start_two {n : Nat} (h : 2 ≤ n) (h' : n < 0x20) :
    start (n + 0xC0) = ([], some ⟨1, n, 0x80, 0xBF⟩) := by
  simp only [start]
  rw [if_neg (by omega), if_neg (by omega), if_pos (by omega), Nat.add_sub_cancel]

/-- The first of three octets. The ones that begin no longer than needed, and the ones that begin no
surrogate, narrow the range of the second. -/
theorem start_three {n m : Nat} (h : n < 0x10) (hm : m < 0x40) (hlong : n = 0 → 0x20 ≤ m)
    (hsurrogate : n = 0xD → m < 0x20) :
    ∃ low high, start (n + 0xE0) = ([], some ⟨2, n, low, high⟩) ∧ low ≤ m + 0x80 ∧
      m + 0x80 ≤ high := by
  simp only [start]
  rw [if_neg (by omega), if_neg (by omega), if_neg (by omega)]
  rcases Nat.eq_zero_or_pos n with rfl | hpos
  · exact ⟨0xA0, 0xBF, rfl, by have := hlong rfl; omega, by omega⟩
  · rw [if_neg (by omega)]
    by_cases hn : n = 0xD
    · subst hn
      exact ⟨0x80, 0x9F, rfl, by omega, by have := hsurrogate rfl; omega⟩
    · rw [if_neg (by omega), if_pos (by omega), Nat.add_sub_cancel]
      exact ⟨0x80, 0xBF, rfl, by omega, by omega⟩

theorem start_four {n m : Nat} (h : n ≤ 4) (hm : m < 0x40) (hlong : n = 0 → 0x10 ≤ m)
    (hbound : n = 4 → m < 0x10) :
    ∃ low high, start (n + 0xF0) = ([], some ⟨3, n, low, high⟩) ∧ low ≤ m + 0x80 ∧
      m + 0x80 ≤ high := by
  simp only [start]
  rw [if_neg (by omega), if_neg (by omega), if_neg (by omega), if_neg (by omega),
    if_neg (by omega), if_neg (by omega)]
  rcases Nat.eq_zero_or_pos n with rfl | hpos
  · exact ⟨0x90, 0xBF, rfl, by have := hlong rfl; omega, by omega⟩
  · rw [if_neg (by omega)]
    by_cases hn : n = 4
    · subst hn
      exact ⟨0x80, 0x8F, rfl, by omega, by have := hbound rfl; omega⟩
    · rw [if_pos (by omega), Nat.add_sub_cancel]
      exact ⟨0x80, 0xBF, rfl, by omega, by omega⟩

/-! ### One character at a time -/

theorem decodeFrom_start {n : Nat} {p : Pending} (hn : n < 0x100) (h : start n = ([], some p))
    (rest : Bytes) : decodeFrom none (UInt8.ofNat n :: rest) = decodeFrom (some p) rest := by
  rw [decodeFrom_cons, toNat_ofNat_of_lt hn, step, h]
  rfl

variable {m value low high : Nat}

/-- An octet that an open sequence takes and that does not complete it. -/
theorem decodeFrom_inner {owed : Nat} (hm : m < 0x40) (hlow : low ≤ m + 0x80)
    (hhigh : m + 0x80 ≤ high) (rest : Bytes) :
    decodeFrom (some ⟨owed + 2, value, low, high⟩) (UInt8.ofNat (m + 0x80) :: rest) =
      decodeFrom (some ⟨owed + 1, value * 64 + m, 0x80, 0xBF⟩) rest := by
  rw [decodeFrom_cons, toNat_ofNat_of_lt (by omega)]
  simp [step, hlow, hhigh]

/-- The octet that completes a sequence. -/
theorem decodeFrom_last (hm : m < 0x40) (hlow : low ≤ m + 0x80) (hhigh : m + 0x80 ≤ high)
    (rest : Bytes) :
    decodeFrom (some ⟨1, value, low, high⟩) (UInt8.ofNat (m + 0x80) :: rest) =
      some (charOf (value * 64 + m)) :: decodeFrom none rest := by
  rw [decodeFrom_cons, toNat_ofNat_of_lt (by omega)]
  simp [step, hlow, hhigh]

/-- The octets of a character decode to the character. -/
theorem decodeFrom_encodeChar (c : Char) (rest : Bytes) :
    decodeFrom none (String.utf8EncodeChar c ++ rest) = some c :: decodeFrom none rest := by
  have hvalid : c.toNat < 0xD800 ∨ 0xDFFF < c.toNat ∧ c.toNat < 0x110000 := c.valid
  have hchar := charOf_toNat c
  have hcode : c.val.toNat = c.toNat := rfl
  simp only [String.utf8EncodeChar, hcode]
  generalize c.toNat = n at hvalid hchar ⊢
  split
  · rw [List.singleton_append, decodeFrom_cons, toNat_ofNat_of_lt (by omega), step,
      start_one (by omega), hchar]
    rfl
  · split
    · have hvalue : n / 64 % 0x20 * 64 + n % 0x40 = n := by omega
      simp only [List.cons_append, List.nil_append]
      rw [decodeFrom_start (by omega) (start_two (by omega) (by omega)),
        decodeFrom_last (by omega) (by omega) (by omega), hvalue, hchar]
    · split
      · obtain ⟨low, high, hstart, hlow, hhigh⟩ := start_three (n := n / 4096 % 0x10)
          (m := n / 64 % 0x40) (by omega) (by omega) (by omega) (by omega)
        have hvalue : (n / 4096 % 0x10 * 64 + n / 64 % 0x40) * 64 + n % 0x40 = n := by omega
        simp only [List.cons_append, List.nil_append]
        rw [decodeFrom_start (by omega) hstart, decodeFrom_inner (by omega) hlow hhigh,
          decodeFrom_last (by omega) (by omega) (by omega), hvalue, hchar]
      · obtain ⟨low, high, hstart, hlow, hhigh⟩ := start_four (n := n / 262144 % 0x08)
          (m := n / 4096 % 0x40) (by omega) (by omega) (by omega) (by omega)
        have hvalue : ((n / 262144 % 0x08 * 64 + n / 4096 % 0x40) * 64 + n / 64 % 0x40) * 64 +
            n % 0x40 = n := by omega
        simp only [List.cons_append, List.nil_append]
        rw [decodeFrom_start (by omega) hstart, decodeFrom_inner (by omega) hlow hhigh,
          decodeFrom_inner (by omega) (by omega) (by omega),
          decodeFrom_last (by omega) (by omega) (by omega), hvalue, hchar]

/-- **The octets of a text decode to its characters.** -/
theorem decode_utf8 (s : String) : decode (utf8 s) = s.toList.map some := by
  have h : ∀ cs : List Char, decodeFrom none (cs.flatMap String.utf8EncodeChar) = cs.map some := by
    intro cs
    induction cs with
    | nil => rfl
    | cons c cs ih => rw [List.flatMap_cons, decodeFrom_encodeChar, ih, List.map_cons]
  exact h s.toList

theorem decodeLossy_utf8 (s : String) : decodeLossy (utf8 s) = s := by
  have hchars : (s.toList.map some).map (·.getD '\uFFFD') = s.toList := by
    rw [List.map_map]
    exact List.map_id _
  rw [decodeLossy, decode_utf8, hchars, String.ofList_toList]

theorem decode?_utf8 (s : String) : decode? (utf8 s) = some s := by
  have hall : ∀ cs : List Char, (cs.map some).mapM id = some cs := by
    intro cs
    induction cs with
    | nil => rfl
    | cons c cs ih =>
      rw [List.map_cons, List.mapM_cons, ih]
      rfl
  rw [decode?, decode_utf8, hall, Option.map_some, String.ofList_toList]

/-! ### Octets of ASCII -/

/-- A character of ASCII takes up one octet. -/
theorem encodeChar_of_lt {c : Char} (h : c.toNat < 0x80) :
    String.utf8EncodeChar c = [UInt8.ofNat c.toNat] := by
  have hcode : c.val.toNat = c.toNat := rfl
  simp only [String.utf8EncodeChar, hcode]
  rw [if_pos (by omega)]

/-- An octet of ASCII is among those of a character only if it is its code. -/
theorem mem_encodeChar_iff {b : UInt8} (hb : b.toNat < 0x80) (c : Char) :
    b ∈ String.utf8EncodeChar c ↔ c.toNat = b.toNat := by
  have hcode : c.val.toNat = c.toNat := rfl
  have heq : ∀ n, n < 0x100 → (b = UInt8.ofNat n ↔ b.toNat = n) := fun n hn => by
    rw [← UInt8.toNat_inj, toNat_ofNat_of_lt hn]
  have hvalid : c.toNat < 0xD800 ∨ 0xDFFF < c.toNat ∧ c.toNat < 0x110000 := c.valid
  simp only [String.utf8EncodeChar, hcode]
  generalize c.toNat = n at hvalid ⊢
  split
  · rw [List.mem_singleton, heq n (by omega)]
    exact eq_comm
  · -- all octets of a longer sequence lie beyond ASCII
    split
    · simp only [List.mem_cons, List.not_mem_nil, or_false]
      rw [heq _ (by omega), heq _ (by omega)]
      omega
    · split
      · simp only [List.mem_cons, List.not_mem_nil, or_false]
        rw [heq _ (by omega), heq _ (by omega), heq _ (by omega)]
        omega
      · simp only [List.mem_cons, List.not_mem_nil, or_false]
        rw [heq _ (by omega), heq _ (by omega), heq _ (by omega), heq _ (by omega)]
        omega

/-- A text has an octet of ASCII exactly if it has the character with that code. -/
theorem mem_utf8_iff {b : UInt8} (hb : b.toNat < 0x80) (s : String) :
    b ∈ utf8 s ↔ ∃ c ∈ s.toList, c.toNat = b.toNat := by
  rw [utf8, List.mem_flatMap]
  simp only [mem_encodeChar_iff hb]

end ContentClient.Text
