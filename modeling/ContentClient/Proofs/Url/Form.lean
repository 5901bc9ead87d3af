import ContentClient.Proofs.Text.Ascii
import ContentClient.Proofs.Text.Utf8
import ContentClient.Url.Form

/-!
# Reading form encoding back

What form encoding writes decodes to the text that it stands for (`decode_encode`). It writes
letters, digits and six marks (`mem_encode`), so that encoded text can stand where quotes and line
breaks have a meaning.
-/

namespace ContentClient.Form

open Text

/-! ### Characters -/

/-- The characters that form encoding writes. -/
def isFormChar (c : Char) : Bool :=
  c.isAlphanum || ['*', '-', '.', '_', '+', '%'].contains c

theorem isFormChar_upperHex {n : Nat} (h : n < 16) : isFormChar (upperHex n) = true := by
  have hall : ∀ n < 16, isFormChar (upperHex n) = true := by decide
  exact hall n h

/-- The characters of an encoded octet. -/
theorem isFormChar_of_mem_encodeOctet {b : UInt8} {c : Char} (h : c ∈ encodeOctet b) :
    isFormChar c = true := by
  have hb : b.toNat < 256 := b.toNat_lt
  unfold encodeOctet at h
  split at h
  · rw [List.mem_singleton.mp h]
    decide
  · split at h
    · rename_i hplain
      rw [List.mem_singleton.mp h]
      simp only [isPlain, Bool.or_eq_true, beq_iff_eq] at hplain
      rcases hplain with (((halnum | hc) | hc) | hc) | hc
      · rw [isFormChar, halnum, Bool.true_or]
      all_goals
        rw [hc]
        decide
    · simp only [percent, List.mem_cons, List.not_mem_nil, or_false] at h
      rcases h with rfl | rfl | rfl
      · decide
      · exact isFormChar_upperHex (by omega)
      · exact isFormChar_upperHex (by omega)

theorem toNat_lt_of_isFormChar {c : Char} (h : isFormChar c = true) : c.toNat < 0x80 := by
  rw [isFormChar, Bool.or_eq_true] at h
  rcases h with halnum | hmark
  · exact toNat_lt_of_isAlphanum halnum
  · simp only [List.contains_eq_mem, List.mem_cons, List.not_mem_nil, or_false,
      decide_eq_true_eq] at hmark
    rcases hmark with rfl | rfl | rfl | rfl | rfl | rfl <;> decide

/-- Encoded text consists of letters, digits and six marks. -/
theorem mem_encode {s : String} {c : Char} (h : c ∈ (encode s).toList) : isFormChar c = true := by
  rw [encode, String.toList_ofList, encodeBytes, List.mem_flatMap] at h
  obtain ⟨b, -, hc⟩ := h
  exact isFormChar_of_mem_encodeOctet hc

/-! ### Decoding -/

theorem percentDecode_cons {b : UInt8} (h : b ≠ 0x25) (rest : Bytes) :
    percentDecode (b :: rest) = b :: percentDecode rest := by
  match rest with
  | [] => rfl
  | [_] => rfl
  | c :: d :: rest => rw [percentDecode, if_neg h]

theorem hexValue?_upperHex {n : Nat} (h : n < 16) :
    hexValue? (UInt8.ofNat (upperHex n).toNat) = some n := by
  have hall : ∀ n < 16, hexValue? (UInt8.ofNat (upperHex n).toNat) = some n := by decide
  exact hall n h

/-- A plus sign stands for a blank. -/
def unplus (b : UInt8) : UInt8 := if b = 0x2B then 0x20 else b

theorem unplus_upperHex {n : Nat} (h : n < 16) :
    unplus (UInt8.ofNat (upperHex n).toNat) = UInt8.ofNat (upperHex n).toNat := by
  have hall : ∀ n < 16, unplus (UInt8.ofNat (upperHex n).toNat) =
    UInt8.ofNat (upperHex n).toNat := by decide
  exact hall n h

theorem percentDecode_escape {x y : Nat} (hx : x < 16) (hy : y < 16) (rest : Bytes) :
    percentDecode (0x25 :: UInt8.ofNat (upperHex x).toNat :: UInt8.ofNat (upperHex y).toNat ::
      rest) = (x * 16 + y).toUInt8 :: percentDecode rest := by
  rw [percentDecode, if_pos rfl, hexValue?_upperHex hx, hexValue?_upperHex hy]

/-- What stands for itself takes up the one octet that it stands for. -/
theorem octets_plain {b : UInt8} (h : isPlain b = true) (hblank : b ≠ 0x20) :
    String.utf8EncodeChar (Char.ofNat b.toNat) = [b] := by
  have hcode : (Char.ofNat b.toNat).toNat = b.toNat := by
    have hvalid : b.toNat.isValidChar := .inl (Nat.lt_trans b.toNat_lt (by decide))
    rw [Char.ofNat, dif_pos hvalid]
    rfl
  have hchar : isFormChar (Char.ofNat b.toNat) = true := by
    refine isFormChar_of_mem_encodeOctet (b := b) ?_
    rw [encodeOctet, if_neg hblank, if_pos h]
    exact List.mem_singleton_self _
  rw [encodeChar_of_lt (toNat_lt_of_isFormChar hchar), hcode, UInt8.ofNat_toNat]

theorem octets_percent (b : UInt8) :
    (percent b).flatMap String.utf8EncodeChar =
      [0x25, UInt8.ofNat (upperHex (b.toNat / 16)).toNat,
        UInt8.ofNat (upperHex (b.toNat % 16)).toNat] := by
  have hascii : ∀ n < 16, (upperHex n).toNat < 0x80 := fun n hn =>
    toNat_lt_of_isFormChar (isFormChar_upperHex hn)
  have hhigh : b.toNat / 16 < 16 := Nat.div_lt_of_lt_mul b.toNat_lt
  have hlow : b.toNat % 16 < 16 := Nat.mod_lt _ (by decide)
  rw [percent, List.flatMap_cons, List.flatMap_cons, List.flatMap_singleton,
    encodeChar_of_lt (hascii _ hhigh), encodeChar_of_lt (hascii _ hlow)]
  rfl

/-- An encoded octet decodes to the octet. -/
theorem percentDecode_encodeOctet (b : UInt8) (rest : Bytes) :
    percentDecode (((encodeOctet b).flatMap String.utf8EncodeChar).map unplus ++ rest) =
      b :: percentDecode rest := by
  unfold encodeOctet
  split
  · rename_i hblank
    rw [hblank]
    exact percentDecode_cons (by decide) rest
  · rename_i hblank
    split
    · rename_i hplain
      -- the two characters with a meaning of their own do not stand for themselves
      have hplus : b ≠ 0x2B := by
        rintro rfl
        exact absurd hplain (by decide)
      have hpercent : b ≠ 0x25 := by
        rintro rfl
        exact absurd hplain (by decide)
      rw [List.flatMap_singleton, octets_plain hplain hblank, List.map_singleton, unplus,
        if_neg hplus]
      exact percentDecode_cons hpercent rest
    · have hhigh : b.toNat / 16 < 16 := Nat.div_lt_of_lt_mul b.toNat_lt
      have hlow : b.toNat % 16 < 16 := Nat.mod_lt _ (by decide)
      have hvalue : b.toNat / 16 * 16 + b.toNat % 16 = b.toNat := Nat.div_add_mod' _ _
      rw [octets_percent, List.map_cons, List.map_cons, List.map_singleton, unplus_upperHex hhigh,
        unplus_upperHex hlow, show unplus 0x25 = 0x25 from rfl]
      refine (percentDecode_escape hhigh hlow rest).trans ?_
      rw [hvalue]
      exact congrArg (· :: _) UInt8.ofNat_toNat

theorem percentDecode_encodeBytes (bytes rest : Bytes) :
    percentDecode (((encodeBytes bytes).flatMap String.utf8EncodeChar).map unplus ++ rest) =
      bytes ++ percentDecode rest := by
  induction bytes with
  | nil => rfl
  | cons b bytes ih =>
    rw [encodeBytes, List.flatMap_cons, List.flatMap_append, List.map_append, List.append_assoc,
      percentDecode_encodeOctet]
    exact congrArg _ ih

/-- **Form encoding reads back.** -/
theorem decode_encode (s : String) : decode (utf8 (encode s)) = s := by
  have hbytes := percentDecode_encodeBytes (utf8 s) []
  rw [List.append_nil, show percentDecode [] = [] from rfl, List.append_nil] at hbytes
  have hutf8 : utf8 (encode s) = (encodeBytes (utf8 s)).flatMap String.utf8EncodeChar := by
    rw [utf8, encode, String.toList_ofList]
  rw [decode, hutf8, show (fun b : UInt8 => if b = 0x2B then 0x20 else b) = unplus from rfl, hbytes,
    decodeLossy_utf8]

end ContentClient.Form
