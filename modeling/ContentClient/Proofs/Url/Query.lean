import ContentClient.Proofs.Url.Form
import ContentClient.Url.Basic

/-!
# Queries

The query of a URL stands for a list of pairs. Appending pairs to a URL leaves the pairs that its
query stands for and puts the new ones behind them, whatever is written in their names and values
(`Url.queryPairs_appendPairs`). Encoded text has neither of the two characters that separate pairs
and names, so a query can be taken apart where it was put together.
-/

namespace ContentClient

namespace Form

open Text

/-! ### Parts between separators -/

theorem splitAt_ne_nil (sep : UInt8) (bytes : Bytes) : splitAt sep bytes ≠ [] := by
  cases bytes with
  | nil => exact List.cons_ne_nil _ _
  | cons b rest =>
    rw [splitAt]
    split
    · exact List.cons_ne_nil _ _
    · split <;> exact List.cons_ne_nil _ _

theorem splitAt_cons_of_ne {sep b : UInt8} (h : b ≠ sep) (rest : Bytes) :
    ∃ part parts, splitAt sep rest = part :: parts ∧
      splitAt sep (b :: rest) = (b :: part) :: parts := by
  obtain ⟨part, parts, hrest⟩ := List.exists_cons_of_ne_nil (splitAt_ne_nil sep rest)
  refine ⟨part, parts, hrest, ?_⟩
  rw [splitAt, if_neg h, hrest]

/-- What stands before a separator and what stands behind it are split on their own. -/
theorem splitAt_append (sep : UInt8) (bytes rest : Bytes) :
    splitAt sep (bytes ++ sep :: rest) = splitAt sep bytes ++ splitAt sep rest := by
  induction bytes with
  | nil => simp [splitAt]
  | cons b bytes ih =>
    by_cases hb : b = sep
    · rw [hb, List.cons_append, splitAt, if_pos rfl, ih, splitAt, if_pos rfl, List.cons_append]
    · obtain ⟨part, parts, hsplit, hcons⟩ := splitAt_cons_of_ne hb bytes
      obtain ⟨part', parts', hsplit', hcons'⟩ := splitAt_cons_of_ne hb (bytes ++ sep :: rest)
      rw [ih, hsplit, List.cons_append, List.cons.injEq] at hsplit'
      rw [List.cons_append, hcons', hcons, List.cons_append, ← hsplit'.1, ← hsplit'.2]

theorem splitAt_of_not_mem {sep : UInt8} {bytes : Bytes} (h : sep ∉ bytes) :
    splitAt sep bytes = [bytes] := by
  induction bytes with
  | nil => rfl
  | cons b bytes ih =>
    rw [List.mem_cons, not_or] at h
    obtain ⟨part, parts, hsplit, hcons⟩ := splitAt_cons_of_ne (fun hb => h.1 hb.symm) bytes
    rw [ih h.2, List.cons.injEq] at hsplit
    rw [hcons, ← hsplit.1, ← hsplit.2]

/-! ### Pairs -/

/-- Encoded text has no octet that stands for no character of form encoding. -/
theorem not_mem_utf8_encode {b : UInt8} (hb : b.toNat < 0x80)
    (hchar : isFormChar (Char.ofNat b.toNat) = false) (s : String) : b ∉ utf8 (encode s) := by
  rw [mem_utf8_iff hb]
  rintro ⟨c, hmem, hc⟩
  have hform := mem_encode hmem
  rw [← hc, Char.ofNat_toNat, hform] at hchar
  cases hchar

theorem utf8_pair (p : String × String) :
    utf8 (pair p) = utf8 (encode p.1) ++ 0x3D :: utf8 (encode p.2) := by
  have hequals : utf8 "=" = [0x3D] := rfl
  rw [pair, utf8_append, utf8_append, hequals, List.append_assoc, List.singleton_append]

theorem not_mem_utf8_pair (p : String × String) : (0x26 : UInt8) ∉ utf8 (pair p) := by
  have hencode := not_mem_utf8_encode (b := 0x26) (by decide) (by decide)
  rw [utf8_pair, List.mem_append, List.mem_cons, not_or, not_or]
  exact ⟨hencode p.1, by decide, hencode p.2⟩

/-- A query with nothing in it stands for no pairs. -/
theorem parsePairs_empty : parsePairs "" = [] := rfl

/-- A query of two pieces stands for the pairs of both. -/
theorem parsePairs_append (q r : String) :
    parsePairs (q ++ "&" ++ r) = parsePairs q ++ parsePairs r := by
  have hampersand : utf8 "&" = [0x26] := rfl
  have hutf8 : utf8 (q ++ "&" ++ r) = utf8 q ++ 0x26 :: utf8 r := by
    rw [utf8_append, utf8_append, hampersand, List.append_assoc, List.singleton_append]
  rw [parsePairs, hutf8, splitAt_append, List.filter_append, List.map_append]
  rfl

/-- A query of any number of pieces stands for the pairs of all of them. -/
theorem parsePairs_intercalate (pieces : List String) :
    parsePairs ("&".intercalate pieces) = pieces.flatMap parsePairs := by
  induction pieces with
  | nil => rfl
  | cons piece rest ih =>
    rw [List.flatMap_cons, ← ih]
    cases rest with
    | nil => rw [String.intercalate_singleton, String.intercalate_nil, parsePairs_empty,
        List.append_nil]
    | cons next rest => rw [String.intercalate_cons_cons, parsePairs_append]

/-- A pair reads back. -/
theorem parsePairs_pair (p : String × String) : parsePairs (pair p) = [p] := by
  have hequals : (0x3D : UInt8) ∉ utf8 (encode p.1) :=
    not_mem_utf8_encode (by decide) (by decide) p.1
  have hkeep : ∀ b ∈ utf8 (encode p.1), decide (b ≠ 0x3D) = true := fun b hb =>
    decide_eq_true fun heq => hequals (heq ▸ hb)
  have hname : (utf8 (pair p)).takeWhile (· ≠ 0x3D) = utf8 (encode p.1) := by
    rw [utf8_pair, List.takeWhile_append_of_pos hkeep, List.takeWhile_cons_of_neg (by decide),
      List.append_nil]
  have hvalue : (utf8 (pair p)).drop ((utf8 (encode p.1)).length + 1) = utf8 (encode p.2) := by
    rw [utf8_pair, List.drop_append, List.drop_eq_nil_of_le (Nat.le_succ _), List.nil_append,
      Nat.add_sub_cancel_left, List.drop_succ_cons, List.drop_zero]
  have hpart : (utf8 (pair p)).isEmpty = false := by
    rw [utf8_pair, List.isEmpty_eq_false_iff]
    exact List.append_ne_nil_of_right_ne_nil _ (List.cons_ne_nil _ _)
  rw [parsePairs, splitAt_of_not_mem (not_mem_utf8_pair p), List.filter_cons_of_pos (by
    rw [hpart]; rfl), List.filter_nil, List.map_singleton]
  simp only [hname, hvalue, decode_encode]

/-- Pairs read back. -/
theorem flatMap_parsePairs_pair (ps : List (String × String)) :
    (ps.map pair).flatMap parsePairs = ps := by
  rw [List.flatMap_map]
  simp only [parsePairs_pair]
  exact List.flatMap_singleton' ps

end Form

namespace Url

/-- The pairs that the query of a URL stands for. -/
def queryPairs (u : Url) : List (String × String) := Form.parsePairs (u.query.getD "")

/-- **Appended pairs** stand behind those that were there. -/
theorem queryPairs_appendPairs (u : Url) (pairs : List (String × String)) :
    (u.appendPairs pairs).queryPairs = u.queryPairs ++ pairs := by
  -- an empty query stands for no pairs, so that leaving it out makes no difference
  have hpresent : (u.query.toList.filter (!·.isEmpty)).flatMap Form.parsePairs = u.queryPairs := by
    rw [queryPairs]
    cases u.query with
    | none => rfl
    | some query =>
      by_cases hempty : query = ""
      · rw [hempty]
        rfl
      · simp [hempty]
  calc (u.appendPairs pairs).queryPairs
    _ = (u.query.toList.filter (!·.isEmpty) ++ pairs.map Form.pair).flatMap Form.parsePairs :=
      Form.parsePairs_intercalate _
    _ = u.queryPairs ++ pairs := by
      rw [List.flatMap_append, hpresent, Form.flatMap_parsePairs_pair]

end Url

end ContentClient
