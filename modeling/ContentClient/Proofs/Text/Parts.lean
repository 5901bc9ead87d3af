import Mathlib.Data.List.Basic
import ContentClient.Text.Blank
import ContentClient.Text.Split

/-!
# Parts of texts

Where the characters of a text that is joined, cut or trimmed come from.
-/

namespace ContentClient.Text

/-- A character of an intercalated text is one of its separator or of its parts. -/
theorem mem_intercalate {sep : String} {parts : List String} {c : Char}
    (h : c ∈ (sep.intercalate parts).toList) :
    c ∈ sep.toList ∨ ∃ part ∈ parts, c ∈ part.toList := by
  induction parts with
  | nil => simp at h
  | cons part parts ih =>
    cases parts with
    | nil => exact .inr ⟨part, List.mem_cons_self, by simpa using h⟩
    | cons next parts =>
      rw [String.intercalate_cons_cons, String.toList_append, String.toList_append,
        List.mem_append, List.mem_append] at h
      obtain (h | h) | h := h
      · exact .inr ⟨part, List.mem_cons_self, h⟩
      · exact .inl h
      · obtain h | ⟨part', hmem, h⟩ := ih h
        · exact .inl h
        · exact .inr ⟨part', List.mem_cons_of_mem part hmem, h⟩

/-- The parts of a text hold characters of the text. -/
theorem mem_of_mem_splitOnChar {sep c : Char} {s part : List Char}
    (hpart : part ∈ splitOnChar sep s) (h : c ∈ part) : c ∈ s := by
  induction s generalizing part with
  | nil =>
    obtain rfl := List.mem_singleton.mp hpart
    exact h
  | cons d s ih =>
    rw [splitOnChar] at hpart
    split at hpart
    · obtain rfl | hpart := List.mem_cons.mp hpart
      · cases h
      · exact List.mem_cons_of_mem d (ih hpart h)
    · split at hpart
      · rw [List.mem_singleton.mp hpart] at h
        rw [List.mem_singleton.mp h]
        exact List.mem_cons_self
      · rename_i first others hsplit
        rw [hsplit] at ih
        obtain rfl | hpart := List.mem_cons.mp hpart
        · obtain rfl | h := List.mem_cons.mp h
          · exact List.mem_cons_self
          · exact List.mem_cons_of_mem d (ih List.mem_cons_self h)
        · exact List.mem_cons_of_mem d (ih (List.mem_cons_of_mem first hpart) h)

theorem dropWhile_append_of_neg {p : Char → Bool} {text : List Char} (hne : text ≠ [])
    (h : ∀ c ∈ text, p c = false) (behind : List Char) :
    (text ++ behind).dropWhile p = text ++ behind := by
  cases text with
  | nil => exact absurd rfl hne
  | cons c text =>
    rw [List.cons_append, List.dropWhile_cons_of_neg (by simp [h c List.mem_cons_self])]

/-- What is trimmed off around a text of other characters is not part of it. -/
theorem trimWhere_append {p : Char → Bool} {before text behind : List Char} (hne : text ≠ [])
    (hbefore : ∀ c ∈ before, p c = true) (hbehind : ∀ c ∈ behind, p c = true)
    (h : ∀ c ∈ text, p c = false) : trimWhere p (before ++ text ++ behind) = text := by
  have hfront : (before ++ text ++ behind).dropWhile p = text ++ behind := by
    rw [List.append_assoc, List.dropWhile_append_of_pos hbefore, dropWhile_append_of_neg hne h]
  have hback : (behind.reverse ++ text.reverse).dropWhile p = text.reverse := by
    rw [List.dropWhile_append_of_pos fun c hc => hbehind c (List.mem_reverse.mp hc)]
    rw [← List.append_nil text.reverse]
    exact dropWhile_append_of_neg (by simpa using hne) (fun c hc => h c (List.mem_reverse.mp hc)) []
  rw [trimWhere, hfront, List.reverse_append, hback, List.reverse_reverse]

end ContentClient.Text
