import ContentClient.Proofs.Text.Ascii
import ContentClient.Proofs.Text.Parts
import ContentClient.Url.Host

/-!
# What hosts are written with

A host that is read is shown in ASCII: a domain name or an IPv4 address without any character that
separates the parts of a URL, and an IPv6 address as hexadecimal groups and colons between brackets
(`isShown_of_parse`). So the host that stands in an authority ends where its text does.
-/

namespace ContentClient

namespace Domain

/-- A character in which a domain name is written. -/
def IsNameChar (c : Char) : Prop := isAscii c = true ∧ isForbidden c = false

instance (c : Char) : Decidable (IsNameChar c) := inferInstanceAs (Decidable (_ ∧ _))

theorem isNameChar_of_isDigit {c : Char} (h : c.isDigit = true) : IsNameChar c := by
  have hascii : c.toNat < 0x80 := Nat.lt_of_le_of_lt (Text.toNat_of_isDigit h).2 (by decide)
  exact Text.forall_ascii (p := fun c => c.isDigit = true → IsNameChar c) hascii (by decide) h

end Domain

/-! ### Domain names -/

namespace Punycode

theorem isNameChar_digit {n : Nat} (h : n < 36) : Domain.IsNameChar (digit n) := by
  have hall : ∀ n < 36, Domain.IsNameChar (digit n) := by decide
  exact hall n h

theorem threshold_le (k bias : Nat) : 1 ≤ threshold k bias ∧ threshold k bias ≤ 26 := by
  rw [threshold]
  omega

/-- The rounds that a difference is given are enough for all of its digits. -/
theorem isNameChar_of_mem_digits {bias rounds k q : Nat} {c : Char} (hq : q ≤ rounds)
    (h : c ∈ digits bias rounds k q) : Domain.IsNameChar c := by
  induction rounds generalizing k q with
  | zero =>
    rw [digits, List.mem_singleton] at h
    rw [h]
    exact isNameChar_digit (by omega)
  | succ rounds ih =>
    obtain ⟨hlow, hhigh⟩ := threshold_le k bias
    rw [digits] at h
    split at h
    · rw [List.mem_singleton.mp h]
      exact isNameChar_digit (by omega)
    · obtain rfl | h := List.mem_cons.mp h
      · have hmod : (q - threshold k bias) % (36 - threshold k bias) < 36 - threshold k bias :=
          Nat.mod_lt _ (by omega)
        exact isNameChar_digit (by omega)
      · have hdiv : (q - threshold k bias) / (36 - threshold k bias) ≤ q - threshold k bias :=
          Nat.div_le_self _ _
        exact ih (by omega) h

/-- Whether all that has been written belongs to names. -/
def Progress.IsPlain (p : Progress) : Prop := ∀ c ∈ p.written, Domain.IsNameChar c

theorem isPlain_pass (basics m : Nat) {p : Progress} (h : p.IsPlain) (c : Char) :
    (pass basics m p c).IsPlain := by
  unfold pass
  split
  · exact h
  · split
    · intro d hd
      obtain hd | hd := List.mem_append.mp hd
      · exact h d hd
      · exact isNameChar_of_mem_digits (Nat.le_refl _) hd
    · exact h

theorem isPlain_foldl_pass (basics m : Nat) (label : List Char) {p : Progress} (h : p.IsPlain) :
    (label.foldl (pass basics m) p).IsPlain := by
  induction label generalizing p with
  | nil => exact h
  | cons c label ih => exact ih (isPlain_pass basics m h c)

theorem isNameChar_of_mem_handle {label : List Char} {basics : Nat} {codes : List Nat} {next : Nat}
    {p : Progress} (hp : p.IsPlain) {c : Char} (h : c ∈ handle label basics codes next p) :
    Domain.IsNameChar c := by
  induction codes generalizing next p with
  | nil => exact hp c h
  | cons m codes ih =>
    rw [handle] at h
    -- counting the codes that are passed over writes nothing
    have hcounted : Progress.IsPlain { p with delta := p.delta + (m - next) * (p.handled + 1) } :=
      hp
    refine ih ?_ h
    exact isPlain_foldl_pass basics m label hcounted

theorem isNameChar_of_mem_encode {label : List Char}
    (hlabel : ∀ c ∈ label, Domain.isForbidden c = false) {c : Char} (h : c ∈ encode label) :
    Domain.IsNameChar c := by
  refine isNameChar_of_mem_handle ?_ h
  intro d hd
  dsimp only at hd
  split at hd
  · cases hd
  · obtain hd | hd := List.mem_append.mp hd
    · obtain ⟨hmem, hascii⟩ := List.mem_filter.mp hd
      exact ⟨hascii, hlabel d hmem⟩
    · rw [List.mem_singleton.mp hd]
      decide

end Punycode

namespace Domain

theorem isNameChar_of_encode? {label encoded : List Char}
    (hlabel : ∀ c ∈ label, isForbidden c = false) (h : encode? label = some encoded) :
    ∀ c ∈ encoded, IsNameChar c := by
  intro c hc
  unfold encode? at h
  split at h
  · rename_i hascii
    obtain rfl := Option.some.inj h
    exact ⟨List.all_eq_true.mp hascii c hc, hlabel c hc⟩
  · split at h
    · cases h
    · obtain rfl := Option.some.inj h
      obtain hc | hc := List.mem_append.mp hc
      · have hmark : ∀ d ∈ mark, IsNameChar d := Text.forall_mem_of_all (by decide)
        exact hmark c hc
      · exact Punycode.isNameChar_of_mem_encode hlabel hc

/-- Labels that are all written in ASCII come one by one from the labels of the name. -/
theorem exists_of_mem_mapM_encode? {labels encoded : List (List Char)}
    (h : labels.mapM encode? = some encoded) {e : List Char} (he : e ∈ encoded) :
    ∃ label ∈ labels, encode? label = some e := by
  induction labels generalizing encoded with
  | nil =>
    obtain rfl := Option.some.inj h
    cases he
  | cons label labels ih =>
    simp only [List.mapM_cons, Option.bind_eq_bind, Option.bind_eq_some_iff] at h
    obtain ⟨first, hfirst, others, hothers, h⟩ := h
    obtain rfl := Option.some.inj h
    obtain rfl | he := List.mem_cons.mp he
    · exact ⟨label, List.mem_cons_self, hfirst⟩
    · obtain ⟨label', hmem, h⟩ := ih hothers he
      exact ⟨label', List.mem_cons_of_mem label hmem, h⟩

/-- A domain name is shown in the characters of names. -/
theorem isNameChar_of_ofText? {name text : String} (h : ofText? name = some text) :
    ∀ c ∈ text.toList, IsNameChar c := by
  unfold ofText? at h
  simp only [Option.bind_eq_bind, Option.bind_eq_some_iff] at h
  obtain ⟨mapped, -, h⟩ := h
  split at h
  · cases h
  · rename_i hforbidden
    simp only [Option.bind_eq_some_iff] at h
    obtain ⟨labels, -, h⟩ := h
    split at h
    · obtain ⟨encoded, hencode, h⟩ := Option.bind_eq_some_iff.mp h
      obtain rfl := Option.some.inj h
      intro c hc
      obtain hc | ⟨part, hpart, hc⟩ := Text.mem_intercalate hc
      · rw [List.mem_singleton.mp hc]
        decide
      · obtain ⟨e, he, rfl⟩ := List.mem_map.mp hpart
        obtain ⟨label, hlabel, hencoded⟩ := exists_of_mem_mapM_encode? hencode he
        rw [String.toList_ofList] at hc
        refine isNameChar_of_encode? (fun d hd => ?_) hencoded c hc
        have hall := List.any_eq_false.mp (Bool.not_eq_true _ ▸ hforbidden)
        exact Bool.not_eq_true _ ▸ hall d (Text.mem_of_mem_splitOnChar hlabel hd)
    · cases h

end Domain

/-! ### Addresses -/

theorem Ipv4.toList_text_ne_nil (address : Nat) : (text address).toList ≠ [] := by
  simp [text, String.intercalate_cons_cons]

theorem Ipv4.isNameChar_text (address : Nat) : ∀ c ∈ (text address).toList, Domain.IsNameChar c := by
  intro c hc
  obtain hc | ⟨part, hpart, hc⟩ := Text.mem_intercalate hc
  · rw [List.mem_singleton.mp hc]
    decide
  · obtain ⟨i, -, rfl⟩ := List.mem_map.mp hpart
    rw [Nat.toString_eq_ofList_toDigits, String.toList_ofList] at hc
    exact Domain.isNameChar_of_isDigit (Nat.isDigit_of_mem_toDigits (by decide) (by decide) hc)

namespace Ipv6

/-- A character in which an IPv6 address is written. -/
def IsGroupChar (c : Char) : Prop := c = ':' ∨ c ∈ "0123456789abcdef".toList

instance (c : Char) : Decidable (IsGroupChar c) := inferInstanceAs (Decidable (_ ∨ _))

theorem isGroupChar_of_mem_toDigits {n : Nat} {c : Char} (h : c ∈ Nat.toDigits 16 n) :
    IsGroupChar c := by
  induction n using Nat.strongRecOn with
  | ind n ih =>
    have hdigit : ∀ d < 16, IsGroupChar (Nat.digitChar d) := by decide
    rw [Nat.toDigits_eq_if (by decide)] at h
    split at h
    · rename_i hlt
      rw [List.mem_singleton.mp h]
      exact hdigit n hlt
    · obtain h | h := List.mem_append.mp h
      · exact ih (n / 16) (by omega) h
      · rw [List.mem_singleton.mp h]
        exact hdigit _ (Nat.mod_lt n (by decide))

theorem isGroupChar_of_mem_groups {groups : List Nat} {c : Char}
    (h : c ∈ (":".intercalate (groups.map Text.hexDigits)).toList) : IsGroupChar c := by
  obtain h | ⟨part, hpart, h⟩ := Text.mem_intercalate h
  · exact .inl (List.mem_singleton.mp h)
  · obtain ⟨group, -, rfl⟩ := List.mem_map.mp hpart
    rw [Text.hexDigits, String.toList_ofList] at h
    exact isGroupChar_of_mem_toDigits h

theorem isGroupChar_text (groups : List Nat) : ∀ c ∈ (text groups).toList, IsGroupChar c := by
  intro c hc
  unfold text at hc
  dsimp only at hc
  split at hc
  · exact isGroupChar_of_mem_groups hc
  · rw [String.toList_append, String.toList_append, List.mem_append, List.mem_append] at hc
    obtain (hc | hc) | hc := hc
    · exact isGroupChar_of_mem_groups hc
    · exact .inl (by simpa using hc)
    · exact isGroupChar_of_mem_groups hc

end Ipv6

/-! ### Hosts -/

namespace Host

/-- How a host is shown: in the characters of names, or as groups between brackets. -/
inductive IsShown : List Char → Prop where
  | name {cs : List Char} (hne : cs ≠ []) (h : ∀ c ∈ cs, Domain.IsNameChar c) : IsShown cs
  | groups {cs : List Char} (h : ∀ c ∈ cs, Ipv6.IsGroupChar c) : IsShown ('[' :: cs ++ [']'])

theorem IsShown.ne_nil {cs : List Char} (h : IsShown cs) : cs ≠ [] := by
  cases h with
  | name hne => exact hne
  | groups => exact List.cons_ne_nil _ _

theorem isShown_of_bracketed {s : List Char} {host : Host} (h : bracketed s = .ok host) :
    IsShown host.text.toList := by
  unfold bracketed at h
  split at h
  · split at h
    · rename_i groups _
      obtain rfl := Except.ok.inj h
      have htext : (ipv6 groups).text.toList = '[' :: (Ipv6.text groups).toList ++ [']'] := by
        simp [text]
      rw [htext]
      exact .groups (Ipv6.isGroupChar_text groups)
    · cases h
  · cases h

theorem isShown_of_ofDomain {name : String} {host : Host}
    (hname : ∀ c ∈ name.toList, Domain.IsNameChar c) (h : ofDomain name = .ok host) :
    IsShown host.text.toList := by
  unfold ofDomain at h
  split at h
  · cases h
  · rename_i hempty
    split at h
    · split at h
      · rename_i address _
        obtain rfl := Except.ok.inj h
        exact .name (Ipv4.toList_text_ne_nil address) (Ipv4.isNameChar_text address)
      · cases h
    · obtain rfl := Except.ok.inj h
      have hne : name.toList ≠ [] := by simpa using hempty
      exact .name hne hname

/-- Every host of the web is shown in one of these ways. -/
theorem isShown_of_parse {s : List Char} {host : Host} (h : parse s = .ok host) :
    IsShown host.text.toList := by
  unfold parse at h
  split at h
  · exact isShown_of_bracketed h
  · split at h
    · cases h
    · rename_i domain hdomain
      obtain ⟨name, -, hdomain⟩ := Option.bind_eq_some_iff.mp hdomain
      exact isShown_of_ofDomain (Domain.isNameChar_of_ofText? hdomain) h

end Host

end ContentClient
