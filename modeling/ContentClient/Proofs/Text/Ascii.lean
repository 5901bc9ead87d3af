import ContentClient.Text.Blank
import ContentClient.Text.Digits

/-!
# Characters of ASCII

Letters and digits are characters of ASCII, and what is to be known of these can be evaluated, since
there are 128 of them (`forall_ascii`).

A run of decimal digits of any length writes a number, `Nat.ofDigitChars 10`, and that is the number
that is read from it (`digitsValue?_of_isDigit`). As a count of 64 bits it is read unless it is
greater than all of these.
-/

namespace ContentClient.Text

variable {c : Char} {cs : List Char}

/-- What holds of all codes below 128 holds of the characters that have them. -/
theorem forall_ascii {p : Char → Prop} (h : c.toNat < 0x80)
    (hall : ∀ n < 0x80, p (Char.ofNat n)) : p c := by
  rw [← Char.ofNat_toNat c]
  exact hall c.toNat h

theorem toNat_lt_of_isAlphanum (h : c.isAlphanum = true) : c.toNat < 0x80 := by
  delta Char.isAlphanum Char.isAlpha Char.isUpper Char.isLower Char.isDigit at h
  simp only [Bool.or_eq_true, Bool.and_eq_true, decide_eq_true_eq, UInt32.le_iff_toNat_le] at h
  show c.val.toNat < 0x80
  rcases h with (⟨-, hle⟩ | ⟨-, hle⟩) | ⟨-, hle⟩ <;> exact Nat.lt_of_le_of_lt hle (by decide)

/-- What can be evaluated for each of a few characters holds of all of them. -/
theorem forall_mem_of_all {p : Char → Prop} [DecidablePred p]
    (h : cs.all (fun c => decide (p c)) = true) : ∀ c ∈ cs, p c :=
  fun c hc => of_decide_eq_true (List.all_eq_true.mp h c hc)

/-! ### Visible characters -/

/-- A character of ASCII that leaves a mark. -/
def IsVisible (c : Char) : Prop := 0x20 < c.toNat ∧ c.toNat < 0x7F

instance (c : Char) : Decidable (IsVisible c) := inferInstanceAs (Decidable (_ ∧ _))

theorem isBlank_of_isVisible (h : IsVisible c) : isBlank c = false :=
  forall_ascii (p := fun c => IsVisible c → isBlank c = false) (Nat.lt_succ_of_lt h.2) (by decide) h

/-! ### Digits -/

theorem toNat_of_isDigit (h : c.isDigit = true) : 0x30 ≤ c.toNat ∧ c.toNat ≤ 0x39 := by
  rw [Char.isDigit, Bool.and_eq_true, decide_eq_true_eq, decide_eq_true_eq] at h
  exact h

theorem digitValue?_of_isDigit (h : c.isDigit = true) :
    digitValue? 10 c = some (c.toNat - '0'.toNat) := by
  have hbounds := toNat_of_isDigit h
  have hlt : c.toNat - 0x30 < 10 := by omega
  rw [digitValue?]
  rw [if_pos hbounds, Option.filter_some, if_pos (decide_eq_true hlt)]
  rfl

/-- Digits are read as the number that they write, on top of the digits before them. -/
theorem digitsValue?_of_isDigit (h : ∀ c ∈ cs, c.isDigit = true) (before : Nat) :
    digitsValue? 10 before cs = some (Nat.ofDigitChars 10 cs before) := by
  induction cs generalizing before with
  | nil => rfl
  | cons c cs ih =>
    have hc := digitValue?_of_isDigit (h c List.mem_cons_self)
    rw [digitsValue?, hc, Nat.ofDigitChars_cons, Nat.mul_comm 10 before]
    exact ih (fun d hd => h d (List.mem_cons_of_mem c hd)) _

/-- Digits are a count of 64 bits unless they write a greater number. -/
theorem word?_of_isDigit (hne : cs ≠ []) (h : ∀ c ∈ cs, c.isDigit = true) :
    word? cs =
      if Nat.ofDigitChars 10 cs 0 ≤ 0xFFFFFFFFFFFFFFFF then some (Nat.ofDigitChars 10 cs 0)
      else none := by
  cases cs with
  | nil => exact absurd rfl hne
  | cons c cs =>
    have hsign : c ≠ '+' := by
      rintro rfl
      exact absurd (h '+' List.mem_cons_self) (by decide)
    have hvalue := digitsValue?_of_isDigit h 0
    unfold word?
    split
    · rename_i heq
      exact absurd (List.cons.inj heq).1 hsign
    · simp [hvalue, Option.filter_some]

end ContentClient.Text
