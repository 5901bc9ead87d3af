import ContentClient.Http.Reply
import ContentClient.Proofs.Text.Ascii

/-!
# Requested delays

A server that limits the rate may **ask** for a wait of some seconds, in decimal digits of any
number. It is **heard** if three things come together: the body of its reply arrives, for a reply
that breaks off is none; the value can be shown as it stands, for it is only then freed of the
blanks around it; and the number is a count of 64 bits. Who is heard gets the delay that was asked
for, and all others get none (`Asks.exists_failure`).
-/

namespace ContentClient.Reply

variable {r : Reply} {seconds : Nat}

/-- A reply **asks** for a wait: it limits the rate, and the first value of its `Retry-After` is a
decimal number with nothing but blanks around it. -/
structure Asks (r : Reply) (seconds : Nat) : Prop where
  status : r.status = 429
  writes : ∃ value, r.headers.first? "Retry-After" = some value ∧
    (Text.trim value).toList ≠ [] ∧ (∀ c ∈ (Text.trim value).toList, c.isDigit = true) ∧
    Nat.ofDigitChars 10 (Text.trim value).toList 0 = seconds

/-- A reply that asks for a wait **is heard**. -/
structure IsHeard (r : Reply) (seconds : Nat) : Prop where
  complete : r.complete = true
  showable : ∀ value, r.headers.first? "Retry-After" = some value → isShowable value = true
  fits : seconds ≤ 0xFFFFFFFFFFFFFFFF

namespace Asks

theorem retryAfter?_of_isHeard (h : r.Asks seconds) (hheard : r.IsHeard seconds) :
    r.retryAfter? = some (.ofSecs seconds) := by
  obtain ⟨value, hfirst, hne, hdigits, rfl⟩ := h.writes
  have hshow : r.headers.showable? "Retry-After" = some value := by
    rw [Headers.showable?, hfirst, Option.filter_some, if_pos (hheard.showable value hfirst)]
  have hword := Text.word?_of_isDigit hne hdigits
  rw [if_pos hheard.fits] at hword
  rw [retryAfter?, if_pos h.status, hshow, Option.bind_some, hword, Option.map_some]

/-- A value that cannot be shown, or is no count of 64 bits, is as good as none. -/
theorem retryAfter?_of_not_isHeard (h : r.Asks seconds) (hcomplete : r.complete = true)
    (hheard : ¬r.IsHeard seconds) : r.retryAfter? = none := by
  obtain ⟨value, hfirst, hne, hdigits, rfl⟩ := h.writes
  rw [retryAfter?, if_pos h.status, Headers.showable?, hfirst, Option.filter_some]
  by_cases hshow : isShowable value = true
  · have hshowable : ∀ other, r.headers.first? "Retry-After" = some other →
        isShowable other = true := by
      intro other hother
      rwa [Option.some.inj (hother.symm.trans hfirst)]
    have hlarge : ¬Nat.ofDigitChars 10 (Text.trim value).toList 0 ≤ 0xFFFFFFFFFFFFFFFF :=
      fun hfits => hheard ⟨hcomplete, hshowable, hfits⟩
    rw [if_pos hshow, Option.bind_some, Text.word?_of_isDigit hne hdigits, if_neg hlarge,
      Option.map_none]
  · rw [if_neg hshow, Option.bind_none, Option.map_none]

/-- What an attempt with such a reply comes to: a failure that may be mended, with the delay that
was asked for if the server is heard and with none if it is not. -/
theorem exists_failure (h : r.Asks seconds) (method : String) :
    ∃ failure, r.outcome method = .error failure ∧ failure.error.isRetryable = true ∧
      (r.IsHeard seconds → failure.retryAfter = some (.ofSecs seconds)) ∧
      (¬r.IsHeard seconds → failure.retryAfter = none) := by
  have hsuccess : r.isSuccess = false := by rw [isSuccess, h.status]; decide
  cases hcomplete : r.complete with
  | false =>
    have htext : r.text? = none := by
      rw [text?, hcomplete]
      exact if_neg Bool.false_ne_true
    refine ⟨{ error := .network 1 }, ?_, rfl, fun hheard => ?_, fun _ => rfl⟩
    · simp [outcome, hsuccess, htext]
    · exact absurd (hcomplete.symm.trans hheard.complete) Bool.false_ne_true
  | true =>
    have htext : r.text? = some (Text.decodeLossy r.content) := if_pos hcomplete
    refine ⟨{ error := classify r.status (Text.decodeLossy r.content),
              retryAfter := r.retryAfter? }, ?_, ?_, h.retryAfter?_of_isHeard,
      h.retryAfter?_of_not_isHeard hcomplete⟩
    · simp [outcome, hsuccess, htext]
    · rw [classify, if_pos h.status]
      rfl

end Asks

end ContentClient.Reply
