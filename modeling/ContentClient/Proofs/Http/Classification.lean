import ContentClient.Http.Reply
import ContentClient.Proofs.Json.Records

/-!
# How replies are classified

A reply that is not a success becomes an error by its status and, for the status 400, by the error
object in its body. The main statement is `isErrorFor_classify`. It speaks of the text of the body,
through the grammar of records of texts, and not of what a reader makes of it.

An error object names its code in one of two ways, and the first one takes precedence: where it has
a `code`, its `error` does not count. A body is an error object as a whole or not at all, so that
one with a member of another type, or with one that stands twice, has no details.
-/

namespace ContentClient

namespace ErrorDetails

/-- The names of the members, in order. -/
def names : List String := ["code", "error", "message", "error_description", "request_id"]

theorem hasTexts_record : record.HasTexts names := rfl

/-- The details with the values of the members. -/
def ofValues (values : String → Option String) : ErrorDetails where
  code := values "code"
  error := values "error"
  message := values "message"
  description := values "error_description"
  requestId := values "request_id"

/-- A body is an error object with details: a record of texts with the names of the members. -/
def AreIn (d : ErrorDetails) (body : String) : Prop :=
  ∃ values, Json.RecordText names body.toList values ∧ d = ofValues values

variable {d : ErrorDetails} {body : String}

theorem ofBody_of_decodeText {members : Json.Members} (h : record.decodeText body = .ok members)
    {values : String → Option String} (hvalues : ∀ name ∈ names, members.text? name = values name) :
    ofBody body = ofValues values := by
  have hbody : ofBody body = ofValues members.text? := by
    unfold ofBody
    rw [h]
    rfl
  rw [hbody, ofValues, ofValues, hvalues "code" (by decide), hvalues "error" (by decide),
    hvalues "message" (by decide), hvalues "error_description" (by decide),
    hvalues "request_id" (by decide)]

/-- The details in a body that is an error object are the ones read from it. -/
theorem AreIn.ofBody_eq (h : d.AreIn body) : ofBody body = d := by
  obtain ⟨values, htext, rfl⟩ := h
  obtain ⟨members, hdecode, hvalues⟩ := htext.decodeText hasTexts_record
  exact ofBody_of_decodeText hdecode hvalues

/-- A body is an error object with the details that are read from it, or it is none and no details
are read. -/
theorem ofBody_cases (body : String) :
    (ofBody body).AreIn body ∨ (∀ d : ErrorDetails, ¬d.AreIn body) ∧ ofBody body = {} := by
  cases hdecode : record.decodeText body with
  | ok members =>
    obtain ⟨values, htext, hvalues⟩ := Json.RecordText.of_decodeText hasTexts_record hdecode
    exact .inl ⟨values, htext, ofBody_of_decodeText hdecode hvalues⟩
  | error e =>
    refine .inr ⟨?_, ?_⟩
    · rintro d ⟨values, htext, -⟩
      obtain ⟨members, hok, -⟩ := htext.decodeText hasTexts_record
      rw [hdecode] at hok
      cases hok
    · unfold ofBody
      rw [hdecode]

theorem code?_eq_some_iff {code : String} :
    d.code? = some code ↔ d.code = some code ∨ d.code = none ∧ d.error = some code := by
  rw [code?]
  cases d.code with
  | none => simp
  | some c => simp

/-- The code that is read from a body is the one of the error object that the body is. -/
theorem code?_ofBody_eq_some_iff {code : String} :
    (ofBody body).code? = some code ↔
      ∃ d : ErrorDetails, d.AreIn body ∧
        (d.code = some code ∨ d.code = none ∧ d.error = some code) := by
  constructor
  · intro h
    rcases ofBody_cases body with hin | ⟨-, hnone⟩
    · exact ⟨_, hin, code?_eq_some_iff.mp h⟩
    · rw [hnone] at h
      cases h
  · rintro ⟨d, hin, hcode⟩
    rw [hin.ofBody_eq]
    exact code?_eq_some_iff.mpr hcode

end ErrorDetails

/-- The ways in which a status that is not a success and the text of a body are **classified**. -/
inductive Classified (status : Nat) (body : String) : ApiError → Prop
  | rateLimited (limits : status = 429) : Classified status body (.rateLimited body 1)
  | server (fails : 500 ≤ status ∧ status ≤ 599) : Classified status body (.server status body 1)
  | transientAuth (passes : status = 400 ∧ (ErrorDetails.ofBody body).code? = some invalidGrant) :
    Classified status body (.transientAuth body 1)
  | api (unlimited : status ≠ 429) (healthy : ¬(500 ≤ status ∧ status ≤ 599))
    (lasts : ¬(status = 400 ∧ (ErrorDetails.ofBody body).code? = some invalidGrant)) :
    Classified status body (.api status 1 body (ErrorDetails.ofBody body).code?
      (ErrorDetails.ofBody body).message? (ErrorDetails.ofBody body).requestId)

theorem classified_classify (status : Nat) (body : String) :
    Classified status body (classify status body) := by
  unfold classify
  split
  · rename_i hlimits
    exact .rateLimited hlimits
  · rename_i hunlimited
    split
    · rename_i hfails
      exact .server hfails
    · rename_i hhealthy
      dsimp only
      split
      · rename_i hpasses
        exact .transientAuth hpasses
      · rename_i hlasts
        exact .api hunlimited hhealthy hlasts

/-- An error **is the one for** a status that is not a success and the text of a body. -/
structure IsErrorFor (status : Nat) (body : String) (e : ApiError) : Prop where
  /-- It has the status. -/
  hasStatus : e.status = some status
  /-- It is worth another attempt for the status 429, for a failure of the server, and for the
  status 400 if the body is an error object whose code, or else whose error, is an invalid grant. -/
  retryable : e.isRetryable = true ↔
    status = 429 ∨ (500 ≤ status ∧ status ≤ 599) ∨
      status = 400 ∧ ∃ d : ErrorDetails, d.AreIn body ∧
        (d.code = some "invalid_grant" ∨ d.code = none ∧ d.error = some "invalid_grant")
  /-- Otherwise it has the body as it is, and the details if the body is an error object. -/
  terminal : e.isRetryable = false → ∃ d : ErrorDetails,
    (d.AreIn body ∨ (∀ d' : ErrorDetails, ¬d'.AreIn body) ∧ d = {}) ∧
      e = .api status 1 body d.code? d.message? d.requestId

/-- Whichever way an error was chosen, it is the one for the status and the body. -/
theorem Classified.isErrorFor {status : Nat} {body : String} {e : ApiError}
    (h : Classified status body e) : IsErrorFor status body e := by
  cases h with
  | rateLimited limits =>
    exact ⟨limits ▸ rfl, ⟨fun _ => .inl limits, fun _ => rfl⟩, nofun⟩
  | server fails => exact ⟨rfl, ⟨fun _ => .inr (.inl fails), fun _ => rfl⟩, nofun⟩
  | transientAuth passes =>
    have hgrant := ErrorDetails.code?_ofBody_eq_some_iff.mp passes.2
    exact ⟨passes.1 ▸ rfl, ⟨fun _ => .inr (.inr ⟨passes.1, hgrant⟩), fun _ => rfl⟩, nofun⟩
  | api unlimited healthy lasts =>
    refine ⟨rfl, ⟨nofun, ?_⟩, fun _ => ⟨_, ErrorDetails.ofBody_cases body, rfl⟩⟩
    rintro (hlimits | hfails | ⟨hbad, hgrant⟩)
    · exact absurd hlimits unlimited
    · exact absurd hfails healthy
    · exact absurd ⟨hbad, ErrorDetails.code?_ofBody_eq_some_iff.mpr hgrant⟩ lasts

/-- **Classification.** Every status and every body is classified by these rules. -/
theorem isErrorFor_classify (status : Nat) (body : String) :
    IsErrorFor status body (classify status body) :=
  (classified_classify status body).isErrorFor

/-- An error object whose error is an invalid grant, behind a code of its own. -/
def maskedGrant : String := "\x7b\"code\":\"token_expired\",\"error\":\"invalid_grant\"\x7d"

/-- An invalid grant is not worth another attempt if the object has another code as well. -/
theorem isRetryable_maskedGrant :
    ((Json.parse maskedGrant).toOption.bind (·.get? "error")).bind (·.text?) =
        some "invalid_grant" ∧
      (classify 400 maskedGrant).isRetryable = false := by
  exact ⟨by decide +kernel, by decide +kernel⟩

-- a member of another type hides the grant, and a list of one string shows one
example :
    (classify 400 "\x7b\"error\":\"invalid_grant\",\"message\":5\x7d").isRetryable = false ∧
      (classify 400 "[\"invalid_grant\"]").isRetryable = true := by
  decide +kernel

end ContentClient
