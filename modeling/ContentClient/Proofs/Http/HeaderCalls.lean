import ContentClient.Http.Request
import Mathlib.Data.List.Basic

/-!
# How a request comes to its header fields

Four calls set header fields of a request: two add one by name, and setting a JSON or a multipart
body sets the fields that describe the body. A call sets its fields at the end, and it may replace
the fields of a name that are there: the user is named at most once, and a body replaces what
described another one. So the fields of a request are those that its calls have set, in the order
of the calls, without those that a later call has replaced. This is `Request.headers_of_afterCalls`.

A call that is refused leaves the request as it was. One that takes the request over gives it back
only if it succeeds.
-/

namespace ContentClient

theorem sameHeader_congr {a b : String} (h : sameHeader a b = true) (c : String) :
    sameHeader a c = sameHeader b c := by
  have hlower : Text.lower a.toList = Text.lower b.toList := eq_of_beq h
  rw [sameHeader, sameHeader, hlower]

/-- The last of what a row brings is that of the row behind its first element, if there is one. -/
theorem getLast?_filterMap_cons {α β : Type} (f : α → Option β) (a : α) (l : List α) :
    ((a :: l).filterMap f).getLast? = ((l.filterMap f).getLast? <|> f a) := by
  rw [List.filterMap_cons]
  cases f a with
  | none => cases (l.filterMap f).getLast? <;> rfl
  | some b =>
    dsimp only
    rw [List.getLast?_cons]
    cases (l.filterMap f).getLast? <;> rfl

/-- Whether a field can be sent: its name and its value are well formed. -/
def IsField (field : String × String) : Prop :=
  isFieldName field.1 = true ∧ isFieldValue field.2 = true

instance (field : String × String) : Decidable (IsField field) :=
  inferInstanceAs (Decidable (_ ∧ _))

namespace Headers

variable (hs more : Headers) {name other : String}

theorem values_append (name : String) :
    (hs ++ more).values name = hs.values name ++ more.values name := by
  simp [values]

theorem erase_append (name : String) : (hs ++ more).erase name = hs.erase name ++ more.erase name :=
  List.filter_append _ _

theorem values_singleton (value : String) :
    values [(other, value)] name = if sameHeader other name then [value] else [] := by
  cases h : sameHeader other name <;> simp [values, h]

theorem erase_singleton (value : String) :
    erase [(other, value)] name = if sameHeader other name then [] else [(other, value)] := by
  cases h : sameHeader other name <;> simp [erase, h]

/-- Taking out fields by their names takes out the values of these names and no others. -/
theorem values_filter (keep : String → Bool)
    (hkeep : ∀ a b, sameHeader a b = true → keep a = keep b) (name : String) :
    values (hs.filter fun field => keep field.1) name =
      if keep name then hs.values name else [] := by
  have h : ∀ field : String × String,
      (sameHeader field.1 name && keep field.1) = (sameHeader field.1 name && keep name) := by
    intro field
    cases hname : sameHeader field.1 name with
    | false => rfl
    | true => rw [hkeep _ _ hname]
  rw [values, List.filter_filter]
  simp only [h]
  cases keep name <;> simp [values]

theorem values_erase_of_not_same (h : sameHeader other name = false) :
    (hs.erase name).values other = hs.values other := by
  rw [erase, values_filter hs (fun a => !sameHeader a name)
    (fun a b hab => congrArg _ (sameHeader_congr hab name)) other, h]
  rfl

/-- There is nothing to take out of fields that do not have the name. -/
theorem erase_eq_self (h : hs.values name = []) : hs.erase name = hs := by
  refine List.filter_eq_self.mpr fun field hfield => ?_
  rw [values, List.map_eq_nil_iff, List.filter_eq_nil_iff] at h
  simpa using h field hfield

theorem first?_eq_head? (name : String) : hs.first? name = (hs.values name).head? := by
  rw [first?, values, List.head?_map, List.head?_filter]

end Headers

/-! ### Calls -/

/-- A call that sets header fields of a request. -/
inductive HeaderCall where
  /-- Adds a field by name. The request may be taken over by the call: it is lost then if the call
  is refused. -/
  | add (name value : String) (takesOver : Bool)
  /-- Sets a JSON body, which may fail to have a JSON form. -/
  | setJson (value : Except String Json)
  | setMultipart (encoder : MultipartEncoder)

namespace HeaderCall

/-- What a call gives: the request with its fields set, or why it is refused. -/
def result : HeaderCall → Request → Except ApiError Request
  | .add name value _, r => r.addHeader name value
  | .setJson value, r => r.setEncoded value
  | .setMultipart encoder, r => .ok (r.setMultipart encoder)

/-- Whether a request is lost if the call is refused. -/
def takesOver : HeaderCall → Bool
  | .add _ _ takesOver => takesOver
  | .setJson _ | .setMultipart _ => false

/-- The fields that a call sets. The identification of the client is refused. -/
def fields : HeaderCall → Headers
  | .add name value _ => if sameHeader name clientInfoHeader then [] else [(name, value)]
  | .setJson (.ok _) => [(contentTypeHeader, jsonContentType)]
  | .setJson (.error _) => []
  | .setMultipart encoder =>
    (contentTypeHeader, Multipart.contentTypeHeader) ::
      encoder.contentSha1.toList.map fun digest => (contentDigestHeader, digest)

/-- Whether a call replaces the fields of a name: a body those that describe it, and a user the one
before. Every other field that is added by name stands beside those that are there. -/
def replaces (call : HeaderCall) (name : String) : Bool :=
  match call with
  | .add added _ _ => sameHeader added asUserHeader && sameHeader name asUserHeader
  | .setJson _ | .setMultipart _ => call.fields.any fun field => sameHeader name field.1

/-- The user that a call names. -/
def user? : HeaderCall → Option String
  | .add name value _ => if sameHeader name asUserHeader then some value else none
  | .setJson _ | .setMultipart _ => none

/-- Whether all names and values in a call are well formed. -/
def IsWellFormed : HeaderCall → Prop
  | .add name value _ => IsField (name, value)
  | .setJson _ => True
  | .setMultipart encoder =>
    ∀ digest, encoder.contentSha1 = some digest → isFieldValue digest = true

theorem replaces_congr (call : HeaderCall) {a b : String} (h : sameHeader a b = true) :
    call.replaces a = call.replaces b := by
  cases call <;> simp only [replaces, sameHeader_congr h]

/-- No call names the client. -/
theorem values_clientInfo_fields (call : HeaderCall) :
    call.fields.values clientInfoHeader = [] := by
  have htype : sameHeader contentTypeHeader clientInfoHeader = false := by decide
  have hdigest : sameHeader contentDigestHeader clientInfoHeader = false := by decide
  cases call with
  | add name value takesOver => cases h : sameHeader name clientInfoHeader <;>
      simp [fields, Headers.values, h]
  | setJson value => cases value <;> simp [fields, Headers.values, htype]
  | setMultipart encoder =>
    cases h : encoder.contentSha1 <;> simp [fields, Headers.values, h, htype, hdigest]

/-- The user among the fields of a call is the one that it names. -/
theorem values_asUser_fields (call : HeaderCall) :
    call.fields.values asUserHeader = call.user?.toList := by
  have htype : sameHeader contentTypeHeader asUserHeader = false := by decide
  have hdigest : sameHeader contentDigestHeader asUserHeader = false := by decide
  cases call with
  | add name value takesOver =>
    cases huser : sameHeader name asUserHeader with
    | true =>
      have hinfo : sameHeader name clientInfoHeader = false := by
        rw [sameHeader_congr huser]
        decide
      simp [fields, user?, Headers.values, huser, hinfo]
    | false => cases h : sameHeader name clientInfoHeader <;>
        simp [fields, user?, Headers.values, huser, h]
  | setJson value => cases value <;> simp [fields, user?, Headers.values, htype]
  | setMultipart encoder =>
    cases h : encoder.contentSha1 <;> simp [fields, user?, Headers.values, h, htype, hdigest]

/-- Naming a user replaces the one that was named before, and nothing else does. -/
theorem replaces_asUser (call : HeaderCall) : call.replaces asUserHeader = call.user?.isSome := by
  have htype : sameHeader asUserHeader contentTypeHeader = false := by decide
  have hdigest : sameHeader asUserHeader contentDigestHeader = false := by decide
  cases call with
  | add name value takesOver =>
    cases h : sameHeader name asUserHeader <;> simp [replaces, user?, h, sameHeader_self]
  | setJson value => cases value <;> simp [replaces, fields, user?, htype]
  | setMultipart encoder =>
    cases h : encoder.contentSha1 <;> simp [replaces, fields, user?, h, htype, hdigest]

theorem IsWellFormed.fields {call : HeaderCall} (h : call.IsWellFormed) :
    ∀ field ∈ call.fields, IsField field := by
  have htype : isFieldName contentTypeHeader = true := by decide
  have hdigest : isFieldName contentDigestHeader = true := by decide
  have hjson : isFieldValue jsonContentType = true := by decide
  have hmultipart : isFieldValue Multipart.contentTypeHeader = true := by decide
  cases call with
  | add name value takesOver =>
    intro field hfield
    rw [HeaderCall.fields] at hfield
    split at hfield
    · cases hfield
    · rwa [List.mem_singleton.mp hfield]
  | setJson value => cases value <;> simp [HeaderCall.fields, IsField, htype, hjson]
  | setMultipart encoder =>
    intro field hfield
    rcases List.mem_cons.mp hfield with rfl | hfield
    · exact ⟨htype, hmultipart⟩
    · obtain ⟨digest, hmem, rfl⟩ := List.mem_map.mp hfield
      exact ⟨hdigest, h digest (Option.mem_toList.mp hmem)⟩

/-! ### Runs of calls -/

/-- Whether none of the calls replaces the fields of a name. -/
def keep (calls : List HeaderCall) (name : String) : Bool :=
  calls.all fun call => !call.replaces name

/-- The fields that a run of calls leaves: those that the calls have set, in order, without those
that a later call has replaced. -/
def standing : List HeaderCall → Headers
  | [] => []
  | call :: calls => (call.fields.filter fun field => keep calls field.1) ++ standing calls

/-- The user that a run of calls names last. -/
def lastUser? (calls : List HeaderCall) : Option String := (calls.filterMap user?).getLast?

theorem keep_congr (calls : List HeaderCall) (a b : String) (h : sameHeader a b = true) :
    keep calls a = keep calls b := by
  simp only [keep, replaces_congr _ h]

theorem values_clientInfo_standing (calls : List HeaderCall) :
    (standing calls).values clientInfoHeader = [] := by
  induction calls with
  | nil => rfl
  | cons call calls ih =>
    rw [standing, Headers.values_append, Headers.values_filter _ _ (keep_congr calls),
      values_clientInfo_fields, ih, ite_self, List.nil_append]

/-- A user that is named later takes the place of one that was named before. -/
theorem lastUser?_cons (call : HeaderCall) (calls : List HeaderCall) :
    lastUser? (call :: calls) = (lastUser? calls <|> call.user?) :=
  getLast?_filterMap_cons user? call calls

theorem keep_asUser (calls : List HeaderCall) :
    keep calls asUserHeader = (lastUser? calls).isNone := by
  induction calls with
  | nil => rfl
  | cons call calls ih =>
    rw [keep, List.all_cons, ← keep, ih, replaces_asUser, lastUser?_cons]
    cases call.user? <;> cases lastUser? calls <;> rfl

/-- Only the user that was named last stands. -/
theorem values_asUser_standing (calls : List HeaderCall) :
    (standing calls).values asUserHeader = (lastUser? calls).toList := by
  induction calls with
  | nil => rfl
  | cons call calls ih =>
    rw [standing, Headers.values_append, Headers.values_filter _ _ (keep_congr calls),
      values_asUser_fields, ih, keep_asUser, lastUser?_cons]
    cases call.user? <;> cases lastUser? calls <;> rfl

theorem isField_standing {calls : List HeaderCall} (h : ∀ call ∈ calls, call.IsWellFormed) :
    ∀ field ∈ standing calls, IsField field := by
  induction calls with
  | nil => simp [standing]
  | cons call calls ih =>
    intro field hfield
    rcases List.mem_append.mp hfield with hfield | hfield
    · exact (h call List.mem_cons_self).fields field (List.mem_filter.mp hfield).1
    · exact ih (fun other hother => h other (List.mem_cons_of_mem _ hother)) field hfield

end HeaderCall

namespace Request

open HeaderCall

variable {r r' : Request}

/-- What is left of a request after a call. -/
def afterCall (r : Request) (call : HeaderCall) : Option Request :=
  match call.result r with
  | .ok r' => some r'
  | .error _ => if call.takesOver then none else some r

/-- What is left of a request after a run of calls. -/
def afterCalls (r : Request) (calls : List HeaderCall) : Option Request :=
  calls.foldlM afterCall r

/-- The identification of the client cannot be added. -/
theorem addHeader_of_info (r : Request) {name : String}
    (h : sameHeader name clientInfoHeader = true) (value : String) :
    r.addHeader name value = .error (.configuration .reservedHeader) := by
  rw [addHeader, if_pos h]

/-- Every other field can. -/
theorem addHeader_of_not_info (r : Request) {name : String}
    (h : sameHeader name clientInfoHeader = false) (value : String) :
    r.addHeader name value = .ok { r with
      headers := (r.headers.filter fun field =>
        !(sameHeader name asUserHeader && sameHeader field.1 asUserHeader)) ++
          [(name, value)] } := by
  rw [addHeader, h]
  cases sameHeader name asUserHeader with
  | true => rfl
  | false => simp [Headers.add, List.filter_true]

theorem headers_setMultipart (r : Request) (encoder : MultipartEncoder) :
    (r.setMultipart encoder).headers =
      (r.headers.filter fun field => !(HeaderCall.setMultipart encoder).replaces field.1) ++
        (HeaderCall.setMultipart encoder).fields := by
  have hother : sameHeader contentTypeHeader contentDigestHeader = false := by decide
  cases h : encoder.contentSha1 with
  | none =>
    simp [HeaderCall.replaces, HeaderCall.fields, Request.setMultipart, Headers.replace,
      Headers.add, Headers.erase, h]
  | some digest =>
    simp [HeaderCall.replaces, HeaderCall.fields, Request.setMultipart, Headers.replace,
      Headers.add, Headers.erase, h, hother, List.filter_filter, Bool.and_comm]

/-- A call takes out the fields that it replaces and sets its own at the end. -/
theorem headers_of_afterCall {call : HeaderCall} (h : r.afterCall call = some r') :
    r'.headers = (r.headers.filter fun field => !call.replaces field.1) ++ call.fields := by
  cases call with
  | add name value takesOver =>
    cases hinfo : sameHeader name clientInfoHeader with
    | true =>
      have hr : r = r' := by
        simp only [afterCall, HeaderCall.result, addHeader_of_info r hinfo] at h
        split at h
        · cases h
        · exact Option.some.inj h
      have huser : sameHeader name asUserHeader = false := by
        rw [sameHeader_congr hinfo]
        decide
      simp [HeaderCall.replaces, HeaderCall.fields, hinfo, huser, hr, List.filter_true]
    | false =>
      simp only [afterCall, HeaderCall.result, addHeader_of_not_info r hinfo] at h
      obtain rfl := Option.some.inj h
      simp only [HeaderCall.replaces, HeaderCall.fields, hinfo, Bool.false_eq_true, if_false]
  | setJson value =>
    cases value with
    | error reason =>
      obtain rfl : r = r' := Option.some.inj h
      exact (List.append_nil _).trans (List.filter_true _) |>.symm
    | ok value =>
      obtain rfl : r.setJson value = r' := Option.some.inj h
      simp [HeaderCall.replaces, HeaderCall.fields, Request.setJson, Headers.replace, Headers.add,
        Headers.erase]
  | setMultipart encoder =>
    obtain rfl : r.setMultipart encoder = r' := Option.some.inj h
    exact headers_setMultipart r encoder

/-- A request is lost in a call that takes it over to identify the client. -/
theorem afterCall_eq_none_iff {call : HeaderCall} :
    r.afterCall call = none ↔
      ∃ name value, call = .add name value true ∧ sameHeader name clientInfoHeader = true := by
  cases call with
  | add name value takesOver =>
    cases hinfo : sameHeader name clientInfoHeader with
    | true =>
      cases takesOver <;>
        simp [afterCall, HeaderCall.result, HeaderCall.takesOver, addHeader_of_info r hinfo, hinfo]
    | false => simp [afterCall, HeaderCall.result, addHeader_of_not_info r hinfo, hinfo]
  | setJson value => cases value <;> simp [afterCall, HeaderCall.result, HeaderCall.takesOver,
      setEncoded]
  | setMultipart encoder => simp [afterCall, HeaderCall.result]

/-- **The fields of a request.** -/
theorem headers_of_afterCalls {calls : List HeaderCall} (h : r.afterCalls calls = some r') :
    r'.headers = (r.headers.filter fun field => keep calls field.1) ++ standing calls := by
  induction calls generalizing r with
  | nil =>
    obtain rfl : r = r' := Option.some.inj h
    exact (List.append_nil _).trans (List.filter_true _) |>.symm
  | cons call calls ih =>
    rw [afterCalls, List.foldlM_cons] at h
    obtain ⟨next, hnext, hrest⟩ := Option.bind_eq_some_iff.mp h
    rw [ih hrest, headers_of_afterCall hnext, List.filter_append, List.filter_filter, standing,
      List.append_assoc]
    simp only [keep, List.all_cons, Bool.and_comm]

/-- No other calls lose a request. -/
theorem afterCalls_eq_none_iff {calls : List HeaderCall} :
    r.afterCalls calls = none ↔
      ∃ name value, .add name value true ∈ calls ∧ sameHeader name clientInfoHeader = true := by
  induction calls generalizing r with
  | nil => simp [afterCalls]
  | cons call calls ih =>
    cases h : r.afterCall call with
    | none =>
      obtain ⟨name, value, rfl, hinfo⟩ := afterCall_eq_none_iff.mp h
      simpa [afterCalls, List.foldlM_cons, h] using ⟨name, ⟨value, .inl ⟨rfl, rfl⟩⟩, hinfo⟩
    | some next =>
      have hcall : ∀ name value, sameHeader name clientInfoHeader = true →
          .add name value true ≠ call := by
        rintro name value hinfo rfl
        rw [afterCall_eq_none_iff.mpr ⟨name, value, rfl, hinfo⟩] at h
        cases h
      rw [afterCalls, List.foldlM_cons, h]
      refine (ih (r := next)).trans (exists_congr fun name => exists_congr fun value =>
        and_congr_left fun hinfo => ?_)
      rw [List.mem_cons, or_iff_right (hcall name value hinfo)]

end Request

end ContentClient
