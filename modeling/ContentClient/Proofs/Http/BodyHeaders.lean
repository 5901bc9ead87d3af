import ContentClient.Proofs.Http.HeaderCalls

/-!
# Header fields that describe a body

Setting a JSON or a multipart body sets the fields that describe it: the type, and the digest of a
file that comes with one. The type is set by every such call, so it is always that of the body at
hand. The digest is set only by a call that has one, and nothing takes it away: it is the last that
any call has set, whatever the body is now. So the digest describes the body exactly if the body has
one of its own or no call before it had (`Request.described_of_bodyCalls`); an upload that is
replaced by a JSON body leaves its digest behind (`Request.values_digest_replacedUpload`).
-/

namespace ContentClient

/-- A call that sets the body of a request. -/
inductive BodyCall where
  /-- Sets a JSON body, which may fail to have a JSON form. -/
  | json (value : Except String Json)
  | multipart (encoder : MultipartEncoder)

/-- The digest of the file in a body. -/
def Body.digest? : Body → Option String
  | .multipart encoder => encoder.contentSha1
  | _ => none

namespace BodyCall

/-- The call among those that set header fields. -/
def toHeaderCall : BodyCall → HeaderCall
  | .json value => .setJson value
  | .multipart encoder => .setMultipart encoder

/-- The body that a call sets, with its type; none if the call is refused. -/
def sets? : BodyCall → Option (Body × String)
  | .json (.ok value) => some (.bytes (Text.utf8 value.render), jsonContentType)
  | .json (.error _) => none
  | .multipart encoder => some (.multipart encoder, Multipart.contentTypeHeader)

/-- The digest that comes with a call. -/
def digest? : BodyCall → Option String
  | .json _ => none
  | .multipart encoder => encoder.contentSha1

/-- The body that a run of calls sets last, with its type. -/
def last? (calls : List BodyCall) : Option (Body × String) := (calls.filterMap sets?).getLast?

/-- The last digest that has come with a call. -/
def lastDigest? (calls : List BodyCall) : Option String := (calls.filterMap digest?).getLast?

/-- The fields for a type and a digest. -/
def describing (type digest : Option String) : Headers :=
  (type.toList.map fun value => (contentTypeHeader, value)) ++
    digest.toList.map fun value => (contentDigestHeader, value)

variable (call : BodyCall) (calls : List BodyCall)

theorem last?_cons : last? (call :: calls) = (last? calls <|> call.sets?) :=
  getLast?_filterMap_cons sets? call calls

theorem lastDigest?_cons : lastDigest? (call :: calls) = (lastDigest? calls <|> call.digest?) :=
  getLast?_filterMap_cons digest? call calls

theorem lastDigest?_eq_none_iff :
    lastDigest? calls = none ↔ ∀ call ∈ calls, call.digest? = none := by
  rw [lastDigest?, List.getLast?_eq_none_iff, List.filterMap_eq_nil_iff]

/-- A call sets the type of its body, and the digest that comes with it. -/
theorem fields_toHeaderCall :
    call.toHeaderCall.fields = describing (call.sets?.map Prod.snd) call.digest? := by
  cases call with
  | json value => cases value <;> rfl
  | multipart encoder => rfl

/-- A type is replaced by that of every other body, -/
theorem replaces_contentType :
    call.toHeaderCall.replaces contentTypeHeader = call.sets?.isSome := by
  cases call with
  | json value => cases value <;> rfl
  | multipart encoder => rfl

/-- and a digest by another digest only. -/
theorem replaces_contentDigest :
    call.toHeaderCall.replaces contentDigestHeader = call.digest?.isSome := by
  have hother : sameHeader contentDigestHeader contentTypeHeader = false := by decide
  cases call with
  | json value => cases value <;>
      simp [toHeaderCall, digest?, HeaderCall.replaces, HeaderCall.fields, hother]
  | multipart encoder =>
    cases h : encoder.contentSha1 <;>
      simp [toHeaderCall, digest?, HeaderCall.replaces, HeaderCall.fields, h, hother,
        sameHeader_self]

theorem keep_contentType :
    HeaderCall.keep (calls.map toHeaderCall) contentTypeHeader = (last? calls).isNone := by
  induction calls with
  | nil => rfl
  | cons call calls ih =>
    rw [List.map_cons, HeaderCall.keep, List.all_cons, ← HeaderCall.keep, ih,
      replaces_contentType, last?_cons]
    cases call.sets? <;> cases last? calls <;> rfl

theorem keep_contentDigest :
    HeaderCall.keep (calls.map toHeaderCall) contentDigestHeader = (lastDigest? calls).isNone := by
  induction calls with
  | nil => rfl
  | cons call calls ih =>
    rw [List.map_cons, HeaderCall.keep, List.all_cons, ← HeaderCall.keep, ih,
      replaces_contentDigest, lastDigest?_cons]
    cases call.digest? <;> cases lastDigest? calls <;> rfl

/-- What later calls leave of the fields for a type and a digest. -/
theorem filter_describing (type digest : Option String) :
    ((describing type digest).filter fun field =>
        HeaderCall.keep (calls.map toHeaderCall) field.1) =
      describing (if (last? calls).isNone then type else none)
        (if (lastDigest? calls).isNone then digest else none) := by
  rw [describing, List.filter_append, describing]
  congr 1
  · cases type <;> cases h : (last? calls).isNone <;> simp [keep_contentType, h]
  · cases digest <;> cases h : (lastDigest? calls).isNone <;> simp [keep_contentDigest, h]

/-- **The fields that stand** behind a run of calls: the type of the last body, and the last digest
of any body. -/
theorem standing_perm :
    (HeaderCall.standing (calls.map toHeaderCall)).Perm
      (describing ((last? calls).map Prod.snd) (lastDigest? calls)) := by
  induction calls with
  | nil => exact .refl _
  | cons call calls ih =>
    rw [List.map_cons, HeaderCall.standing, fields_toHeaderCall, filter_describing, last?_cons,
      lastDigest?_cons]
    refine (List.Perm.append_left _ ih).trans ?_
    -- of each field, either the call's own or the one behind it is there
    cases last? calls <;> cases lastDigest? calls <;> cases call.sets? <;> simp [describing]

/-- Each of the two fields is there once at most. -/
theorem values_of_perm_describing {hs : Headers} {type digest : Option String}
    (h : hs.Perm (describing type digest)) :
    hs.values contentTypeHeader = type.toList ∧ hs.values contentDigestHeader = digest.toList := by
  have hother : sameHeader contentDigestHeader contentTypeHeader = false := by decide
  have hother' : sameHeader contentTypeHeader contentDigestHeader = false := by decide
  have hvalues : ∀ name, (hs.values name).Perm ((describing type digest).values name) :=
    fun name => (h.filter _).map _
  have hunique : ∀ (values : List String) (value : Option String),
      values.Perm value.toList → values = value.toList := by
    intro values value hperm
    cases value with
    | none => exact hperm.eq_nil
    | some value => exact List.perm_singleton.mp hperm
  constructor
  · refine hunique _ _ ((hvalues _).trans (.of_eq ?_))
    cases type <;> cases digest <;> simp [describing, Headers.values, hother, sameHeader_self]
  · refine hunique _ _ ((hvalues _).trans (.of_eq ?_))
    cases type <;> cases digest <;> simp [describing, Headers.values, hother', sameHeader_self]

/-- A body has the digest that comes with its call, -/
theorem digest?_of_sets? {call : BodyCall} {body : Body} {type : String}
    (h : call.sets? = some (body, type)) : call.digest? = body.digest? := by
  cases call with
  | json value =>
    cases value with
    | error reason => cases h
    | ok value =>
      cases h
      rfl
  | multipart encoder =>
    cases h
    rfl

/-- and no digest comes without a body. -/
theorem digest?_of_sets?_eq_none {call : BodyCall} (h : call.sets? = none) :
    call.digest? = none := by
  cases call with
  | json value => rfl
  | multipart encoder => cases h

/-- If the last body has a digest, that is the last digest. -/
theorem lastDigest?_of_last? {body : Body} {type : String} (h : last? calls = some (body, type))
    (hdigest : body.digest?.isSome = true) : lastDigest? calls = body.digest? := by
  induction calls with
  | nil => cases h
  | cons call calls ih =>
    rw [last?_cons] at h
    rw [lastDigest?_cons]
    cases hlast : last? calls with
    | some last =>
      rw [hlast] at h
      rw [ih (hlast.trans h)]
      obtain ⟨digest, hdigest⟩ := Option.isSome_iff_exists.mp hdigest
      rw [hdigest]
      rfl
    | none =>
      rw [hlast] at h
      have hnone : lastDigest? calls = none := by
        refine (lastDigest?_eq_none_iff calls).mpr fun other hother => ?_
        rw [last?, List.getLast?_eq_none_iff, List.filterMap_eq_nil_iff] at hlast
        exact digest?_of_sets?_eq_none (hlast other hother)
      rw [hnone]
      exact digest?_of_sets? h

end BodyCall

namespace Request

open BodyCall

/-- A request is **described** as a run of calls that set its body leaves it. -/
structure DescribedBy (r : Request) (calls : List BodyCall) : Prop where
  /-- The body is the last that a call has set. -/
  body : r.body = ((last? calls).map Prod.fst).getD .empty
  /-- The fields are one for the type of that body and one for the last digest of any. -/
  headers : r.headers.Perm (describing ((last? calls).map Prod.snd) (lastDigest? calls))
  /-- The type is always that of the body at hand. -/
  type : r.headers.values contentTypeHeader = ((last? calls).map Prod.snd).toList
  /-- The digest is that of the body at hand exactly if the body has one or no call had. -/
  digest_iff : r.headers.values contentDigestHeader = r.body.digest?.toList ↔
    r.body.digest?.isSome = true ∨ ∀ call ∈ calls, call.digest? = none
  /-- A value without a JSON form is refused, which changes nothing. -/
  refused : ∀ reason,
    (HeaderCall.setJson (.error reason)).result r =
        .error (.configuration (.unencodableJson reason)) ∧
      r.afterCall (.setJson (.error reason)) = some r

variable (r : Request)

/-- No call that sets a body loses a request, and none changes more than the fields and the body. -/
theorem exists_afterCall (call : BodyCall) :
    ∃ r', r.afterCall call.toHeaderCall = some r' ∧
      r' = { r with headers := r'.headers, body := (call.sets?.map Prod.fst).getD r.body } := by
  cases call with
  | json value => cases value <;> exact ⟨_, rfl, rfl⟩
  | multipart encoder => exact ⟨_, rfl, rfl⟩

theorem exists_afterCalls (calls : List BodyCall) :
    ∃ r', r.afterCalls (calls.map toHeaderCall) = some r' ∧
      r' = { r with
        headers := r'.headers, body := ((last? calls).map Prod.fst).getD r.body } := by
  induction calls generalizing r with
  | nil => exact ⟨r, rfl, rfl⟩
  | cons call calls ih =>
    obtain ⟨next, hnext, hnextEq⟩ := r.exists_afterCall call
    obtain ⟨r', hafter, hr'⟩ := ih next
    refine ⟨r', ?_, ?_⟩
    · rw [List.map_cons, afterCalls, List.foldlM_cons, hnext]
      exact hafter
    · rw [hr', hnextEq, last?_cons]
      cases last? calls <;> rfl

/-- **Bodies and their fields.** Behind any run of calls that set the body of a new request, the
type describes the body at hand, and the digest is the last that any of them had. -/
theorem described_of_bodyCalls (method : String) (url : Url) (calls : List BodyCall) :
    ∃ r, Request.afterCalls { method, url } (calls.map toHeaderCall) = some r ∧
      r = { method, url, headers := r.headers, body := r.body } ∧ r.DescribedBy calls := by
  obtain ⟨r, hafter, hr⟩ := Request.exists_afterCalls { method, url } calls
  have hbody : r.body = ((last? calls).map Prod.fst).getD .empty := congrArg Request.body hr
  have hheaders : r.headers.Perm (describing ((last? calls).map Prod.snd) (lastDigest? calls)) := by
    rw [headers_of_afterCalls hafter]
    exact standing_perm calls
  obtain ⟨htype, hdigest⟩ := values_of_perm_describing hheaders
  refine ⟨r, hafter, ?_, hbody, hheaders, htype, ?_, fun reason => ⟨rfl, rfl⟩⟩
  · rw [hbody]
    exact hr
  · rw [hdigest, ← lastDigest?_eq_none_iff]
    cases hown : r.body.digest? with
    | none => cases lastDigest? calls <;> simp
    | some digest =>
      -- a body with a digest has been set by the last call that set one
      cases hlast : last? calls with
      | none =>
        rw [hbody, hlast] at hown
        cases hown
      | some last =>
        have hlastBody : last.1 = r.body := by rw [hbody, hlast]; rfl
        have hsome : last.1.digest?.isSome = true := by rw [hlastBody, hown]; rfl
        rw [lastDigest?_of_last? calls hlast hsome, hlastBody, hown]
        simp

/-! ### An upload that is replaced -/

/-- A file with its digest, and a JSON body behind it. -/
def replacedUpload : List BodyCall :=
  [.multipart
      { file := { partName := "file", filename := "a.txt", source := .callback none }
        contentSha1 := some "86f7e437faa5a7fce15d1ddcb9eaeaea377667b8"
        chunkSize_pos := Multipart.defaultChunkSize_pos },
    .json (.ok (.object [("name", .string "a")]))]

/-- The digest of the file stays with the JSON body, which has none. -/
theorem values_digest_replacedUpload :
    ∃ r, Request.afterCalls { method := "POST", url := { scheme := "http", path := .segments [] } }
        (replacedUpload.map toHeaderCall) = some r ∧
      r.headers = [("Content-MD5", "86f7e437faa5a7fce15d1ddcb9eaeaea377667b8"),
        ("Content-Type", "application/json")] ∧
      r.body.digest? = none ∧
      r.headers.values contentDigestHeader ≠ r.body.digest?.toList :=
  ⟨_, rfl, by decide, rfl, by decide⟩

end Request

end ContentClient
