import ContentClient.Client.Basic

/-!
# Building a client

A client is built from an authorization value and options. Its two base URLs are read, and the two
reserved names are taken out of the default header fields. A client whose defaults identify the
client is not built (`build_of_info`), every other one is if its bases can be read (`exists_build`),
and what it then keeps of its options is `BuiltFrom`.
-/

namespace ContentClient.Client

variable {a : String} {o : ClientOptions} {clock : Clock}

theorem exists_fault_of_readBase {option raw : String} {e : ApiError}
    (h : readBase option raw = .error e) : ∃ fault, e = .configuration fault := by
  unfold readBase at h
  dsimp only at h
  split at h
  · exact ⟨_, (Except.error.inj h).symm⟩
  · split at h
    · exact ⟨_, (Except.error.inj h).symm⟩
    · cases h

theorem foldDefaultHeaders_of_info
    (h : ∃ field ∈ o.defaultHeaders, sameHeader field.1 clientInfoHeader = true) :
    o.foldDefaultHeaders = .error (.configuration .reservedDefaultHeader) := by
  rw [ClientOptions.foldDefaultHeaders, if_pos (List.any_eq_true.mpr h)]

theorem foldDefaultHeaders_of_not_info
    (h : ∀ field ∈ o.defaultHeaders, sameHeader field.1 clientInfoHeader = false) :
    o.foldDefaultHeaders = .ok { o with
      defaultHeaders := o.defaultHeaders.erase asUserHeader
      asUser := o.asUser <|> (o.defaultHeaders.values asUserHeader).getLast? } := by
  rw [ClientOptions.foldDefaultHeaders, if_neg]
  rw [Bool.not_eq_true, List.any_eq_false]
  exact fun field hfield => by rw [h field hfield]; exact Bool.false_ne_true

/-- What building a client comes to: its bases are read, and then its defaults. -/
theorem build_eq (a : String) (o : ClientOptions) (clock : Clock) :
    build a o clock =
      (readBase "base_url" o.baseUrl).bind fun baseUrl =>
        (readBase "base_upload_url" o.baseUploadUrl).bind fun baseUploadUrl =>
          o.foldDefaultHeaders.map fun options =>
            { authorization := a, options, clock, baseUrl, baseUploadUrl } := rfl

/-- A client whose defaults identify the client is not built. That is the fault if there is no other
one. -/
theorem build_of_info (a : String) (clock : Clock)
    (h : ∃ field ∈ o.defaultHeaders, sameHeader field.1 clientInfoHeader = true) :
    ∃ fault, build a o clock = .error (.configuration fault) ∧
      ((readBase "base_url" o.baseUrl).isOk = true →
        (readBase "base_upload_url" o.baseUploadUrl).isOk = true →
          fault = .reservedDefaultHeader) := by
  rw [build_eq, foldDefaultHeaders_of_info h]
  cases hbase : readBase "base_url" o.baseUrl with
  | error e =>
    obtain ⟨fault, rfl⟩ := exists_fault_of_readBase hbase
    exact ⟨fault, rfl, fun hok => absurd hok (by simp [Except.isOk, Except.toBool])⟩
  | ok baseUrl =>
    cases hupload : readBase "base_upload_url" o.baseUploadUrl with
    | error e =>
      obtain ⟨fault, rfl⟩ := exists_fault_of_readBase hupload
      exact ⟨fault, rfl, fun _ hok => absurd hok (by simp [Except.isOk, Except.toBool])⟩
    | ok baseUploadUrl => exact ⟨_, rfl, fun _ _ => rfl⟩

/-- Every other one is, if its bases can be read. -/
theorem exists_build (a : String) (clock : Clock)
    (h : ∀ field ∈ o.defaultHeaders, sameHeader field.1 clientInfoHeader = false)
    (hbase : (readBase "base_url" o.baseUrl).isOk = true)
    (hupload : (readBase "base_upload_url" o.baseUploadUrl).isOk = true) :
    ∃ c, build a o clock = .ok c := by
  rw [build_eq, foldDefaultHeaders_of_not_info h]
  cases hread : readBase "base_url" o.baseUrl with
  | error e =>
    rw [hread] at hbase
    cases hbase
  | ok baseUrl =>
    cases hread' : readBase "base_upload_url" o.baseUploadUrl with
    | error e =>
      rw [hread'] at hupload
      cases hupload
    | ok baseUploadUrl => exact ⟨_, rfl⟩

/-- What a client that has been built keeps of its options. -/
structure BuiltFrom (c : Client) (a : String) (o : ClientOptions) : Prop where
  authorization : c.authorization = a
  defaultHeaders : c.options.defaultHeaders = o.defaultHeaders.erase asUserHeader
  asUser : c.options.asUser = (o.asUser <|> (o.defaultHeaders.values asUserHeader).getLast?)
  info : o.defaultHeaders.values clientInfoHeader = []

variable {c : Client}

theorem builtFrom_of_build (h : build a o clock = .ok c) : c.BuiltFrom a o := by
  have hnot : ∀ field ∈ o.defaultHeaders, sameHeader field.1 clientInfoHeader = false := by
    intro field hfield
    cases hinfo : sameHeader field.1 clientInfoHeader with
    | false => rfl
    | true =>
      obtain ⟨fault, hfault, -⟩ := build_of_info a clock ⟨field, hfield, hinfo⟩
      rw [hfault] at h
      cases h
  rw [build_eq, foldDefaultHeaders_of_not_info hnot] at h
  cases hbase : readBase "base_url" o.baseUrl with
  | error e =>
    rw [hbase] at h
    cases h
  | ok baseUrl =>
    cases hupload : readBase "base_upload_url" o.baseUploadUrl with
    | error e =>
      rw [hbase, hupload] at h
      cases h
    | ok baseUploadUrl =>
      rw [hbase, hupload] at h
      obtain rfl := Except.ok.inj h
      refine ⟨rfl, rfl, rfl, ?_⟩
      rw [Headers.values, List.map_eq_nil_iff, List.filter_eq_nil_iff]
      exact fun field hfield => by rw [hnot field hfield]; exact Bool.false_ne_true

end ContentClient.Client
