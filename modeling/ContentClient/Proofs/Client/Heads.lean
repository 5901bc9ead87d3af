import ContentClient.Proofs.Client.Bodies
import ContentClient.Proofs.Client.Building
import ContentClient.Proofs.Http.HeaderCalls
import ContentClient.Proofs.Http.Recording

/-!
# The header fields of every attempt

The options of a client, its defaults and the calls on a request all contribute header fields. A
client whose defaults identify the client is not built. Every other one sends the same fields in
every attempt of a request: the identification of the client once, the user at most once, and all
other fields in order. The main statement is `refuses_and_sendsFields`.

Which fields an attempt hands over is seen over a link that keeps a record (`Link.recorded`). An
attempt either hands over the head of its request or fails before it comes to that, because its body
cannot be prepared or the request cannot be built (`record_attempt`). Such a failure is never
followed by another attempt, and header fields that are well formed are no reason for it
(`Outgoing.fault?_of_isField`).
-/

namespace ContentClient

/-- Whether an error is **local**: found before a request is handed to the link. -/
def ApiError.isLocal : ApiError → Bool
  | .configuration _ | .io _ => true
  | _ => false

theorem ApiError.isRetryable_of_isLocal {e : ApiError} (h : e.isLocal = true) :
    e.isRetryable = false := by
  cases e <;> first | rfl | cases h

/-- A local error counts no attempts. -/
theorem ApiError.withAttempts_of_isLocal (n : Nat) {e : ApiError} (h : e.isLocal = true) :
    e.withAttempts n = e := by
  cases e <;> first | rfl | cases h

/-- A body that cannot be prepared is a local failure. -/
theorem Body.isLocal_of_prepare {b : Body} {e : ApiError} (h : b.prepare.1 = .error e) :
    e.isLocal = true := by
  cases b with
  | empty => cases h
  | bytes content => cases h
  | stream shared => cases h
  | oneShot source =>
    cases source with
    | none =>
      obtain rfl := Except.error.inj h
      rfl
    | some source => cases h
  | multipart encoder =>
    simp only [Body.prepare] at h
    cases hreader : encoder.reader.1 with
    | ok reader =>
      rw [hreader] at h
      cases h
    | error fault =>
      rw [hreader] at h
      obtain rfl := Except.error.inj h
      rfl

/-- Why a head is **held back** from the link: the body cannot be prepared, or the request cannot be
built. -/
def HoldsBack (body : Body) (out : Outgoing) (e : ApiError) : Prop :=
  body.prepare.1 = .error e ∨ ∃ fault, out.fault? = some fault ∧ e = .configuration fault

theorem HoldsBack.isLocal {body : Body} {out : Outgoing} {e : ApiError}
    (h : HoldsBack body out e) : e.isLocal = true := by
  rcases h with hprepare | ⟨fault, -, rfl⟩
  · exact Body.isLocal_of_prepare hprepare
  · rfl

/-- Header fields that are well formed are no reason why a request cannot be built. -/
theorem Outgoing.fault?_of_isField {out : Outgoing} (h : ∀ field ∈ out.headers, IsField field) :
    out.fault? = ({ out with headers := [] } : Outgoing).fault? := by
  have hall : (out.headers.all fun field => isFieldName field.1 && isFieldValue field.2) = true :=
    List.all_eq_true.mpr fun field hfield => Bool.and_eq_true_iff.mpr (h field hfield)
  rw [fault?, fault?, hall, List.all_nil]

section Unrecorded

variable {σ : Type}

/-- A sending without the record of its heads. -/
def Sending.unrecorded (sending : Sending (σ × List Outgoing)) : Sending σ :=
  ⟨sending.request, sending.link.1, sending.reports⟩

/-- A session without the record of its heads. -/
def Session.unrecorded (s : Session (σ × List Outgoing)) : Session σ :=
  ⟨s.clocks, s.link.1, s.reports⟩

end Unrecorded

namespace Client

open Attempting

variable {σ : Type} (link : Link σ) (c : Client)

/-! ### The head of every attempt -/

theorem exists_body_attempt (sending : Sending σ) :
    ∃ body, (c.attempt link sending).2.request = { sending.request with body := body } := by
  unfold attempt
  split
  · exact ⟨_, rfl⟩
  · dsimp only
    split <;> exact ⟨_, rfl⟩

/-- Attempts and resets change nothing of a request but its body. -/
theorem exists_body_before (start : Sending σ) (i : Nat) :
    ∃ body, ((c.attempting link).before start i).request = { start.request with body := body } := by
  induction i with
  | zero => exact ⟨start.request.body, rfl⟩
  | succ i ih =>
    obtain ⟨body, hbody⟩ := ih
    obtain ⟨next, hnext⟩ := c.exists_body_attempt link ((c.attempting link).before start i)
    have hreset : ((c.attempting link).before start (i + 1)).request =
        { (c.attempt link ((c.attempting link).before start i)).2.request with
          body := (c.attempt link ((c.attempting link).before start i)).2.request.body.reset.2 } :=
      rfl
    exact ⟨next.reset.2, by rw [hreset, hnext, hbody]⟩

/-- So its head is the same in every attempt. -/
theorem outgoing_before (start : Sending σ) (i : Nat) :
    c.outgoing ((c.attempting link).before start i).request = c.outgoing start.request := by
  obtain ⟨body, hbody⟩ := c.exists_body_before link start i
  rw [hbody]
  rfl

/-- A reset does not touch the link. -/
theorem link_perform_operations (start : Sending σ) (last : Nat) (again : Bool) :
    ((c.attempting link).perform start (operations last again)).link =
      ((c.attempting link).after start last).link := by
  rw [perform_operations]
  cases again <;> rfl

/-! ### The heads that are handed over -/

/-- Attempts over a link that keeps a record are attempts over the link. -/
theorem sees_recorded :
    (c.attempting link.recorded).Sees (c.attempting link) Sending.unrecorded where
  attempt sending := by
    simp only [attempting, attempt, Sending.unrecorded]
    split
    · rfl
    · cases (c.outgoing sending.request).fault? with
      | some fault => rfl
      | none =>
        simp only [Exchange.run_recorded]
  reset _ := rfl

/-- An attempt is held back before it hands over a head, or hands over that of its request. -/
theorem record_attempt (sending : Sending (σ × List Outgoing)) :
    (∃ e, (c.attempt link.recorded sending).1 = .error { error := e } ∧
        HoldsBack sending.request.body (c.outgoing sending.request) e ∧
        (c.attempt link.recorded sending).2.link.2 = sending.link.2) ∨
      (c.attempt link.recorded sending).2.link.2 =
        sending.link.2 ++ [c.outgoing sending.request] := by
  unfold attempt
  split
  · rename_i e body hprepare
    exact .inl ⟨e, rfl, .inl (congrArg Prod.fst hprepare), rfl⟩
  · dsimp only
    split
    · rename_i fault hfault
      exact .inl ⟨_, rfl, .inr ⟨fault, hfault, rfl⟩, rfl⟩
    · rw [Exchange.run_recorded]
      exact .inr rfl

/-- As long as no attempt is final, each hands over the same head. -/
theorem record_before {start : Sending (σ × List Outgoing)} {limit n : Nat}
    (h : ∀ i < n, ¬(c.attempting link.recorded).IsFinal start limit i) :
    ((c.attempting link.recorded).before start n).link.2 =
      start.link.2 ++ List.replicate n (c.outgoing start.request) := by
  induction n with
  | zero => exact (List.append_nil _).symm
  | succ n ih =>
    obtain ⟨failure, hout, hmend, -, -⟩ :=
      ((c.attempting link.recorded).not_isFinal_iff start).mp (h n (Nat.lt_succ_self n))
    have hreset : ((c.attempting link.recorded).before start (n + 1)).link.2 =
        (c.attempt link.recorded ((c.attempting link.recorded).before start n)).2.link.2 := rfl
    rw [hreset]
    rcases c.record_attempt link ((c.attempting link.recorded).before start n) with
      ⟨e, he, hback, -⟩ | hrecord
    · -- a failure that may be mended is not local
      obtain rfl := Except.error.inj (hout.symm.trans he)
      rw [ApiError.isRetryable_of_isLocal hback.isLocal] at hmend
      cases hmend
    · rw [hrecord, ih fun i hi => h i (Nat.lt_succ_of_lt hi), outgoing_before, List.replicate_succ',
        List.append_assoc]

variable (r : Request) (s : Session (σ × List Outgoing))

/-- A sending **hands over** the head of its request in every attempt. What it does is what it does
over a link that keeps no record. -/
structure HandsOver : Prop where
  unrecorded : c.send link r s.unrecorded =
    ((c.send link.recorded r s).1, (c.send link.recorded r s).2.1,
      (c.send link.recorded r s).2.2.unrecorded)
  /-- Only the last attempt may have nothing to hand over: it fails locally then, and only because
  its body cannot be prepared or the request cannot be built. -/
  heads : ∃ n, (c.send link.recorded r s).2.2.link.2 =
      s.link.2 ++ List.replicate n (c.outgoing r) ∧
    (n = (c.send link.recorded r s).2.1.attempts ∨
      n + 1 = (c.send link.recorded r s).2.1.attempts ∧
        ∃ e, (c.send link.recorded r s).1 = .error e ∧ e.isLocal = true ∧
          HoldsBack (c.bodyAt link.recorded r s n) (c.outgoing r) e)

theorem handsOver : c.HandsOver link r s where
  unrecorded := by
    have hrun := (c.sees_recorded link).run 0 (c.limitsFor r).reset (unsent r s) s.clocks
    rw [send_eq, send_eq]
    have hstart : unsent r s.unrecorded = (unsent r s).unrecorded := rfl
    have hclocks : s.unrecorded.clocks = s.clocks := rfl
    rw [hstart, hclocks, hrun]
    rfl
  heads := by
    obtain ⟨last, hlast⟩ := (c.attempting link.recorded).exists_isLeast_isFinal (unsent r s)
      (c.limitsFor r).maxRetries
    have hrun := (c.attempting link.recorded).run_eq_of_isLeast (unsent r s) (c.limitsFor r)
      s.clocks hlast
    have hnot : ∀ i < last, ¬(c.attempting link.recorded).IsFinal (unsent r s)
        (c.limitsFor r).maxRetries i := fun i hi hfinal => absurd (hlast.2 hfinal) (by omega)
    have hbefore := c.record_before link hnot
    have hhead := c.outgoing_before link.recorded (unsent r s) last
    have hlink := c.link_perform_operations link.recorded (unsent r s) last
      ((c.attempting link.recorded).isMendable (unsent r s) last &&
        decide (last < (c.limitsFor r).maxRetries))
    rw [send_eq, hrun]
    dsimp only
    rw [hlink]
    rcases c.record_attempt link ((c.attempting link.recorded).before (unsent r s) last) with
      ⟨e, he, hback, hrecord⟩ | hrecord
    · have hout : (c.attempting link.recorded).outcome (unsent r s) last =
          .error { error := e } := he
      rw [hhead] at hback
      refine ⟨last, hrecord.trans hbefore, .inr ⟨rfl, e, ?_, hback.isLocal, hback⟩⟩
      rw [hout]
      exact congrArg Except.error (ApiError.withAttempts_of_isLocal (last + 1) hback.isLocal)
    · refine ⟨last + 1, hrecord.trans ?_, .inl rfl⟩
      rw [hbefore, hhead, List.replicate_succ', List.append_assoc]
      rfl

/-! ### The fields of a head -/

section Fields

variable {c} {r : Request} {a : String} {o : ClientOptions}

/-- The fields of a client that was built, around those that a request contributes. -/
theorem BuiltFrom.headersFor_eq (h : c.BuiltFrom a o) (r : Request) :
    c.headersFor r = [(clientInfoHeader, clientInfo), ("Authorization", a)] ++
      o.defaultHeaders.erase asUserHeader ++ c.asUserFields r ++ r.headers := by
  rw [headersFor, h.authorization, h.defaultHeaders]

/-- The client names a user exactly if it has one and the request does not name any. -/
theorem asUserFields_eq (c : Client) (r : Request) :
    c.asUserFields r = if r.headers.values asUserHeader = [] then
      c.options.asUser.toList.map fun user => (asUserHeader, user) else [] := by
  rw [asUserFields, Headers.first?_eq_head?]
  cases c.options.asUser with
  | none => cases r.headers.values asUserHeader <;> rfl
  | some user => cases r.headers.values asUserHeader <;> rfl

/-- It names nothing else. -/
theorem asUserFields_cases (c : Client) (r : Request) :
    c.asUserFields r = [] ∨ ∃ user, c.asUserFields r = [(asUserHeader, user)] := by
  rw [asUserFields_eq]
  split
  · cases c.options.asUser with
    | none => exact .inl rfl
    | some user => exact .inr ⟨user, rfl⟩
  · exact .inl rfl

theorem sameHeader_asUser_clientInfo : sameHeader asUserHeader clientInfoHeader = false := by decide

theorem values_own_clientInfo (a : String) :
    Headers.values [(clientInfoHeader, clientInfo), ("Authorization", a)] clientInfoHeader =
      [clientInfo] := by
  have hother : sameHeader "Authorization" clientInfoHeader = false := by decide
  simp [Headers.values, sameHeader_self, hother]

theorem values_own_asUser (a : String) :
    Headers.values [(clientInfoHeader, clientInfo), ("Authorization", a)] asUserHeader = [] := by
  have hinfo : sameHeader clientInfoHeader asUserHeader = false := by decide
  have hother : sameHeader "Authorization" asUserHeader = false := by decide
  simp [Headers.values, hinfo, hother]

theorem BuiltFrom.values_clientInfo (h : c.BuiltFrom a o)
    (hr : r.headers.values clientInfoHeader = []) :
    (c.headersFor r).values clientInfoHeader = [clientInfo] := by
  have huser : (c.asUserFields r).values clientInfoHeader = [] := by
    rcases c.asUserFields_cases r with hnone | ⟨user, hsome⟩
    · rw [hnone]
      rfl
    · rw [hsome, Headers.values_singleton, sameHeader_asUser_clientInfo]
      rfl
  have hdefaults : (o.defaultHeaders.erase asUserHeader).values clientInfoHeader = [] := by
    rw [Headers.values_erase_of_not_same _ (by decide), h.info]
  rw [h.headersFor_eq, Headers.values_append, Headers.values_append, Headers.values_append,
    values_own_clientInfo, hdefaults, huser, hr]
  rfl

/-- The user is the one that the request names, or else the one that the options give. -/
theorem BuiltFrom.values_asUser (h : c.BuiltFrom a o) {user : Option String}
    (hr : r.headers.values asUserHeader = user.toList) :
    (c.headersFor r).values asUserHeader =
      (user <|> o.asUser <|> (o.defaultHeaders.values asUserHeader).getLast?).toList := by
  rw [h.headersFor_eq, Headers.values_append, Headers.values_append, Headers.values_append,
    values_own_asUser, Headers.values_eq_nil_of_erase, asUserFields_eq, hr, h.asUser]
  cases user with
  | some user => rfl
  | none =>
    cases (o.asUser <|> (o.defaultHeaders.values asUserHeader).getLast?) with
    | none => rfl
    | some user => simp [Headers.values, sameHeader_self]

/-- All other fields: the authorization, the defaults, and those of the request. -/
theorem BuiltFrom.erase_headersFor (h : c.BuiltFrom a o)
    (hr : r.headers.values clientInfoHeader = []) :
    ((c.headersFor r).erase clientInfoHeader).erase asUserHeader =
      ("Authorization", a) :: o.defaultHeaders.erase asUserHeader ++
        r.headers.erase asUserHeader := by
  have hown : (Headers.erase [(clientInfoHeader, clientInfo), ("Authorization", a)]
      clientInfoHeader).erase asUserHeader = [("Authorization", a)] := by
    have hinfo : sameHeader "Authorization" clientInfoHeader = false := by decide
    have huser : sameHeader "Authorization" asUserHeader = false := by decide
    simp [Headers.erase, sameHeader_self, hinfo, huser]
  have hdefaults : (o.defaultHeaders.erase asUserHeader).values clientInfoHeader = [] := by
    rw [Headers.values_erase_of_not_same _ (by decide), h.info]
  have huser : ((c.asUserFields r).erase clientInfoHeader).erase asUserHeader = [] := by
    rcases c.asUserFields_cases r with hnone | ⟨user, hsome⟩
    · rw [hnone]
      rfl
    · rw [hsome, Headers.erase_singleton, sameHeader_asUser_clientInfo, if_neg Bool.false_ne_true,
        Headers.erase_singleton, sameHeader_self, if_pos rfl]
  rw [h.headersFor_eq]
  simp only [Headers.erase_append]
  rw [hown, huser, Headers.erase_eq_self _ hdefaults,
    Headers.erase_eq_self (o.defaultHeaders.erase asUserHeader)
      (Headers.values_eq_nil_of_erase _ _),
    Headers.erase_eq_self r.headers hr]
  simp

/-- The header text that a client is built with is **well formed**: it can be sent. -/
structure IsWellFormed (a : String) (o : ClientOptions) : Prop where
  authorization : isFieldValue a = true
  asUser : ∀ user, o.asUser = some user → isFieldValue user = true
  defaultHeaders : ∀ field ∈ o.defaultHeaders, IsField field

/-- Fields that are given well formed go out well formed. -/
theorem BuiltFrom.isField_headersFor (h : c.BuiltFrom a o) (ho : IsWellFormed a o)
    (hr : ∀ field ∈ r.headers, IsField field) :
    ∀ field ∈ c.headersFor r, IsField field := by
  have hclient : IsField (clientInfoHeader, clientInfo) := by decide
  have hname : isFieldName "Authorization" = true := by decide
  have huserName : isFieldName asUserHeader = true := by decide
  have huser : ∀ user, c.options.asUser = some user → isFieldValue user = true := by
    intro user huser
    rw [h.asUser] at huser
    cases hown : o.asUser with
    | some own =>
      rw [hown] at huser
      obtain rfl : own = user := Option.some.inj huser
      exact ho.asUser own hown
    | none =>
      -- the user comes from a default field
      rw [hown] at huser
      obtain ⟨field, hfield, rfl⟩ := List.mem_map.mp (List.mem_of_getLast? huser)
      exact (ho.defaultHeaders field (List.mem_of_mem_filter hfield)).2
  intro field hfield
  simp only [h.headersFor_eq, List.mem_append, List.mem_cons, List.not_mem_nil, or_false] at hfield
  rcases hfield with ((((rfl | rfl) | hfield) | hfield) | hfield)
  · exact hclient
  · exact ⟨hname, ho.authorization⟩
  · exact ho.defaultHeaders field (List.mem_of_mem_filter hfield)
  · rw [asUserFields_eq] at hfield
    split at hfield
    · obtain ⟨user, hmem, rfl⟩ := List.mem_map.mp hfield
      exact ⟨huserName, huser user (Option.mem_toList.mp hmem)⟩
    · cases hfield
  · exact hr field hfield

end Fields

/-! ### What a client sends with a request -/

/-- The header fields that a client, built from an authorization value and options, sends with a
request after a run of calls on it. -/
structure SendsFields (c : Client) (a : String) (o : ClientOptions) (calls : List HeaderCall)
    (r : Request) : Prop where
  /-- The client is identified once. -/
  info : (c.outgoing r).headers.values clientInfoHeader = [clientInfo]
  /-- The user is the one that was named last on the request, or else the one of the options, or
  else the one that was named last among the defaults. -/
  user : (c.outgoing r).headers.values asUserHeader =
    (HeaderCall.lastUser? calls <|> o.asUser <|>
      (o.defaultHeaders.values asUserHeader).getLast?).toList
  /-- All other fields are the authorization, the defaults and those that the calls have set, in
  order. -/
  others : ((c.outgoing r).headers.erase clientInfoHeader).erase asUserHeader =
    ("Authorization", a) :: o.defaultHeaders.erase asUserHeader ++
      (HeaderCall.standing calls).erase asUserHeader
  request : r.headers = HeaderCall.standing calls
  /-- Identifying the client is refused, and the request stays as it is. -/
  refused : ∀ name value, sameHeader name clientInfoHeader = true →
    r.addHeader name value = .error (.configuration .reservedHeader) ∧
      r.afterCall (.add name value false) = some r
  wellFormed : IsWellFormed a o → (∀ call ∈ calls, call.IsWellFormed) →
    ∀ field ∈ (c.outgoing r).headers, IsField field
  /-- Whether the request can be built is then up to its target alone. -/
  buildable : IsWellFormed a o → (∀ call ∈ calls, call.IsWellFormed) →
    (c.outgoing r).fault? = ({ c.outgoing r with headers := [] } : Outgoing).fault?
  /-- These are the fields in every attempt of every sending. -/
  attempts : ∀ {σ : Type} (link : Link σ) (s : Session (σ × List Outgoing)), c.HandsOver link r s

/-- **Header fields.** A client whose defaults identify the client is not built, and that is the
fault if its bases can be read. Every other one can be built then, and sends its fields and those of
the request. The request is there after any calls, unless one of them takes it over to identify the
client. -/
theorem refuses_and_sendsFields (a : String) (o : ClientOptions) (clock : Clock) :
    ((∃ field ∈ o.defaultHeaders, sameHeader field.1 clientInfoHeader = true) →
      ∃ fault, build a o clock = .error (.configuration fault) ∧
        ((readBase "base_url" o.baseUrl).isOk = true →
          (readBase "base_upload_url" o.baseUploadUrl).isOk = true →
            fault = .reservedDefaultHeader)) ∧
      ((∀ field ∈ o.defaultHeaders, sameHeader field.1 clientInfoHeader = false) →
        (readBase "base_url" o.baseUrl).isOk = true →
        (readBase "base_upload_url" o.baseUploadUrl).isOk = true →
          ∃ c, build a o clock = .ok c) ∧
      (∀ c, build a o clock = .ok c → ∀ (calls : List HeaderCall) (fresh r : Request),
        fresh.headers = [] → fresh.afterCalls calls = some r → c.SendsFields a o calls r) ∧
      ∀ (calls : List HeaderCall) (fresh : Request), fresh.afterCalls calls = none ↔
        ∃ name value, .add name value true ∈ calls ∧ sameHeader name clientInfoHeader = true := by
  refine ⟨build_of_info a clock, exists_build a clock, ?_,
    fun _ _ => Request.afterCalls_eq_none_iff⟩
  intro c hbuild calls fresh r hfresh hcalls
  have hc := builtFrom_of_build hbuild
  have hr : r.headers = HeaderCall.standing calls := by
    rw [Request.headers_of_afterCalls hcalls, hfresh]
    rfl
  have hinfo : r.headers.values clientInfoHeader = [] := by
    rw [hr, HeaderCall.values_clientInfo_standing]
  have hwell : IsWellFormed a o → (∀ call ∈ calls, call.IsWellFormed) →
      ∀ field ∈ (c.outgoing r).headers, IsField field := by
    intro ho hcall
    refine hc.isField_headersFor ho ?_
    rw [hr]
    exact HeaderCall.isField_standing hcall
  refine
    { info := hc.values_clientInfo hinfo
      user := hc.values_asUser ?_
      others := ?_
      request := hr
      refused := ?_
      wellFormed := hwell
      buildable := fun ho hcall => Outgoing.fault?_of_isField (hwell ho hcall)
      attempts := fun link s => c.handsOver link r s }
  · rw [hr, HeaderCall.values_asUser_standing]
  · rw [← hr]
    exact hc.erase_headersFor hinfo
  · intro name value hname
    have hrefused := r.addHeader_of_info hname value
    exact ⟨hrefused, by simp [Request.afterCall, HeaderCall.result, HeaderCall.takesOver, hrefused]⟩

/-! ### A client with defaults -/

/-- Options whose defaults name two users, in two ways of writing, around another field. -/
def tracedOptions : ClientOptions :=
  { defaultHeaders := [("As-User", "1"), ("X-Trace", "t"), ("as-user", "3")] }

/-- Calls that add a field twice, name a user, try to identify the client, and set a body over the
type of another one. -/
def mixedCalls : List HeaderCall :=
  [.add "X-A" "1" true, .add "content-type" "text/plain" false, .add "AS-USER" "7" false,
    .add "x-box-ua" "me" false, .setJson (.ok .null), .add "x-a" "2" false]

/-- A request without fields. -/
def freshRequest : Request where
  method := "GET"
  url :=
    { scheme := "https"
      authority := some { host := .name "example.org" }
      path := .segments ["files"] }

/-- A client with these defaults is built and sends the user that the request names, and it is not
built if it is identified among them. -/
theorem refuses_and_sendsFields_traced :
    (∃ fault, build "Bearer token"
        { tracedOptions with defaultHeaders := [("x-box-ua", "me")] } .system =
      .error (.configuration fault)) ∧
    ∃ c r, build "Bearer token" tracedOptions .system = .ok c ∧
      freshRequest.afterCalls mixedCalls = some r ∧
      c.SendsFields "Bearer token" tracedOptions mixedCalls r ∧
      (c.outgoing r).headers.values asUserHeader = ["7"] ∧
      ((c.outgoing r).headers.erase clientInfoHeader).erase asUserHeader =
        [("Authorization", "Bearer token"), ("X-Trace", "t"), ("X-A", "1"),
          ("Content-Type", "application/json"), ("x-a", "2")] := by
  obtain ⟨fault, hfault, -⟩ := (refuses_and_sendsFields "Bearer token"
    { tracedOptions with defaultHeaders := [("x-box-ua", "me")] } .system).1
    ⟨("x-box-ua", "me"), List.mem_singleton_self _, by decide⟩
  obtain ⟨c, hbuild⟩ := (refuses_and_sendsFields "Bearer token" tracedOptions .system).2.1
    (by decide) (by decide +kernel) (by decide +kernel)
  obtain ⟨r, hcalls⟩ : ∃ r, freshRequest.afterCalls mixedCalls = some r :=
    Option.isSome_iff_exists.mp (by decide)
  have hsends := (refuses_and_sendsFields "Bearer token" tracedOptions .system).2.2.1 c hbuild
    mixedCalls freshRequest r rfl hcalls
  exact ⟨⟨fault, hfault⟩, c, r, hbuild, hcalls, hsends, hsends.user.trans (by decide),
    hsends.others.trans (by decide)⟩

end Client

end ContentClient
