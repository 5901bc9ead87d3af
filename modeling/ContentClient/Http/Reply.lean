import ContentClient.Backoff.Retry
import ContentClient.Http.Response
import ContentClient.Text.Blank
import ContentClient.Text.Case
import ContentClient.Text.Digits

/-!
# Replies of the server

A reply with a status from 200 to 399 becomes a response, and every other one a failure. The failure
is classified by the status and the error object in the body, and a server that limits the rate may
ask for a delay before the next attempt.
-/

namespace ContentClient

/-- What the server sends back. -/
structure Reply where
  status : Nat
  headers : Headers
  /-- The bytes of the body that arrive. -/
  content : Bytes := []
  /-- Whether the body arrives to its end. -/
  complete : Bool := true
  /-- The length of the body, if the head of the reply declares it. -/
  length : Option Nat := none

/-! ### Error objects -/

/-- The members of an error object. Authorization servers name the code and the message in another
way than the rest of the API. -/
structure ErrorDetails where
  code : Option String := none
  error : Option String := none
  message : Option String := none
  description : Option String := none
  requestId : Option String := none

namespace ErrorDetails

/-- The shape of an error object. -/
def record : Json.Record :=
  ⟨"ErrorBody",
    [.optional "code" .string, .optional "error" .string, .optional "message" .string,
      .optional "error_description" .string, .optional "request_id" .string]⟩

/-- The details in a body; none if it is not an error object. -/
def ofBody (body : String) : ErrorDetails :=
  match record.decodeText body with
  | .error _ => {}
  | .ok members =>
    let text? (name : String) := (members.find? name).bind Json.text?
    { code := text? "code"
      error := text? "error"
      message := text? "message"
      description := text? "error_description"
      requestId := text? "request_id" }

/-- The code, under either name. -/
def code? (d : ErrorDetails) : Option String := d.code <|> d.error

/-- The message, under either name. -/
def message? (d : ErrorDetails) : Option String := d.message <|> d.description

end ErrorDetails

/-- The code of an error that passes once clocks agree again. -/
def invalidGrant : String := "invalid_grant"

/-- The error for a status that is not a success. -/
def classify (status : Nat) (body : String) : ApiError :=
  if status = 429 then .rateLimited body 1
  else if 500 ≤ status ∧ status ≤ 599 then .server status body 1
  else
    let details := ErrorDetails.ofBody body
    if status = 400 ∧ details.code? = some invalidGrant then .transientAuth body 1
    else .api status 1 body details.code? details.message? details.requestId

/-! ### Requested delays -/

namespace Reply

/-- The delay in whole seconds that a server which limits the rate asks for. -/
def retryAfter? (r : Reply) : Option Duration :=
  if r.status = 429 then
    ((r.headers.showable? "Retry-After").bind fun value => Text.word? (Text.trim value).toList).map
      Duration.ofSecs
  else none

/-- The body as text, with U+FFFD for what is not UTF-8. -/
def text? (r : Reply) : Option String :=
  if r.complete then some (Text.decodeLossy r.content) else none

/-- Whether a reply to a method has no body. -/
def isBodiless (r : Reply) (method : String) : Bool :=
  method == "HEAD" || r.status == 204 || r.status == 304 || r.length == some 0

/-- The type of the body in small letters, empty if it is missing or cannot be shown. -/
def contentType (r : Reply) : List Char :=
  Text.lower ((r.headers.showable? "Content-Type").getD "").toList

/-- The response to a method. Text is read at once, and none comes of it if it breaks off. -/
def response? (r : Reply) (method : String) : Option Response :=
  if r.isBodiless method then some ⟨r.status, r.headers, .empty⟩
  else if isTextual r.contentType then r.text?.map fun text => ⟨r.status, r.headers, .text text⟩
  else some ⟨r.status, r.headers, .stream r.content r.complete⟩

/-- Whether the status reports success. -/
def isSuccess (r : Reply) : Bool := 200 ≤ r.status && r.status < 400

/-- What an attempt comes to when the server replies. -/
def outcome (r : Reply) (method : String) : Except Failure Response :=
  if r.isSuccess then
    match r.response? method with
    | some response => .ok response
    | none => .error { error := .network 1 }
  else
    match r.text? with
    | some body => .error { error := classify r.status body, retryAfter := r.retryAfter? }
    | none => .error { error := .network 1 }

end Reply

end ContentClient
