import ContentClient.Backoff.Counter
import ContentClient.Http.Body
import ContentClient.Http.Headers
import ContentClient.Json.Basic
import ContentClient.Url.Basic

/-!
# Requests

A request is one logical call: its target, its header fields, its body, and how many attempts the
last sending made. Header fields accumulate, with two exceptions: the identification of the client
cannot be set, and the user on whose behalf the call is made is set at most once. Setting a JSON or
a multipart body also sets the header fields that describe it.
-/

namespace ContentClient

/-- The header that names the type of a body. -/
def contentTypeHeader : String := "Content-Type"

/-- The header that carries the digest of an uploaded file. -/
def contentDigestHeader : String := "Content-MD5"

/-- The type of JSON bodies. -/
def jsonContentType : String := "application/json"

/-- One call to the server. -/
structure Request where
  method : String
  url : Url
  headers : Headers := []
  body : Body := .empty
  /-- How many attempts the last sending made. -/
  attempts : Nat := 0
  /-- The retry limits of this request, instead of those of the client. -/
  backoff : Option BackoffCounter := none
  /-- The time that this request may take, instead of that of the client. -/
  timeout : Option Duration := none

namespace Request

/-- Adds a header field. -/
def addHeader (r : Request) (name value : String) : Except ApiError Request :=
  if sameHeader name clientInfoHeader then .error (.configuration .reservedHeader)
  else if sameHeader name asUserHeader then
    .ok { r with headers := (r.headers.erase asUserHeader).add name value }
  else .ok { r with headers := r.headers.add name value }

/-- The request with a body of bytes that holds JSON. -/
def setJson (r : Request) (value : Json) : Request :=
  { r with
    headers := r.headers.replace contentTypeHeader jsonContentType
    body := .bytes (Text.utf8 value.render) }

/-- Sets a body that may fail to have a JSON form; a failure changes nothing. -/
def setEncoded (r : Request) (value : Except String Json) : Except ApiError Request :=
  match value with
  | .ok value => .ok (r.setJson value)
  | .error reason => .error (.configuration (.unencodableJson reason))

/-- The request with a multipart body. -/
def setMultipart (r : Request) (encoder : MultipartEncoder) : Request :=
  let headers := r.headers.replace contentTypeHeader Multipart.contentTypeHeader
  { r with
    headers := match encoder.contentSha1 with
      | none => headers
      | some digest => headers.replace contentDigestHeader digest
    body := .multipart encoder }

end Request

end ContentClient
