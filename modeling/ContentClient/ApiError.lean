import ContentClient.Stream.IoError

/-!
# Errors of the client

`ApiError` says why a call failed. The failures of local usage and of decoding carry their cause as
data, and the wording of every failure is in the `message` functions. The kinds that a response or
the network caused also carry how many attempts were made.
-/

namespace ContentClient

/-- A fault of local usage, found before anything is sent. -/
inductive Misuse where
  /-- A base URL that does not parse, with the name of the option, its text and the reason. -/
  | invalidBase (option text reason : String)
  /-- A base URL under which no path can be resolved. -/
  | opaqueBase (option text : String)
  /-- A path that does not resolve against its base. -/
  | invalidPath (path reason : String)
  | missingToken
  | emptyToken
  /-- The identification header among a request's own headers. -/
  | reservedHeader
  /-- The identification header among the default headers. -/
  | reservedDefaultHeader
  | zeroLimit
  | sortedMarkerPaging
  | oneShotConsumed
  | unencodableJson (reason : String)
  /-- A request that the transport refuses to build. The URL is given if it is at fault. -/
  | unbuildableRequest (url : Option String)
  /-- A fault that a caller of the library states in its own words. -/
  | stated (text : String)
  deriving DecidableEq, Repr

/-- The header that identifies the client. -/
def clientInfoHeader : String := "X-Box-UA"

/-- The header that names the user on whose behalf a request is made. -/
def asUserHeader : String := "As-User"

/-- The wording of a fault of local usage. -/
def Misuse.message : Misuse → String
  | .invalidBase option text reason => s!"invalid {option} '{text}': {reason}"
  | .opaqueBase option text => s!"{option} '{text}' cannot be used as a base URL"
  | .invalidPath path reason => s!"invalid path '{path}': {reason}"
  | .missingToken => "missing BOX_DEVELOPER_TOKEN environment variable"
  | .emptyToken => "BOX_DEVELOPER_TOKEN is set but empty"
  | .reservedHeader => s!"{clientInfoHeader} header cannot be modified"
  | .reservedDefaultHeader => s!"{clientInfoHeader} header cannot be set in default headers"
  | .zeroLimit => "paging limit must be positive"
  | .sortedMarkerPaging => "Sorting is not supported when using marker based pagination"
  | .oneShotConsumed => "one-shot request body was already consumed"
  | .unencodableJson reason => s!"invalid JSON body: {reason}"
  | .unbuildableRequest none => "invalid request: builder error"
  | .unbuildableRequest (some url) => s!"invalid request: builder error for url ({url})"
  | .stated text => text

/-- A body or an entry that does not have the expected shape. -/
inductive Mismatch where
  | invalidJson (reason body : String)
  | invalidEntry (reason : String)
  /-- A body of bytes where text was asked for. -/
  | notText
  /-- A mismatch that a caller of the library states in its own words. -/
  | stated (text : String)
  deriving DecidableEq, Repr

/-- The wording of a mismatch. -/
def Mismatch.message : Mismatch → String
  | .invalidJson reason body => s!"invalid response JSON: {reason}; body: {body}"
  | .invalidEntry reason => s!"invalid list entry: {reason}"
  | .notText => "response body is a byte stream, not text"
  | .stated text => text

/-- Why a call failed. -/
inductive ApiError where
  /-- Invalid local usage, detected before any network call. -/
  | configuration (fault : Misuse)
  /-- No response was received, or not to its end. What the transport says about it is left out. -/
  | network (attempts : Nat)
  /-- Status 429. -/
  | rateLimited (body : String) (attempts : Nat)
  /-- A status from 500 to 599. -/
  | server (status : Nat) (body : String) (attempts : Nat)
  /-- Status 400 with an invalid grant, which passes once clocks agree again. -/
  | transientAuth (body : String) (attempts : Nat)
  /-- Any other status that is not a success, with the members of its error object. -/
  | api (status attempts : Nat) (body : String) (code message requestId : Option String)
  /-- A response that does not have the expected shape. -/
  | deserialization (mismatch : Mismatch)
  /-- A local failure while a request body was prepared. -/
  | io (error : IoError)
  deriving DecidableEq, Repr

namespace ApiError

/-- What stands for the transport's own words. -/
def transportText : String := "<transport>"

/-- The wording of an error. -/
def message : ApiError → String
  | .configuration fault => s!"configuration error: {fault.message}"
  | .network attempts => s!"network error after {attempts} attempt(s): {transportText}"
  | .rateLimited body attempts => s!"rate limited after {attempts} attempt(s): {body}"
  | .server status body attempts => s!"server error {status} after {attempts} attempt(s): {body}"
  | .transientAuth body attempts => s!"invalid grant after {attempts} attempt(s): {body}"
  | .api status attempts body _ _ _ => s!"http error {status} after {attempts} attempt(s): {body}"
  | .deserialization mismatch => s!"decode error: {mismatch.message}"
  | .io error => s!"io error: {error.message}"

/-- Whether a call that failed in this way is tried again. -/
def isRetryable : ApiError → Bool
  | .network _ | .rateLimited _ _ | .server _ _ _ | .transientAuth _ _ => true
  | _ => false

/-- The number of attempts, for the kinds that reached the network. -/
def attempts : ApiError → Option Nat
  | .network n | .rateLimited _ n | .server _ _ n | .transientAuth _ n | .api _ n _ _ _ _ => some n
  | _ => none

/-- The status of the response, where there was one. -/
def status : ApiError → Option Nat
  | .rateLimited _ _ => some 429
  | .transientAuth _ _ => some 400
  | .server status _ _ | .api status _ _ _ _ _ => some status
  | _ => none

/-- The same error with another number of attempts, if its kind carries one. -/
def withAttempts (n : Nat) : ApiError → ApiError
  | .network _ => .network n
  | .rateLimited body _ => .rateLimited body n
  | .server status body _ => .server status body n
  | .transientAuth body _ => .transientAuth body n
  | .api status _ body code message requestId => .api status n body code message requestId
  | e => e

@[simp] theorem isRetryable_withAttempts (n : Nat) (e : ApiError) :
    (e.withAttempts n).isRetryable = e.isRetryable := by
  cases e <;> rfl

/-- The error in diagnostics. -/
def describe (e : ApiError) : String :=
  let text := Text.quoted
  let text? (s : Option String) := Text.Notation.optional (s.map Text.quoted)
  match e with
  | .configuration fault => Text.Notation.tagged "Configuration" (text fault.message)
  | .network n =>
    Text.Notation.record "Network" [("source", transportText), ("attempts", toString n)]
  | .rateLimited body n =>
    Text.Notation.record "RateLimited" [("body", text body), ("attempts", toString n)]
  | .server status body n =>
    Text.Notation.record "Server"
      [("status", toString status), ("body", text body), ("attempts", toString n)]
  | .transientAuth body n =>
    Text.Notation.record "TransientAuth" [("body", text body), ("attempts", toString n)]
  | .api status n body code message requestId =>
    Text.Notation.record "Api"
      [("status", toString status), ("attempts", toString n), ("body", text body),
        ("code", text? code), ("message", text? message), ("request_id", text? requestId)]
  | .deserialization mismatch => Text.Notation.tagged "Deserialization" (text mismatch.message)
  | .io error => Text.Notation.tagged "Io" error.describe

end ApiError

end ContentClient
