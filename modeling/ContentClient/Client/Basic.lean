import ContentClient.Client.Authorization
import ContentClient.Client.Options
import ContentClient.Backoff.Counter
import ContentClient.Url.Parse

/-!
# Clients

A client holds an authorization value, its options, and the two base URLs under which paths are
resolved. A base URL always ends in a slash and a path loses the slashes that open it, so that a
path is resolved **below** its base.

The transport that a client sets up from its timeouts and its proxy is a `Link`, which stands beside
the client. That it may fail to be set up is left out.
-/

namespace ContentClient

/-- An authenticated handle to the API. -/
structure Client where
  authorization : String
  options : ClientOptions
  /-- What waits between attempts go through. -/
  clock : Clock
  baseUrl : Url
  baseUploadUrl : Url

namespace Client

/-- A base URL as it is read: without blanks around it, and with a slash at its end. -/
def baseText (raw : String) : String :=
  let trimmed := Text.trim raw
  if trimmed.toList.getLast? = some '/' then trimmed else trimmed ++ "/"

/-- The base URL that an option gives. -/
def readBase (option raw : String) : Except ApiError Url :=
  let text := baseText raw
  match Url.parse text with
  | .error e => .error (.configuration (.invalidBase option text e.message))
  | .ok url =>
    if url.hasTextPath then .error (.configuration (.opaqueBase option text)) else .ok url

/-- The URL of a path below a base. -/
def resolve (base : Url) (path : String) : Except ApiError Url :=
  match base.join (String.ofList (path.toList.dropWhile (· = '/'))) with
  | .ok url => .ok url
  | .error e => .error (.configuration (.invalidPath path e.message))

/-- A client with given options. -/
def build (authorization : String) (options : ClientOptions) (clock : Clock) :
    Except ApiError Client := do
  let baseUrl ← readBase "base_url" options.baseUrl
  let baseUploadUrl ← readBase "base_upload_url" options.baseUploadUrl
  let options ← options.foldDefaultHeaders
  return { authorization, options, clock, baseUrl, baseUploadUrl }

/-- A client with an authorization value of any scheme. -/
def ofAuthorization (authorization : String) : Except ApiError Client :=
  build authorization default .system

/-- A client with an access token. -/
def ofToken (token : String) : Except ApiError Client :=
  ofAuthorization (Authorization.ofToken token)

/-- The client with other options. -/
def withOptions (c : Client) (options : ClientOptions) : Except ApiError Client :=
  build c.authorization options c.clock

/-- The client with another clock. -/
def withClock (c : Client) (clock : Clock) : Client := { c with clock := clock }

/-- A client with the access token and the base URL of the environment. A blank token is refused,
and a blank URL is as good as none. -/
def ofEnvironment (token url : Option String) : Except ApiError Client :=
  match token with
  | none => .error (.configuration .missingToken)
  | some token =>
    if (Text.trim token).isEmpty then .error (.configuration .emptyToken)
    else do
      let c ← ofToken token
      match url.map Text.trim with
      | none | some "" => return c
      | some url => c.withOptions { c.options with baseUrl := url }

/-- The URL of a path of the API. -/
def apiUrl (c : Client) (path : String) : Except ApiError Url := resolve c.baseUrl path

/-- The URL of a path for uploads. -/
def uploadUrl (c : Client) (path : String) : Except ApiError Url := resolve c.baseUploadUrl path

/-- The retry bookkeeping for one call. -/
def counter (c : Client) : BackoffCounter :=
  { policy := c.options.policy, clock := c.clock, maxRetries := c.options.maxRetries }

/-- How requests are sent, in diagnostics. The authorization is not shown. -/
def describeExecutor (c : Client) : String :=
  Text.Notation.record "RequestExecutor"
    [("authorization", Text.quoted "<redacted>"), ("options", c.options.describe),
      ("policy", c.options.policy.describe)]

/-- The client in diagnostics. -/
def describe (c : Client) : String :=
  Text.Notation.record "BoxClient"
    [("base_url", Text.quoted c.baseUrl.text),
      ("base_upload_url", Text.quoted c.baseUploadUrl.text), ("executor", c.describeExecutor)]

end Client

end ContentClient
