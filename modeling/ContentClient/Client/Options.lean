import ContentClient.Backoff.Policy
import ContentClient.Http.Headers
import ContentClient.ApiError

/-!
# Options of a client

Endpoints, timeouts, retry behaviour and the header fields that every request of a client carries.
-/

namespace ContentClient

/-- The base URL of the API unless an option says otherwise. -/
def defaultBaseUrl : String := "https://api.box.com/2.0/"

/-- The base URL of uploads unless an option says otherwise. -/
def defaultBaseUploadUrl : String := "https://upload.box.com/api/2.0/"

/-- How often a failed attempt is repeated unless an option says otherwise. -/
def defaultMaxRetries : Nat := 5

/-- How the client names itself to the server. -/
def clientInfo : String := "agent=box-rust-sdk/0.1.0; env=Rust"

/-- The options of a client. -/
structure ClientOptions where
  baseUrl : String := defaultBaseUrl
  baseUploadUrl : String := defaultBaseUploadUrl
  /-- The time that a request may take. -/
  timeoutMillis : Nat := 60000
  /-- The time that a connection may take. -/
  connectTimeoutMillis : Nat := 30000
  maxRetries : Nat := defaultMaxRetries
  retryBackoffMillis : Nat := 1000
  maxBackoffMillis : Nat := 60000
  /-- The user on whose behalf requests are made that do not name their own. -/
  asUser : Option String := none
  /-- Header fields of every request. -/
  defaultHeaders : Headers := []
  useSystemProxy : Bool := true
  deriving DecidableEq, Repr

namespace ClientOptions

instance : Inhabited ClientOptions := ⟨{}⟩

/-- The backoff policy that the options ask for. -/
def policy (o : ClientOptions) : BackoffPolicy :=
  { (default : BackoffPolicy) with
    baseDelay := .ofMillis o.retryBackoffMillis
    maxDelay := .ofMillis o.maxBackoffMillis }

/-- The options with the two reserved names taken out of the default header fields. The
identification of the client is refused there; the last user named there is the one on whose behalf
requests are made, unless an option of its own names one. -/
def foldDefaultHeaders (o : ClientOptions) : Except ApiError ClientOptions :=
  if o.defaultHeaders.any fun h => sameHeader h.1 clientInfoHeader then
    .error (.configuration .reservedDefaultHeader)
  else
    .ok { o with
      defaultHeaders := o.defaultHeaders.erase asUserHeader
      asUser := o.asUser <|> (o.defaultHeaders.values asUserHeader).getLast? }

/-- The options in diagnostics. -/
def describe (o : ClientOptions) : String :=
  Text.Notation.record "ClientOptions"
    [("base_url", Text.quoted o.baseUrl),
      ("base_upload_url", Text.quoted o.baseUploadUrl),
      ("timeout_ms", toString o.timeoutMillis),
      ("connect_timeout_ms", toString o.connectTimeoutMillis),
      ("max_retries", toString o.maxRetries),
      ("retry_backoff_ms", toString o.retryBackoffMillis),
      ("max_backoff_ms", toString o.maxBackoffMillis),
      ("as_user", Text.Notation.optional (o.asUser.map Text.quoted)),
      ("default_headers", Text.Notation.list (o.defaultHeaders.map fun h =>
        Text.Notation.pair (Text.quoted h.1) (Text.quoted h.2))),
      ("use_system_proxy", toString o.useSystemProxy)]

end ClientOptions

end ContentClient
