import ContentClient.Text.Blank
import ContentClient.Text.Case

/-!
# Authorization values

Access tokens are sent as bearer tokens. A token that already names that scheme, in whatever case,
is sent as it is.
-/

namespace ContentClient.Authorization

/-- What stands in front of a bearer token. -/
def bearer : String := "Bearer "

/-- Whether a text names the scheme of bearer tokens. -/
def namesBearer (s : String) : Bool :=
  (Text.lower bearer.toList).isPrefixOf (Text.lower s.toList)

/-- The value of the authorization header for an access token. -/
def ofToken (token : String) : String :=
  let trimmed := Text.trim token
  if namesBearer trimmed then trimmed else bearer ++ trimmed

end ContentClient.Authorization
