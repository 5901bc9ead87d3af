/-!
# Faults of URLs

Why a text is not a URL, or not a reference that resolves against one.
-/

namespace ContentClient

/-- Why a text does not give a URL. -/
inductive UrlError where
  | emptyHost
  | invalidPort
  | invalidIpv4
  | invalidIpv6
  /-- A host name of the web that is no international domain name. -/
  | invalidDomainName
  /-- A host of another scheme with a character that none may have. -/
  | invalidHostCharacter
  | relativeWithoutBase
  /-- A reference to a URL whose path has no segments. -/
  | baseWithoutSegments
  deriving DecidableEq, Repr

/-- The wording of a fault. -/
def UrlError.message : UrlError → String
  | .emptyHost => "empty host"
  | .invalidPort => "invalid port number"
  | .invalidIpv4 => "invalid IPv4 address"
  | .invalidIpv6 => "invalid IPv6 address"
  | .invalidDomainName => "invalid international domain name"
  | .invalidHostCharacter => "invalid domain character"
  | .relativeWithoutBase => "relative URL without a base"
  | .baseWithoutSegments => "relative URL with a cannot-be-a-base base"

end ContentClient
