import ContentClient.Url.Address
import ContentClient.Url.Domain
import ContentClient.Url.Error
import ContentClient.Url.Escape

/-!
# Hosts

The host of a URL is a name or a numeric address. The schemes of the web take a domain name, which
is folded to lower case, and read a host whose last label is a number as an IPv4 address. Other
schemes take a name as it is.
-/

namespace ContentClient

/-- The host of a URL. -/
inductive Host where
  /-- A name, which may be empty. -/
  | name (text : String)
  | ipv4 (address : Nat)
  | ipv6 (groups : List Nat)
  deriving DecidableEq, Repr

namespace Host

/-- The empty name. -/
def empty : Host := .name ""

/-- The host as a URL shows it. -/
def text : Host → String
  | .name text => text
  | .ipv4 address => Ipv4.text address
  | .ipv6 groups => "[" ++ Ipv6.text groups ++ "]"

/-- A host that opens with a bracket, which is not part of `rest`. -/
def bracketed (rest : List Char) : Except UrlError Host :=
  if rest.getLast? = some ']' then
    match Ipv6.parse? rest.dropLast with
    | some groups => .ok (.ipv6 groups)
    | none => .error .invalidIpv6
  else .error .invalidIpv6

/-- A domain name or an IPv4 address, in the form for which it stands. -/
def ofDomain (name : String) : Except UrlError Host :=
  if name.isEmpty then .error .emptyHost
  else if Ipv4.isNumeric name.toList then
    match Ipv4.parse? name.toList with
    | some address => .ok (.ipv4 address)
    | none => .error .invalidIpv4
  else .ok (.name name)

/-- A host of the web, which may hold percent escapes. -/
def parse (s : List Char) : Except UrlError Host :=
  match s with
  | '[' :: rest => bracketed rest
  | _ =>
    match (Escape.decode? (String.ofList s)).bind Domain.ofText? with
    | none => .error .invalidDomainName
    | some domain => ofDomain domain

/-- Whether no host can hold a character. -/
def isForbidden (c : Char) : Bool :=
  ['\x00', '\t', '\n', '\r', ' ', '#', '/', ':', '<', '>', '?', '@', '[', '\\', ']', '^',
    '|'].contains c

/-- A host of a scheme about which nothing is known. -/
def parseVerbatim (s : List Char) : Except UrlError Host :=
  match s with
  | '[' :: rest => bracketed rest
  | _ =>
    if s.any isForbidden then .error .invalidHostCharacter
    else .ok (.name (String.ofList (Escape.encode Escape.isControl s)))

end Host

end ContentClient
