import ContentClient.Url.Host
import ContentClient.Url.Escape

/-!
# URLs

A URL names a resource by a scheme, an authority, a path, a query and a fragment. Its components are
kept in the form in which its text shows them, with all escapes in place.

The scheme decides how the rest of a URL is read. The **schemes of the web** have a host and a path
of segments, in which a backslash separates as a slash does; files are among them.
-/

namespace ContentClient

/-- How a scheme shapes the rest of a URL. -/
inductive SchemeKind where
  | file
  | web
  | other
  deriving DecidableEq, Repr

namespace SchemeKind

/-- The kind of a scheme. -/
def ofScheme (scheme : String) : SchemeKind :=
  if scheme = "file" then .file
  else if ["http", "https", "ws", "wss", "ftp"].contains scheme then .web
  else .other

/-- Whether URLs of the kind follow the rules of the web. -/
def isSpecial : SchemeKind → Bool
  | .other => false
  | _ => true

/-- Whether a character separates the segments of a path. -/
def isSlash (kind : SchemeKind) (c : Char) : Bool := c == '/' || (kind.isSpecial && c == '\\')

end SchemeKind

/-- The port of a scheme that a URL leaves out. -/
def defaultPort? (scheme : String) : Option Nat :=
  if scheme = "http" ∨ scheme = "ws" then some 80
  else if scheme = "https" ∨ scheme = "wss" then some 443
  else if scheme = "ftp" then some 21
  else none

/-- Where a resource is served, and for whom. -/
structure Authority where
  username : String := ""
  password : Option String := none
  host : Host
  /-- The port, unless it is that of the scheme. -/
  port : Option Nat := none
  deriving DecidableEq, Repr

namespace Authority

/-- Whether the authority names a user or a password. -/
def hasCredentials (a : Authority) : Bool := !a.username.isEmpty || a.password.isSome

/-- Whether the credentials can be read: the user name is text, and either it is not empty or the
password is text. -/
def hasReadableCredentials (a : Authority) : Bool :=
  match Escape.decode? a.username with
  | none => false
  | some user => !user.isEmpty || (a.password.bind Escape.decode?).isSome

/-- The authority as a URL shows it. -/
def text (a : Authority) : String :=
  let password := match a.password with
    | none => ""
    | some password => ":" ++ password
  let port := match a.port with
    | none => ""
    | some port => ":" ++ toString port
  (if a.hasCredentials then a.username ++ password ++ "@" else "") ++ a.host.text ++ port

end Authority

/-- The path of a URL. -/
inductive UrlPath where
  /-- A text that no slash opens, against which nothing can be resolved. -/
  | text (text : String)
  /-- Segments, each behind a slash. -/
  | segments (segments : List String)
  deriving DecidableEq, Repr

/-- A URL. -/
structure Url where
  scheme : String
  authority : Option Authority := none
  path : UrlPath
  query : Option String := none
  fragment : Option String := none
  deriving DecidableEq, Repr

namespace Url

/-- The kind of the scheme. -/
def kind (u : Url) : SchemeKind := .ofScheme u.scheme

/-- The host, if the URL has an authority. -/
def host? (u : Url) : Option Host := u.authority.map (·.host)

/-- The port that is not the scheme's own. -/
def port? (u : Url) : Option Nat := u.authority.bind (·.port)

/-- The segments of the path. -/
def segments (u : Url) : List String :=
  match u.path with
  | .text _ => []
  | .segments segments => segments

/-- Whether references cannot be resolved against the URL. -/
def hasTextPath (u : Url) : Bool :=
  match u.path with
  | .text _ => true
  | .segments _ => false

/-- Segments as a URL shows them. -/
def segmentsText (segments : List String) : String := String.join (segments.map ("/" ++ ·))

/-- The path as a URL shows it. Without an authority, a path that two slashes open is set off from
the scheme by a dot, for it would read as an authority. -/
def pathText (u : Url) : String :=
  match u.path with
  | .text text => text
  | .segments segments =>
    let needsDot := u.authority.isNone && segments.head? == some "" && 1 < segments.length
    (if needsDot then "/." else "") ++ segmentsText segments

/-- The URL as text. -/
def text (u : Url) : String :=
  let authority := match u.authority with
    | none => ""
    | some authority => "//" ++ authority.text
  let query := match u.query with
    | none => ""
    | some query => "?" ++ query
  let fragment := match u.fragment with
    | none => ""
    | some fragment => "#" ++ fragment
  u.scheme ++ ":" ++ authority ++ u.pathText ++ query ++ fragment

/-- The URL without a user name and a password, if these can be read. -/
def withoutCredentials (u : Url) : Url :=
  { u with authority := u.authority.map fun a =>
      if a.hasReadableCredentials then { host := a.host, port := a.port } else a }

/-- The URL with pairs in form encoding at the end of its query. The rest of it stays. -/
def appendPairs (u : Url) (pairs : List (String × String)) : Url :=
  let present := u.query.toList.filter (!·.isEmpty)
  { u with query := some ("&".intercalate (present ++ pairs.map Form.pair)) }

end Url

end ContentClient
