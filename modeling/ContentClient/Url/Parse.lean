import ContentClient.Text.Blank
import ContentClient.Url.Segment

/-!
# Reading URLs

`Url.parse` reads a URL, and `Url.join` resolves a reference against one. Both read from left to
right: a scheme, an authority behind two slashes, a path up to a question mark or a number sign,
then a query and a fragment. What a reference leaves out is taken from the base.

Control characters and blanks around a text, and tabs and line breaks anywhere in it, are not part
of a URL.
-/

namespace ContentClient

namespace Url

/-- A text without what is not part of a URL. -/
def clean (s : List Char) : List Char :=
  (Text.trimWhere (·.toNat ≤ 0x20) s).filter fun c => c ≠ '\t' ∧ c ≠ '\n' ∧ c ≠ '\r'

/-- Whether a character may stand in a scheme behind its first letter. -/
def isSchemeChar (c : Char) : Bool := c.isAlphanum || c == '+' || c == '-' || c == '.'

/-- The scheme in small letters and what follows its colon, if a text opens with one. -/
def splitScheme? (s : List Char) : Option (String × List Char) :=
  match s with
  | [] => none
  | c :: _ =>
    match c.isAlpha, s.dropWhile isSchemeChar with
    | true, ':' :: rest =>
      some (String.ofList (Text.lower (s.takeWhile isSchemeChar)), rest)
    | _, _ => none

/-! ### Query and fragment -/

/-- Whether a character ends a path. -/
def endsPath (c : Char) : Bool := c == '?' || c == '#'

/-- The URL with the fragment that a text opens. -/
def withFragment (u : Url) : List Char → Url
  | '#' :: rest =>
    { u with fragment := some (String.ofList (Escape.encode Escape.inFragment rest)) }
  | _ => { u with fragment := none }

/-- The URL with the query and the fragment that a text opens. -/
def withEnding (u : Url) : List Char → Url
  | '?' :: rest =>
    let query := Escape.encode (Escape.inQuery u.kind.isSpecial) (rest.takeWhile (· ≠ '#'))
    ({ u with query := some (String.ofList query) }).withFragment (rest.dropWhile (· ≠ '#'))
  | rest => ({ u with query := none }).withFragment rest

/-- The path that a text opens, in front of its query and its fragment. -/
def pathPart (s : List Char) : List Char := s.takeWhile (!endsPath ·)

/-- The query and the fragment of a text. -/
def endingPart (s : List Char) : List Char := s.dropWhile (!endsPath ·)

/-! ### Authority -/

/-- Whether a character ends an authority. -/
def endsAuthority (kind : SchemeKind) (c : Char) : Bool := kind.isSlash c || endsPath c

/-- A text in front of and behind the last of a character. -/
def splitLast? (sep : Char) (s : List Char) : Option (List Char × List Char) :=
  let behind := (s.reverse.takeWhile (· ≠ sep)).reverse
  if behind.length = s.length then none else some (s.take (s.length - behind.length - 1), behind)

/-- The host that a text opens: all up to a colon outside brackets. -/
def hostPart : (inside : Bool) → List Char → List Char
  | _, [] => []
  | inside, c :: rest =>
    if c = ':' ∧ !inside then []
    else c :: hostPart (if c = '[' then true else if c = ']' then false else inside) rest

/-- A port and what follows it. Only a backslash can end one within an authority. -/
def readPort (scheme : String) (s : List Char) : Except UrlError (Option Nat × List Char) :=
  let digits := s.takeWhile Char.isDigit
  let rest := s.drop digits.length
  let port := (Text.digitsValue? 10 0 digits).getD 0
  if 65535 < port then .error .invalidPort
  else
    match rest with
    | [] | '\\' :: _ =>
      .ok (if digits.isEmpty || defaultPort? scheme = some port then none else some port, rest)
    | _ => .error .invalidPort

/-- A user name and a password in front of a host. A password that is empty is none. -/
def readUserinfo (s : List Char) : String × Option String :=
  let user := s.takeWhile (· ≠ ':')
  let password := s.drop (user.length + 1)
  let encode (cs : List Char) := String.ofList (Escape.encode Escape.inUserinfo cs)
  (encode user, if password.isEmpty then none else some (encode password))

/-- The host of an authority, by the kind of the scheme. -/
def readHost (kind : SchemeKind) (s : List Char) : Except UrlError Host :=
  if kind.isSpecial then if s.isEmpty then .error .emptyHost else Host.parse s
  else Host.parseVerbatim s

/-- A host and a port, and what follows them. A port needs a host. -/
def readHostAndPort (scheme : String) (s : List Char) :
    Except UrlError (Host × Option Nat × List Char) := do
  let part := hostPart false s
  let host ← readHost (.ofScheme scheme) part
  match s.drop part.length with
  | ':' :: rest =>
    if host = .empty then .error .emptyHost
    else
      let (port, rest) ← readPort scheme rest
      return (host, port, rest)
  | rest => return (host, none, rest)

/-- An authority and what follows it. Credentials need a host. -/
def readAuthority (scheme : String) (s : List Char) : Except UrlError (Authority × List Char) := do
  let kind := SchemeKind.ofScheme scheme
  let text := s.takeWhile (!endsAuthority kind ·)
  let behind := s.dropWhile (!endsAuthority kind ·)
  match splitLast? '@' text with
  | none =>
    let (host, port, rest) ← readHostAndPort scheme text
    return ({ host := host, port := port }, rest ++ behind)
  | some (userinfo, text) =>
    if userinfo.isEmpty ∧ text.isEmpty ∧ !behind.isEmpty then .error .emptyHost
    else
      let (username, password) := readUserinfo userinfo
      let (host, port, rest) ← readHostAndPort scheme text
      let authority : Authority :=
        { username := username, password := password, host := host, port := port }
      if host = .empty ∧ authority.hasCredentials then .error .emptyHost
      else return (authority, rest ++ behind)

/-- Everything behind the two slashes in front of an authority. -/
def readBehindSlashes (scheme : String) (s : List Char) : Except UrlError Url := do
  let (authority, rest) ← readAuthority scheme s
  let path := UrlPath.ofRoot (.ofScheme scheme) (pathPart rest)
  let u : Url := { scheme := scheme, authority := some authority, path := .segments path }
  return u.withEnding (endingPart rest)

/-! ### Files -/

/-- Whether a text opens with a drive letter that is a whole segment. -/
def opensWithDrive (s : List Char) : Bool :=
  UrlPath.isDriveLetter (s.take 2) &&
    match s.drop 2 with
    | [] => true
    | c :: _ => SchemeKind.file.isSlash c || endsPath c

/-- A file on a host, with a path below `root`. -/
def ofFile (host : Host) (root : List String) (s : List Char) : Url :=
  let path := UrlPath.append .file root (pathPart s)
  let u : Url :=
    { scheme := "file", authority := some { host := host }, path := .segments path }
  u.withEnding (endingPart s)

/-- A file on a host that is named. One slash opens its path, and a drive letter behind that slash
belongs to the machine at hand. -/
def ofRemoteFile (host : Host) (s : List Char) : Url :=
  let part := pathPart s
  let path := UrlPath.pushAll .file [] (UrlPath.split .file (part.drop 1))
  ofFile (if UrlPath.opensWithDrive path then .empty else host) [] (part.drop 1 ++ endingPart s)

/-- The host of a file. The machine at hand needs no name. -/
def readFileHost (s : List Char) : Except UrlError Host :=
  if s.isEmpty then .ok .empty
  else (Host.parse s).map fun host => if host = .name "localhost" then .empty else host

/-- A file behind its scheme and two slashes. A drive letter is no host. -/
def readFileBehindSlashes (s : List Char) : Except UrlError Url := do
  let part := s.takeWhile (!endsAuthority .file ·)
  if UrlPath.isDriveLetter part then return ofFile .empty [] s
  let host ← readFileHost part
  let rest := s.drop part.length
  return if host = .empty then ofFile .empty [] rest else ofRemoteFile host rest

/-- A file behind its scheme, or a reference to one. A drive letter, of the text or else of the
base, takes the place of the host. -/
def readFile (base : Option Url) (s : List Char) : Except UrlError Url :=
  let host := (base.bind host?).getD .empty
  let root := (base.map segments).getD []
  match s.takeWhile SchemeKind.file.isSlash with
  | _ :: _ :: _ => readFileBehindSlashes (s.drop 2)
  | [_] =>
    if opensWithDrive (s.drop 1) then .ok (ofFile .empty [] s)
    else if UrlPath.opensWithDrive root then .ok (ofFile .empty (root.take 1) (s.drop 1))
    else .ok (ofFile host [] s)
  | [] =>
    match base, s with
    | none, _ => .ok (ofFile .empty [] s)
    | some u, [] => .ok { u with fragment := none }
    | some u, '?' :: _ => .ok (u.withEnding s)
    | some u, '#' :: _ => .ok (u.withFragment s)
    | some _, _ =>
      if opensWithDrive s then .ok (ofFile .empty [] s)
      else
        let isDrive := root.length = 1 && UrlPath.opensWithDrive root
        .ok (ofFile host (if isDrive then root else root.dropLast) s)

/-! ### References -/

/-- Whether a character is a slash of either sort. -/
def isAnySlash (c : Char) : Bool := c == '/' || c == '\\'

/-- Resolves a reference without a scheme against a base whose path has segments. -/
def resolve (base : Url) (s : List Char) : Except UrlError Url :=
  match s.takeWhile isAnySlash with
  | _ :: _ :: _ =>
    readBehindSlashes base.scheme
      (if ['/', '/'].isPrefixOf s then s.drop 2 else s.dropWhile isAnySlash)
  | [_] =>
    let rest := s.drop 1
    let path := UrlPath.append base.kind [] (pathPart rest)
    .ok (({ base with path := .segments path }).withEnding (endingPart rest))
  | [] =>
    match s with
    | [] => .ok { base with fragment := none }
    | '?' :: _ => .ok (base.withEnding s)
    | '#' :: _ => .ok (base.withFragment s)
    | _ =>
      let path := UrlPath.append base.kind base.segments.dropLast (pathPart s)
      .ok (({ base with path := .segments path }).withEnding (endingPart s))

/-- What follows a scheme about which nothing is known. -/
def readOther (scheme : String) (s : List Char) : Except UrlError Url :=
  match s with
  | '/' :: '/' :: rest => readBehindSlashes scheme rest
  | '/' :: rest =>
    let path := UrlPath.append .other [] (pathPart rest)
    .ok (({ scheme := scheme, path := .segments path } : Url).withEnding (endingPart rest))
  | _ =>
    let path := String.ofList (Escape.encode Escape.isControl (pathPart s))
    .ok (({ scheme := scheme, path := .text path } : Url).withEnding (endingPart s))

/-- What follows a scheme. A scheme of the web without two slashes is passed over if the base has
the same one. -/
def readScheme (base : Option Url) (scheme : String) (s : List Char) : Except UrlError Url :=
  match SchemeKind.ofScheme scheme with
  | .file => readFile (base.filter (·.scheme = "file")) s
  | .web =>
    let slashes := (s.takeWhile isAnySlash).length
    match base.filter fun u => slashes < 2 ∧ u.scheme = scheme with
    | some u => resolve u s
    | none => readBehindSlashes scheme (s.drop slashes)
  | .other => readOther scheme s

/-- A reference without a scheme. -/
def readReference (base : Option Url) (s : List Char) : Except UrlError Url :=
  match base with
  | none => .error .relativeWithoutBase
  | some u =>
    if s.head? = some '#' then .ok (u.withFragment s)
    else if u.hasTextPath then .error .baseWithoutSegments
    else if u.kind = .file then readFile base s
    else resolve u s

/-- A text without blanks, read against a base if there is one. -/
def readClean (base : Option Url) (s : List Char) : Except UrlError Url :=
  match splitScheme? s with
  | some (scheme, rest) => readScheme base scheme rest
  | none => readReference base s

/-- The URL that a text writes. -/
def parse (s : String) : Except UrlError Url := readClean none (clean s.toList)

/-- The URL to which a reference leads from a base. -/
def join (base : Url) (s : String) : Except UrlError Url := readClean (some base) (clean s.toList)

end Url

end ContentClient
