import ContentClient.Text.Case
import ContentClient.Url.Basic

/-!
# Path segments

How the path of a URL grows while it is read. A segment of one dot stands for the segment before it
and one of two dots takes that segment away, also where the dots are written as escapes. A path that
ends in dots ends in a slash.

A segment of a letter and a colon or a bar is a **drive letter**, which dots do not take away. The
drive letter that opens the path of a file is written with a colon.
-/

namespace ContentClient.UrlPath

/-- Whether a segment stands for the segment before it. -/
def isSingleDot (segment : List Char) : Bool :=
  let segment := Text.lower segment
  segment = ['.'] || segment = ['%', '2', 'e']

/-- Whether a segment takes the segment before it away. -/
def isDoubleDot (segment : List Char) : Bool :=
  let segment := Text.lower segment
  segment = ['.', '.'] || segment = ['.', '%', '2', 'e'] || segment = ['%', '2', 'e', '.'] ||
    segment = ['%', '2', 'e', '%', '2', 'e']

/-- Whether a segment is a letter and a colon or a bar. -/
def isDriveLetter : List Char → Bool
  | [c, d] => c.isAlpha && (d == ':' || d == '|')
  | _ => false

/-- Whether a segment is a letter and a colon. -/
def isNormalDrive : List Char → Bool
  | [c, ':'] => c.isAlpha
  | _ => false

/-- Whether a drive letter with a colon opens a path. -/
def opensWithDrive (path : List String) : Bool :=
  path.head?.any fun segment => isNormalDrive segment.toList

/-- The path after a segment of two dots, which takes the last segment away unless that is a drive
letter. -/
def shorten (path : List String) : List String :=
  if path.getLast?.any fun segment => isDriveLetter segment.toList then path else path.dropLast

/-- A segment as the path keeps it. The drive letter that opens the path of a file has a colon. -/
def keep (kind : SchemeKind) (path : List String) (segment : List Char) : String :=
  if kind = .file ∧ path.isEmpty ∧ isDriveLetter segment then
    String.ofList (segment.take 1 ++ [':'])
  else String.ofList (Escape.encode Escape.inPath segment)

/-- The path after one more segment, which may be the last one. -/
def push (kind : SchemeKind) (isLast : Bool) (path : List String) (segment : List Char) :
    List String :=
  let close (path : List String) := if isLast then path ++ [""] else path
  if isDoubleDot segment then close (shorten path)
  else if isSingleDot segment then close path
  else path ++ [keep kind path segment]

/-- The path after all of a list of segments. -/
def pushAll (kind : SchemeKind) : (path : List String) → List (List Char) → List String
  | path, [] => path
  | path, [segment] => push kind true path segment
  | path, segment :: rest => pushAll kind (push kind false path segment) rest

/-- The segments of a text between its separators. -/
def split (kind : SchemeKind) : List Char → List (List Char)
  | [] => [[]]
  | c :: rest =>
    if kind.isSlash c then [] :: split kind rest
    else
      match split kind rest with
      | [] => [[c]]
      | segment :: others => (c :: segment) :: others

/-- A path without the empty segments that open it; an empty path keeps one. -/
def dropLeadingEmpty : List String → List String
  | "" :: next :: rest => dropLeadingEmpty (next :: rest)
  | path => path

/-- The path that a text adds to a path. The paths of files do not open with empty segments. -/
def append (kind : SchemeKind) (path : List String) (text : List Char) : List String :=
  let path := pushAll kind path (split kind text)
  if kind = .file then dropLeadingEmpty path else path

/-- The path behind an authority. A path of the web always has a segment. -/
def ofRoot (kind : SchemeKind) (text : List Char) : List String :=
  match text with
  | [] => if kind.isSpecial then [""] else []
  | c :: rest => append kind [] (if kind.isSlash c then rest else c :: rest)

end ContentClient.UrlPath
