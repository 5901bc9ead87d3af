import ContentClient.ApiError
import ContentClient.Http.Headers
import ContentClient.Json.Shape

/-!
# Responses

The body of a successful response is decided once, when the response arrives: empty, text that has
been read, or a stream of bytes that is left to the caller.
-/

namespace ContentClient

/-- The body of a response. -/
inductive ResponseBody where
  | empty
  /-- JSON or other text, read when the response arrived. -/
  | text (content : String)
  /-- Any other content. A stream that is not `complete` fails when it is read. -/
  | stream (content : Bytes) (complete : Bool)

namespace ResponseBody

/-- The body in diagnostics. -/
def describe : ResponseBody → String
  | .empty => "Empty"
  | .text content => Text.Notation.tagged "Text" (Text.quoted content)
  | .stream _ _ => "Stream"

/-- All bytes of the body; none if it breaks off. -/
def read? : ResponseBody → Option Bytes
  | .empty => some []
  | .text content => some (Text.utf8 content)
  | .stream content complete => if complete then some content else none

end ResponseBody

/-- A response that reports success. -/
structure Response where
  status : Nat
  headers : Headers
  body : ResponseBody

namespace Response

/-- The text of the body. An empty body reads as empty text. -/
def text (r : Response) : Except ApiError String :=
  match r.body with
  | .text content => .ok content
  | .empty => .ok ""
  | .stream _ _ => .error (.deserialization .notText)

/-- The body decoded from JSON by `decode`. -/
def decode {α : Type} (r : Response) (decode : String → Except JsonError α) : Except ApiError α :=
  match r.text with
  | .error e => .error e
  | .ok text =>
    match decode text with
    | .ok x => .ok x
    | .error e => .error (.deserialization (.invalidJson e.message text))

/-- The body as a JSON value of a shape. -/
def json (r : Response) (shape : Json.Shape) : Except ApiError Json := r.decode shape.decodeText

end Response

/-- Whether a word occurs in a text. -/
def occursIn (word : List Char) : List Char → Bool
  | [] => word.isEmpty
  | c :: cs => word.isPrefixOf (c :: cs) || occursIn word cs

/-- Whether a content type, in lower case, is read as text: JSON of any sort, and plain text. -/
def isTextual (contentType : List Char) : Bool :=
  occursIn ['j', 's', 'o', 'n'] contentType || ['t', 'e', 'x', 't', '/'].isPrefixOf contentType

end ContentClient
