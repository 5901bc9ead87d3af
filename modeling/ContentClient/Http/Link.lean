import ContentClient.Http.Reply
import ContentClient.Http.Request

/-!
# Links

A link carries requests to a server. What it does with one request is an **exchange**: it reads from
the body as often and as far as it likes, and ends with a reply or without one. A link may keep a
state from one exchange to the next.

A link stands for the transport of one client, set up with the timeouts and the proxy of its
options. How long it waits for a server before it ends an exchange without a reply is its own
affair, and so are the compression of bodies and the encryption of the connection.
-/

namespace ContentClient

/-- The head of a request as it goes out. -/
structure Outgoing where
  method : String
  url : Url
  headers : Headers
  /-- The time that the request may take, if it is not that of the client. -/
  timeout : Option Duration := none

namespace Outgoing

/-- Whether a character cannot stand in the host to which a request goes. -/
def isUnsendable (c : Char) : Bool := ['"', '\x7b', '\x7d'].contains c || c.toNat == 0x60

/-- The number of octets that the URL of a request can have. -/
def maxUrlSize : Nat := 65534

/-- Whether there is a transport that can send a request to the URL. -/
def isSendable (u : Url) : Bool :=
  (u.scheme == "http" || u.scheme == "https") &&
    !(u.host?.any fun host => host.text.toList.any isUnsendable) &&
    u.text.utf8ByteSize ≤ maxUrlSize

/-- Why a request cannot be built. A URL has to have a host, header fields have to be well formed,
and there has to be a transport for the URL. Credentials that can be read are not shown. -/
def fault? (o : Outgoing) : Option Misuse :=
  let url := o.url.withoutCredentials
  let hasHost := url.host?.any (· ≠ .empty)
  let isWellFormed := o.headers.all fun h => isFieldName h.1 && isFieldValue h.2
  if !hasHost then some (.unbuildableRequest (some url.text))
  else if !isWellFormed then some (.unbuildableRequest none)
  else if !isSendable url then some (.unbuildableRequest (some url.text))
  else none

end Outgoing

/-- What a link does with a request. -/
inductive Exchange (σ : Type) where
  /-- Reads at most `size` bytes of the body. -/
  | read (size : Nat) (next : Except IoError Bytes → Exchange σ)
  /-- Reads the whole body. -/
  | drain (next : Except IoError Bytes → Exchange σ)
  /-- Ends with a reply, or with none if the server cannot be reached. -/
  | finish (reply : Option Reply) (state : σ)

/-- A link with the state `σ`. -/
abbrev Link (σ : Type) := Outgoing → σ → Exchange σ

/-- The size of the buffer in which a link reads. -/
def linkBufferSize : Nat := 8192

namespace Exchange

variable {σ : Type}

/-- Carries out an exchange with the body that flows through it. -/
def run : Exchange σ → Flow → Option Reply × σ × Flow
  | .finish reply state, f => (reply, state, f)
  | .read size next, f => (next (f.read size).1).run (f.read size).2
  | .drain next, f => (next (f.readAll linkBufferSize).1).run (f.readAll linkBufferSize).2

end Exchange

namespace Link

variable {σ : Type}

/-- A link to a server that cannot be reached. While it tries to connect it fetches what it would
send first: a piece of the body, and, unless the body has ended, another one into the room that is
left in the buffer, or into a new buffer if there is none. -/
def unreachable : Link σ := fun _ state =>
  .read linkBufferSize fun first =>
    match first with
    | .ok (b :: bytes) =>
      let room := linkBufferSize - (b :: bytes).length
      .read (if room = 0 then linkBufferSize else room) fun _ => .finish none state
    | _ => .finish none state

end Link

end ContentClient
