import ContentClient.Http.Link

/-!
# Scripted servers

A scripted server answers requests in turn with the replies of a list, and keeps what it received.
It reads the whole body of a request before it answers; a request whose body cannot be read to its
end is not received and takes no reply. When no reply is left it reports a failure of its own.
-/

namespace ContentClient

/-- What goes wrong with a reply on its way. -/
inductive ReplyFault where
  /-- Nothing arrives. -/
  | lost
  /-- The head arrives, and the body breaks off. -/
  | truncated
  deriving DecidableEq, Repr

/-- A reply in a script. -/
structure ScriptedReply where
  status : Nat := 200
  headers : Headers := []
  content : Bytes := []
  /-- Whether the head leaves the length of the body open. -/
  chunked : Bool := false
  fault : Option ReplyFault := none

namespace ScriptedReply

/-- The reply when the script is used up. -/
def exhausted : ScriptedReply :=
  { status := 500
    headers := [("Content-Type", "application/json")]
    content := Text.utf8 "\x7b\"error\":\"no mock response available\"\x7d" }

/-- The value of a header field as it arrives. -/
def fieldValue (value : String) : String :=
  String.ofList (Text.trimWhere (fun c => c == ' ' || c == '\t') value.toList)

/-- Whether no body is sent in reply to a method. -/
def isBodiless (r : ScriptedReply) (method : String) : Bool :=
  method == "HEAD" || r.status == 204 || r.status == 304

/-- What arrives in reply to a method. Only a body that is sent can break off. -/
def arrival? (r : ScriptedReply) (method : String) : Option Reply :=
  if r.fault = some .lost then none
  else
    let headers := r.headers.map fun h => (h.1, fieldValue h.2)
    if r.isBodiless method then some { status := r.status, headers := headers, length := some 0 }
    else
      some
        { status := r.status
          headers := headers
          content := r.content
          complete := r.fault ≠ some .truncated
          length := if r.chunked then none else some r.content.length }

end ScriptedReply

/-- A request as a server received it. -/
structure ReceivedRequest where
  head : Outgoing
  body : Bytes

/-- A server that answers from a script. -/
structure ScriptedServer where
  replies : List ScriptedReply
  /-- The requests received so far, oldest first. -/
  received : List ReceivedRequest := []

namespace ScriptedServer

/-- Takes a request in, and the reply to it off the script. -/
def receive (s : ScriptedServer) (head : Outgoing) (body : Bytes) : Option Reply × ScriptedServer :=
  let reply := s.replies.head?.getD .exhausted
  (reply.arrival? head.method, ⟨s.replies.tail, s.received ++ [⟨head, body⟩]⟩)

end ScriptedServer

/-- The link to a scripted server. -/
def Link.scripted : Link ScriptedServer := fun head server =>
  .drain fun body =>
    match body with
    | .error _ => .finish none server
    | .ok bytes =>
      let (reply, server) := server.receive head bytes
      .finish reply server

end ContentClient
