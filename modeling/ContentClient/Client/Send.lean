import ContentClient.Backoff.Retry
import ContentClient.Client.Basic
import ContentClient.Http.Link

/-!
# Sending

A request is sent over a link in as many attempts as it takes. Every attempt prepares the body, puts
the header fields together, and lets the link carry the request out; between attempts the body is
reset.

Calls of one run share a `Session`: the clocks, the state of the link, and the progress reported.
What a build for tracing reports about requests and bodies along the way changes none of this, and
is left out.
-/

namespace ContentClient

/-- What the calls of one run share. -/
structure Session (σ : Type) where
  clocks : Timeline
  link : σ
  /-- The progress reported so far, oldest first. -/
  reports : List Report := []

/-- A request that is being sent. -/
structure Sending (σ : Type) where
  request : Request
  link : σ
  reports : List Report

namespace Client

variable {σ : Type}

/-- The user on whose behalf requests are made that do not name their own, as a header field. -/
def asUserFields (c : Client) (r : Request) : Headers :=
  match c.options.asUser with
  | none => []
  | some user => if (r.headers.first? asUserHeader).isSome then [] else [(asUserHeader, user)]

/-- The header fields of every attempt: the identification of the client and the authorization, the
default fields, and those of the request. -/
def headersFor (c : Client) (r : Request) : Headers :=
  [(clientInfoHeader, clientInfo), ("Authorization", c.authorization)] ++
    c.options.defaultHeaders ++ c.asUserFields r ++ r.headers

/-- The head of a request as it goes out. -/
def outgoing (c : Client) (r : Request) : Outgoing :=
  ⟨r.method, r.url, c.headersFor r, r.timeout⟩

/-- One attempt. A body that cannot be prepared and a request that cannot be built end it at once,
the latter with the body already prepared. A failure to read the body is a failure of the link. -/
def attempt (link : Link σ) (c : Client) (s : Sending σ) : Except Failure Response × Sending σ :=
  match s.request.body.prepare with
  | (.error e, body) =>
    (.error { error := e }, { s with request := { s.request with body := body } })
  | (.ok delivery, body) =>
    let out := c.outgoing s.request
    match out.fault? with
    | some fault =>
      (.error { error := .configuration fault },
        { s with request := { s.request with body := body } })
    | none =>
      let (reply, state, flow) := (link out s.link).run { delivery := delivery, body := body }
      let result := match reply with
        | none => .error { error := .network 1 }
        | some reply => reply.outcome out.method
      (result,
        { request := { s.request with body := flow.body }
          link := state
          reports := s.reports ++ flow.reports })

/-- Resets the body of a request. -/
def resetBody (s : Sending σ) : Except IoError Bool × Sending σ :=
  let (result, body) := s.request.body.reset
  (result, { s with request := { s.request with body := body } })

/-- The attempts of a client over a link. -/
def attempting (link : Link σ) (c : Client) : Attempting (Sending σ) Response :=
  ⟨c.attempt link, resetBody⟩

/-- The retry bookkeeping of a request: a fresh copy of its own, or that of the client. -/
def counterFor (c : Client) (r : Request) : BackoffCounter :=
  match r.backoff with
  | some counter => counter.reset
  | none => c.counter

/-- Sends a request. -/
def send (link : Link σ) (c : Client) (r : Request) (s : Session σ) :
    Except ApiError Response × Request × Session σ :=
  let sending : Sending σ := ⟨r, s.link, s.reports⟩
  let done := (c.attempting link).run 0 (c.counterFor r) sending s.clocks
  (done.result, { done.state.request with attempts := done.attempts },
    ⟨done.clocks, done.state.link, done.state.reports⟩)

/-- Gets a path of the API and decodes the JSON of the response. -/
def getJson (link : Link σ) (c : Client) (path : String) (shape : Json.Shape) (s : Session σ) :
    Except ApiError Json × Session σ :=
  match c.apiUrl path with
  | .error e => (.error e, s)
  | .ok url =>
    let (result, _, s) := c.send link { method := "GET", url := url } s
    (result.bind (·.json shape), s)

/-- Sends JSON to a path of the API and decodes the JSON of the response. -/
def sendJson (link : Link σ) (c : Client) (method path : String) (body : Json) (shape : Json.Shape)
    (s : Session σ) : Except ApiError Json × Session σ :=
  match c.apiUrl path with
  | .error e => (.error e, s)
  | .ok url =>
    let request : Request := { method := method, url := url }
    let (result, _, s) := c.send link (request.setJson body) s
    (result.bind (·.json shape), s)

end Client

end ContentClient
