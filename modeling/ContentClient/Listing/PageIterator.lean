import ContentClient.Client.Send
import ContentClient.Listing.Listing
import ContentClient.Listing.Page

/-!
# Walking a listing

A page iterator hands out the entries of a listing one by one, in the order of the server. It
fetches a page only when it has no entry left to hand out, so no request is made before the first
entry is asked for. A failure is handed out once, and ends it; once it has ended it makes no more
requests.
-/

namespace ContentClient

/-- Where a walk stands. -/
inductive PageState where
  /-- Nothing has been fetched. -/
  | init
  /-- A page has been fetched. -/
  | hasPage
  /-- All entries have been handed out. -/
  | exhausted
  /-- A failure has been handed out. -/
  | failed
  deriving DecidableEq, Repr

/-- The name of a state. -/
def PageState.name : PageState → String
  | .init => "Init"
  | .hasPage => "HasPage"
  | .exhausted => "Exhausted"
  | .failed => "Failed"

/-- A walk through a listing. -/
structure PageIterator where
  client : Client
  url : Url
  item : Json.Shape
  pager : Pager
  state : PageState := .init
  /-- The fetched entries that have not been handed out. -/
  buffer : List Json := []
  /-- The number of pages asked for. -/
  pagesFetched : Nat := 0

/-- A new walk through a listing. -/
def Listing.iterator (l : Listing) : PageIterator :=
  { client := l.client, url := l.url, item := l.item, pager := .ofPaging l.paging }

namespace PageIterator

variable {σ : Type}

/-- The URL of the next page. -/
def pageUrl (it : PageIterator) : Url := it.url.appendPairs it.pager.queryPairs

/-- The page that the response to a request holds. -/
def pageOf (result : Except ApiError Response) : Except ApiError Page :=
  result.bind (·.decode Page.ofText)

/-- The walk after a page. -/
def receive (it : PageIterator) (page : Page) : PageIterator :=
  { it with
    pager := it.pager.afterPage page
    state := .hasPage
    buffer := it.buffer ++ page.entries }

/-- The walk after a failure, which is handed out. -/
def fail (it : PageIterator) (e : ApiError) : Option (Except ApiError Json) × PageIterator :=
  (some (.error e), { it with state := .failed, buffer := [] })

/-- Hands out the next fetched entry, or the end if there is none. -/
def take (it : PageIterator) : Option (Except ApiError Json) × PageIterator :=
  match it.buffer with
  | [] => (none, { it with state := .exhausted })
  | raw :: rest =>
    let it := { it with buffer := rest }
    match it.item.decodeValue raw with
    | .ok entry => (some (.ok entry), it)
    | .error e => it.fail (.deserialization (.invalidEntry e.message))

/-- Asks for the next page and hands out its first entry. A page without entries is the last one. -/
def fetchAndTake (link : Link σ) (it : PageIterator) (s : Session σ) :
    Option (Except ApiError Json) × PageIterator × Session σ :=
  let request : Request := { method := "GET", url := it.pageUrl }
  let (result, _, s) := it.client.send link request s
  let it := { it with pagesFetched := it.pagesFetched + 1 }
  match pageOf result with
  | .error e =>
    let (last, it) := it.fail e
    (last, it, s)
  | .ok page =>
    let (first, it) := (it.receive page).take
    (first, it, s)

/-- The next entry of the listing, a failure, or none at the end. -/
def next (link : Link σ) (it : PageIterator) (s : Session σ) :
    Option (Except ApiError Json) × PageIterator × Session σ :=
  match it.state with
  | .exhausted | .failed => (none, it, s)
  | .init => it.fetchAndTake link s
  | .hasPage =>
    if it.buffer.isEmpty && it.pager.hasMore then it.fetchAndTake link s
    else
      let (entry, it) := it.take
      (entry, it, s)

/-- All that a walk hands out, at most `rounds` entries. -/
def collect (link : Link σ) :
    (rounds : Nat) → PageIterator → Session σ →
      List (Except ApiError Json) × PageIterator × Session σ
  | 0, it, s => ([], it, s)
  | rounds + 1, it, s =>
    match it.next link s with
    | (none, it, s) => ([], it, s)
    | (some entry, it, s) =>
      let (entries, it, s) := collect link rounds it s
      (entry :: entries, it, s)

/-- The walk in diagnostics. -/
def describe (it : PageIterator) : String :=
  Text.Notation.record "PageIterator"
    [("url", Text.quoted it.url.text), ("pager", it.pager.describe), ("state", it.state.name),
      ("buffered", toString it.buffer.length), ("pages_fetched", toString it.pagesFetched)]

/-- A walk that has ended stays ended and asks for nothing. -/
theorem next_of_ended (link : Link σ) {it : PageIterator} (s : Session σ)
    (h : it.state = .exhausted ∨ it.state = .failed) : it.next link s = (none, it, s) := by
  rcases h with h | h <;> simp [next, h]

end PageIterator

end ContentClient
