import ContentClient.Client.Basic
import ContentClient.Json.Shape
import ContentClient.Listing.Paging

/-!
# Listings

A listing is a list endpoint with everything that is asked of it but the page. It is checked when it
is made, and can be walked any number of times.
-/

namespace ContentClient

/-- A list endpoint, with the paging that holds unless a query sets another. -/
structure ListEndpoint where
  path : String
  defaultPaging : PagingParameters := default
  /-- The shape of its entries. -/
  item : Json.Shape

/-- A listing that is ready to be walked. -/
structure Listing where
  client : Client
  /-- The URL of every page but for the paging. -/
  url : Url
  paging : PagingParameters
  item : Json.Shape

namespace Listing

/-- The listing at a URL. The page size has to be positive, and a listing by markers cannot be
sorted. -/
def make (client : Client) (url : Url) (query : ListQuery) (defaultPaging : PagingParameters)
    (item : Json.Shape) : Except ApiError Listing := do
  let paging := query.paging.getD defaultPaging
  paging.validate
  if paging.isMarkerBased && !query.sort.isEmpty then .error (.configuration .sortedMarkerPaging)
  else
    let pairs := query.queryPairs
    let url := if pairs.isEmpty then url else url.appendPairs pairs
    return { client, url, paging, item }

/-- The listing in diagnostics. -/
def describe (l : Listing) : String :=
  Text.Notation.record "ResourceIterable"
    [("url", Text.quoted l.url.text), ("paging", l.paging.describe)]

end Listing

namespace Client

/-- The listing of an endpoint. -/
def iterate (c : Client) (endpoint : ListEndpoint) (query : ListQuery) :
    Except ApiError Listing := do
  let url ← c.apiUrl endpoint.path
  Listing.make c url query endpoint.defaultPaging endpoint.item

/-- The listing of a path of the API, by offset paging unless the query sets another. -/
def list (c : Client) (path : String) (query : ListQuery) (item : Json.Shape) :
    Except ApiError Listing :=
  c.iterate { path := path, item := item } query

end Client

end ContentClient
