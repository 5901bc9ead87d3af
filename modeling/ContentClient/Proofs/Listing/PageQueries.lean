import ContentClient.Proofs.Listing.Walk
import ContentClient.Proofs.Url.Query

/-!
# The queries of page requests

A listing puts its query together in two places. The sort, the fields and the parameters are
appended to the URL once, when the listing is made; the pairs of the pager are appended to a copy of
that URL for every page. So the query of a page request stands for the pairs that the URL came with,
those of the listing, and those of the pager at that page, and for nothing else. The main statement
is `make_outcome`.

Two things carry it. Appended pairs read back behind those that were there, whatever is written in
them (`Url.queryPairs_appendPairs`). And a pager keeps its kind and its page size over any number of
pages (`pagerPairs_place`), so that every page is asked for with pairs of the same form.
-/

namespace ContentClient

/-! ### The groups of pairs -/

/-- The pairs for a sort: its field and the direction in capitals, or none if the order is left to
the server. -/
inductive SortPairs : SortParameters → List (String × String) → Prop
  | serverOrder (direction : SortDirection) : SortPairs ⟨none, direction⟩ []
  | ascending (field : String) :
    SortPairs ⟨some field, .ascending⟩ [("sort", field), ("direction", "ASC")]
  | descending (field : String) :
    SortPairs ⟨some field, .descending⟩ [("sort", field), ("direction", "DESC")]

theorem SortParameters.sortPairs : ∀ sort : SortParameters, SortPairs sort sort.queryPairs
  | ⟨none, direction⟩ => .serverOrder direction
  | ⟨some field, .ascending⟩ => .ascending field
  | ⟨some field, .descending⟩ => .descending field

/-- The pairs for the fields: one pair with all of them, or none if there are no fields. -/
inductive FieldPairs : List String → List (String × String) → Prop
  | none : FieldPairs [] []
  | joined (field : String) (fields : List String) :
    FieldPairs (field :: fields) [("fields", ",".intercalate (field :: fields))]

/-- The pairs for a query: those for its sort, those for its fields, and its parameters. -/
inductive ListingPairs (query : ListQuery) : List (String × String) → Prop
  | inOrder {sorting selection : List (String × String)} (sort : SortPairs query.sort sorting)
    (fields : FieldPairs query.fields selection) :
    ListingPairs query (sorting ++ selection ++ query.params)

theorem ListQuery.listingPairs (query : ListQuery) : ListingPairs query query.queryPairs := by
  refine .inOrder query.sort.sortPairs ?_
  cases query.fields with
  | nil => exact .none
  | cons field fields => exact .joined field fields

theorem ListQuery.queryPairs_eq_nil_iff (query : ListQuery) :
    query.queryPairs = [] ↔ query.sort.field = none ∧ query.fields = [] ∧ query.params = [] := by
  unfold queryPairs SortParameters.queryPairs
  cases query.sort.field <;> cases query.fields <;> simp

/-- The pairs for a place of a listing: the page size of its paging, with a position, or with the
marker if there is one. -/
inductive PagerPairs : PagingParameters → Pager → List (String × String) → Prop
  | offset (size start position : Nat) (more : Bool) :
    PagerPairs (.offset size start) (.offset size position more)
      [("limit", toString size), ("offset", toString position)]
  | unmarked (size : Nat) (token : Option String) (more : Bool) :
    PagerPairs (.marker size token) (.marker size none more)
      [("limit", toString size), ("usemarker", "true")]
  | marked (size : Nat) (token : Option String) (marker : String) (more : Bool) :
    PagerPairs (.marker size token) (.marker size (some marker) more)
      [("limit", toString size), ("usemarker", "true"), ("marker", marker)]

namespace PagerPairs

theorem marker (size : Nat) (token : Option String) :
    ∀ (marker : Option String) (more : Bool),
      PagerPairs (.marker size token) (.marker size marker more)
        (Pager.marker size marker more).queryPairs
  | none, more => .unmarked size token more
  | some marker, more => .marked size token marker more

theorem ofPaging : ∀ paging : PagingParameters,
    PagerPairs paging (.ofPaging paging) (Pager.ofPaging paging).queryPairs
  | .offset size start => .offset size start start true
  | .marker size token => marker size token token true

/-- **One page.** Behind a page, a pager asks with pairs of the same form and the same page size. -/
theorem afterPage {paging : PagingParameters} {pager : Pager} {pairs : List (String × String)}
    (h : PagerPairs paging pager pairs) (page : Page) :
    PagerPairs paging (pager.afterPage page) (pager.afterPage page).queryPairs := by
  unfold Pager.afterPage
  cases h with
  | offset size start position more => split <;> exact .offset size start _ _
  | unmarked size token more => split <;> exact marker size token _ _
  | marked size token _ more => split <;> exact marker size token _ _

end PagerPairs

namespace Listing

variable {σ : Type} (link : Link σ) (l : Listing) (s : Session σ)

/-- **Any number of pages.** Whatever the requests bring, the pager asks with the page size of the
paging and in its way. -/
theorem pagerPairs_place (k : Nat) :
    PagerPairs l.paging (l.place link s k).1 (l.place link s k).1.queryPairs := by
  induction k with
  | zero => exact .ofPaging l.paging
  | succ k ih =>
    cases hpage : l.pageAt link s k with
    | ok page =>
      rw [l.place_succ link s k hpage]
      exact ih.afterPage page
    | error e =>
      rw [l.place_succ_of_error link s k hpage]
      exact ih

/-! ### Page requests -/

/-- The URL of page request number `k`, counted from zero. -/
def pageUrl (k : Nat) : Url := l.url.appendPairs (l.place link s k).1.queryPairs

/-- What the pages of a listing are asked for with, if the listing was made of a URL and a query
with a certain paging. -/
structure PageRequests (client : Client) (url : Url) (query : ListQuery)
    (paging : PagingParameters) : Prop where
  /-- The first page is the one of the paging. -/
  first : (l.place link s 0).1 = .ofPaging paging
  /-- The query stands for the pairs of the URL, those of the listing, and those of the pager. -/
  pairs : ∀ k, ∃ asked place, ListingPairs query asked ∧
    PagerPairs paging (l.place link s k).1 place ∧
    (l.pageUrl link s k).queryPairs = url.queryPairs ++ asked ++ place
  /-- All of the URL but its query stays as it is. -/
  elsewhere : ∀ k, ∃ text, l.pageUrl link s k = { url with query := some text }
  /-- A query that asks for nothing leaves the URL of the listing alone. -/
  untouched : query.sort.field = none → query.fields = [] → query.params = [] → l.url = url
  /-- A call of a walk sends nothing, or the request for the next page. -/
  requests : ∀ n,
    (l.fetched link s (n + 1) = l.fetched link s n ∧
        (l.after link s (n + 1)).2 = (l.after link s n).2) ∨
      (l.fetched link s (n + 1) = l.fetched link s n + 1 ∧
        (l.after link s (n + 1)).2 =
          (client.send link { method := "GET", url := l.pageUrl link s (l.fetched link s n) }
            (l.after link s n).2).2.2)

/-- The listing that is made of a query that passes the checks. -/
def ofQuery (client : Client) (url : Url) (query : ListQuery) (paging : PagingParameters)
    (item : Json.Shape) : Listing where
  client := client
  url := if query.queryPairs.isEmpty then url else url.appendPairs query.queryPairs
  paging := paging
  item := item

variable (client : Client) (url : Url) (query : ListQuery) (paging : PagingParameters)
  (item : Json.Shape)

theorem queryPairs_url_ofQuery :
    (ofQuery client url query paging item).url.queryPairs = url.queryPairs ++ query.queryPairs := by
  show (if query.queryPairs.isEmpty then url else url.appendPairs query.queryPairs).queryPairs = _
  split
  · rename_i hempty
    rw [List.isEmpty_iff.mp hempty, List.append_nil]
  · exact Url.queryPairs_appendPairs url query.queryPairs

theorem pageRequests_ofQuery :
    PageRequests link (ofQuery client url query paging item) s client url query paging where
  first := rfl
  pairs := by
    intro k
    refine ⟨_, _, query.listingPairs,
      pagerPairs_place link (ofQuery client url query paging item) s k, ?_⟩
    rw [pageUrl, Url.queryPairs_appendPairs, queryPairs_url_ofQuery]
  elsewhere := by
    intro k
    show ∃ text, (if query.queryPairs.isEmpty then url
      else url.appendPairs query.queryPairs).appendPairs _ = _
    split
    · exact ⟨_, rfl⟩
    · exact ⟨_, rfl⟩
  untouched := by
    intro hsort hfields hparams
    have hnone := query.queryPairs_eq_nil_iff.mpr ⟨hsort, hfields, hparams⟩
    show (if query.queryPairs.isEmpty then url else url.appendPairs query.queryPairs) = url
    rw [hnone]
    rfl
  requests := by
    intro n
    have hrequests := (stands_after link (ofQuery client url query paging item) s n).requests_next
    split at hrequests
    · exact .inr hrequests
    · exact .inl hrequests

/-! ### What making a listing comes to -/

theorem make_eq (defaultPaging : PagingParameters)
    (hpaging : query.paging.getD defaultPaging = paging) :
    make client url query defaultPaging item =
      if paging.limit = 0 then .error (.configuration .zeroLimit)
      else if paging.isMarkerBased && !query.sort.isEmpty then
        .error (.configuration .sortedMarkerPaging)
      else .ok (ofQuery client url query paging item) := by
  unfold make PagingParameters.validate
  dsimp only
  rw [hpaging]
  by_cases hlimit : paging.limit = 0
  · rw [if_pos hlimit, if_pos hlimit]
    rfl
  · rw [if_neg hlimit, if_neg hlimit]
    rfl

/-- What making a listing comes to. None of the three cases reaches a link. -/
inductive Outcome : Except ApiError Listing → Prop
  /-- A page size of zero is refused. -/
  | zeroLimit (limit : paging.limit = 0) : Outcome (.error (.configuration .zeroLimit))
  /-- A sort is refused where pages are chained by markers. -/
  | sortedMarkers (size : Nat) (token : Option String) (field : String) (positive : 0 < size)
    (markers : paging = .marker size token) (sorted : query.sort.field = some field) :
    Outcome (.error (.configuration .sortedMarkerPaging))
  /-- All else makes a listing, whose pages are asked for as its parts say. -/
  | made (l : Listing) (positive : 0 < paging.limit)
    (unsorted : paging.isMarkerBased = true → query.sort.field = none) (settles : l.paging = paging)
    (asks : ∀ {σ : Type} (link : Link σ) (s : Session σ),
      PageRequests link l s client url query paging) :
    Outcome (.ok l)

/-- **Making a listing.** A listing is refused for a page size of zero and for a sort by markers;
every other one asks for each page with the pairs of the URL, of the query and of the pager. -/
theorem make_outcome (client : Client) (url : Url) (query : ListQuery)
    (defaultPaging : PagingParameters) (item : Json.Shape) :
    Outcome client url query (query.paging.getD defaultPaging)
      (make client url query defaultPaging item) := by
  generalize hpaging : query.paging.getD defaultPaging = paging
  rw [make_eq client url query paging item defaultPaging hpaging]
  split
  · rename_i hlimit
    exact .zeroLimit hlimit
  · rename_i hlimit
    have hpositive := Nat.pos_of_ne_zero hlimit
    split
    · rename_i hsorted
      rw [Bool.and_eq_true, SortParameters.isEmpty, Option.not_isNone] at hsorted
      obtain ⟨field, hfield⟩ := Option.isSome_iff_exists.mp hsorted.2
      cases paging with
      | offset => cases hsorted.1
      | marker size token => exact .sortedMarkers size token field hpositive rfl hfield
    · rename_i hsorted
      refine .made _ hpositive (fun hmarkers => ?_) rfl fun link s =>
        pageRequests_ofQuery link s client url query paging item
      simpa [hmarkers, SortParameters.isEmpty] using hsorted

-- a blank, a separator and letters beyond ASCII, behind a query that was there
example :
    let url : Url :=
      { scheme := "https", path := .segments ["letters"], query := some "by=A+%26%20B" }
    let query : ListQuery := { fields := ["id", "näme"], params := [("q=", "✓ &")] }
    ((url.appendPairs query.queryPairs).appendPairs
        (Pager.ofPaging (.marker 2 (some "m&=+"))).queryPairs).query =
      some ("by=A+%26%20B&fields=id%2Cn%C3%A4me&q%3D=%E2%9C%93+%26" ++
        "&limit=2&usemarker=true&marker=m%26%3D%2B") := by
  decide +kernel

end Listing

end ContentClient
