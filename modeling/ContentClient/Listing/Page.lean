import ContentClient.Json.Shape
import ContentClient.Listing.Paging

/-!
# Pages

A page of a listing holds entries and says where the listing goes on: by offset paging with a
position, a size and a total count, by marker paging with the next marker. The `Pager` keeps the
place that is asked for next and whether there is anything to ask for.
-/

namespace ContentClient

/-- A page as the server sends it. -/
structure Page where
  entries : List Json
  offset : Option Nat := none
  limit : Option Nat := none
  totalCount : Option Nat := none
  nextMarker : Option String := none

namespace Page

/-- The shape of a page. -/
def record : Json.Record :=
  ⟨"PageEnvelope",
    [.required "entries" .values, .optional "offset" .natural, .optional "limit" .natural,
      .optional "total_count" .natural, .optional "next_marker" .string]⟩

/-- The page that the text of a response holds. -/
def ofText (text : String) : Except JsonError Page :=
  (record.decodeText text).map fun members =>
    let nat? (name : String) := (members.find? name).bind Json.nat?
    { entries := ((members.find? "entries").map Json.items).getD []
      offset := nat? "offset"
      limit := nat? "limit"
      totalCount := nat? "total_count"
      nextMarker := (members.find? "next_marker").bind Json.text? }

end Page

/-- The greatest position in a listing. -/
def maxPosition : Nat := 0xFFFFFFFFFFFFFFFF

/-- The place in a listing that is asked for next. -/
inductive Pager where
  | offset (limit position : Nat) (more : Bool)
  | marker (limit : Nat) (token : Option String) (more : Bool)
  deriving DecidableEq, Repr

namespace Pager

/-- The start of a listing. -/
def ofPaging : PagingParameters → Pager
  | .offset limit position => .offset limit position true
  | .marker limit token => .marker limit token true

/-- Whether there may be another page. -/
def hasMore : Pager → Bool
  | .offset _ _ more => more
  | .marker _ _ more => more

/-- The query pairs that ask for the page. -/
def queryPairs : Pager → List (String × String)
  | .offset size position _ => [("limit", toString size), ("offset", toString position)]
  | .marker size token _ =>
    [("limit", toString size), ("usemarker", "true")] ++ token.toList.map fun t => ("marker", t)

/-- How far a page reaches: as far as its size says, or its entries if it says nothing. -/
def stride (page : Page) : Nat := (page.limit.filter (0 < ·)).getD page.entries.length

/-- The pager after a page. A page without a total count is taken for the last one, and so is one
without a next marker, or with an empty one. -/
def advance (page : Page) : Pager → Pager
  | .offset size position _ =>
    let next := min (page.offset.getD position + stride page) maxPosition
    .offset size next (page.totalCount.any (next < ·))
  | .marker size _ _ =>
    let next := page.nextMarker.filter (!·.isEmpty)
    .marker size next next.isSome

/-- The pager at the end of the listing. -/
def stop : Pager → Pager
  | .offset size position _ => .offset size position false
  | .marker size token _ => .marker size token false

/-- The pager after a page, which ends the listing if it has no entries. -/
def afterPage (page : Page) (p : Pager) : Pager :=
  if page.entries.isEmpty then (p.advance page).stop else p.advance page

/-- The pager in diagnostics. -/
def describe : Pager → String
  | .offset size position more =>
    Text.Notation.tagged "Offset" <| Text.Notation.record "OffsetPager"
      [("limit", toString size), ("offset", toString position), ("more", toString more)]
  | .marker size token more =>
    Text.Notation.tagged "Marker" <| Text.Notation.record "MarkerPager"
      [("limit", toString size), ("marker", Text.Notation.optional (token.map Text.quoted)),
        ("more", toString more)]

@[simp] theorem hasMore_stop (p : Pager) : p.stop.hasMore = false := by cases p <;> rfl

/-- A page without entries ends the listing, whatever else it says. -/
theorem hasMore_afterPage_nil {page : Page} (p : Pager) (h : page.entries = []) :
    (p.afterPage page).hasMore = false := by
  simp [afterPage, h]

end Pager

end ContentClient
