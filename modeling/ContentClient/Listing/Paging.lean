import ContentClient.ApiError

/-!
# Paging and sorting of list endpoints

A listing is paged by a numeric offset or by an opaque marker, and an offset listing may be sorted.
-/

namespace ContentClient

/-- The page size of most item listings. -/
def defaultLimit : Nat := 1000

/-- The page size of collaboration and user listings. -/
def defaultCollaborationLimit : Nat := 100

/-- How a listing is paged. -/
inductive PagingParameters where
  /-- By the number of items to skip. -/
  | offset (limit offset : Nat)
  /-- By a continuation token; none asks for the first page. -/
  | marker (limit : Nat) (marker : Option String)
  deriving DecidableEq, Repr

namespace PagingParameters

/-- Offset paging from the first item. -/
def fromStart (limit : Nat) : PagingParameters := .offset limit 0

protected def default : PagingParameters := fromStart defaultLimit

instance : Inhabited PagingParameters := ⟨.default⟩

/-- The page size. -/
def limit : PagingParameters → Nat
  | .offset n _ => n
  | .marker n _ => n

/-- Whether pages are chained by markers. -/
def isMarkerBased : PagingParameters → Bool
  | .offset _ _ => false
  | .marker _ _ => true

/-- A page size of zero is refused. -/
def validate (p : PagingParameters) : Except ApiError Unit :=
  if p.limit = 0 then .error (.configuration .zeroLimit) else .ok ()

/-- The paging in diagnostics. -/
def describe : PagingParameters → String
  | .offset size skipped =>
    Text.Notation.record "Offset" [("limit", toString size), ("offset", toString skipped)]
  | .marker size token =>
    Text.Notation.record "Marker"
      [("limit", toString size), ("marker", Text.Notation.optional (token.map Text.quoted))]

end PagingParameters

/-- The direction of a sort. -/
inductive SortDirection where
  | ascending
  | descending
  deriving DecidableEq, Repr

/-- The direction as a request names it. -/
def SortDirection.name : SortDirection → String
  | .ascending => "ASC"
  | .descending => "DESC"

/-- The direction in diagnostics. -/
def SortDirection.describe : SortDirection → String
  | .ascending => "Ascending"
  | .descending => "Descending"

/-- The sort of a listing; without a field the server's own order holds. -/
structure SortParameters where
  field : Option String := none
  direction : SortDirection := .ascending
  deriving DecidableEq, Repr

namespace SortParameters

/-- The server's own order. -/
def serverOrder : SortParameters := {}

def ascending (field : String) : SortParameters := ⟨some field, .ascending⟩

def descending (field : String) : SortParameters := ⟨some field, .descending⟩

/-- Whether the sort leaves the order to the server. -/
def isEmpty (s : SortParameters) : Bool := s.field.isNone

/-- The query pairs that ask for the sort. -/
def queryPairs (s : SortParameters) : List (String × String) :=
  match s.field with
  | none => []
  | some field => [("sort", field), ("direction", s.direction.name)]

/-- The sort in diagnostics. -/
def describe (s : SortParameters) : String :=
  Text.Notation.record "SortParameters"
    [("field", Text.Notation.optional (s.field.map Text.quoted)),
      ("direction", s.direction.describe)]

end SortParameters

/-- What is asked of a list endpoint. -/
structure ListQuery where
  /-- The paging; none leaves it to the endpoint. -/
  paging : Option PagingParameters := none
  sort : SortParameters := {}
  /-- The fields to return for each item. -/
  fields : List String := []
  /-- Further pairs that the endpoint understands. -/
  params : List (String × String) := []
  deriving DecidableEq, Repr

namespace ListQuery

def withPaging (q : ListQuery) (paging : PagingParameters) : ListQuery :=
  { q with paging := some paging }

def withSort (q : ListQuery) (sort : SortParameters) : ListQuery := { q with sort := sort }

def withFields (q : ListQuery) (fields : List String) : ListQuery :=
  { q with fields := q.fields ++ fields }

def withParam (q : ListQuery) (key value : String) : ListQuery :=
  { q with params := q.params ++ [(key, value)] }

/-- The pairs that the query adds to the URL of a listing: the sort, the fields joined by commas,
then the parameters in order. Paging is added page by page. -/
def queryPairs (q : ListQuery) : List (String × String) :=
  q.sort.queryPairs ++ (if q.fields.isEmpty then [] else [("fields", ",".intercalate q.fields)]) ++
    q.params

/-- The query in diagnostics. -/
def describe (q : ListQuery) : String :=
  Text.Notation.record "ListQuery"
    [("paging", Text.Notation.optional (q.paging.map PagingParameters.describe)),
      ("sort", q.sort.describe),
      ("fields", Text.Notation.list (q.fields.map Text.quoted)),
      ("params", Text.Notation.list (q.params.map fun p =>
        Text.Notation.pair (Text.quoted p.1) (Text.quoted p.2)))]

end ListQuery

end ContentClient
