import ContentClient.Text.Case

/-!
# Header fields

Header fields are kept in the order in which they were added. Their names are compared without
regard to the case of ASCII letters.
-/

namespace ContentClient

/-- Header fields in order. -/
abbrev Headers := List (String × String)

/-- Whether two header names are the same. -/
def sameHeader (a b : String) : Bool := Text.lower a.toList == Text.lower b.toList

theorem sameHeader_self (a : String) : sameHeader a a = true := by simp [sameHeader]

/-- Whether text consists of visible ASCII characters, blanks and tabs, so that it can be shown. -/
def isShowable (value : String) : Bool :=
  value.toList.all fun c => (0x20 ≤ c.toNat && c.toNat < 0x7F) || c == '\t'

/-- Whether a text can be the value of a field: no control characters but tabs. -/
def isFieldValue (value : String) : Bool :=
  value.toList.all fun c => (0x20 ≤ c.toNat && c.toNat ≠ 0x7F) || c == '\t'

/-- Whether a character may stand in the name of a field. -/
def isTokenChar (c : Char) : Bool :=
  c.isAlphanum || c.toNat == 0x60 ||
    ['!', '#', '$', '%', '&', '\'', '*', '+', '-', '.', '^', '_', '|', '~'].contains c

/-- Whether a text can be the name of a field. -/
def isFieldName (name : String) : Bool := !name.isEmpty && name.toList.all isTokenChar

namespace Headers

/-- The values of a field in order. -/
def values (hs : Headers) (name : String) : List String :=
  (hs.filter fun h => sameHeader h.1 name).map (·.2)

/-- The first value of a field. -/
def first? (hs : Headers) (name : String) : Option String :=
  (hs.find? fun h => sameHeader h.1 name).map (·.2)

/-- The first value of a field, if it can be shown. -/
def showable? (hs : Headers) (name : String) : Option String :=
  (hs.first? name).filter isShowable

/-- The fields without those of one name. -/
def erase (hs : Headers) (name : String) : Headers := hs.filter fun h => !sameHeader h.1 name

/-- The fields with one more at the end. -/
def add (hs : Headers) (name value : String) : Headers := hs ++ [(name, value)]

/-- The fields with a single one of a name, at the end. -/
def replace (hs : Headers) (name value : String) : Headers := (hs.erase name).add name value

theorem values_eq_nil_of_erase (hs : Headers) (name : String) :
    (hs.erase name).values name = [] := by
  simp [erase, values, List.filter_filter]

end Headers

end ContentClient
