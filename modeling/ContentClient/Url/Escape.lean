import ContentClient.Text.Utf8
import ContentClient.Url.Form

/-!
# Percent escapes

Each component of a URL has a set of characters that it cannot hold as they are. Those, and all
characters beyond ASCII, are written as the percent escapes of their octets.
-/

namespace ContentClient.Escape

/-- Control characters and everything beyond ASCII. -/
def isControl (c : Char) : Bool := c.toNat < 0x20 || 0x7F ≤ c.toNat

/-- What a fragment escapes. -/
def inFragment (c : Char) : Bool :=
  isControl c || [' ', '"', '<', '>'].contains c || c.toNat == 0x60

/-- What a query escapes. A query of the web escapes apostrophes as well. -/
def inQuery (special : Bool) (c : Char) : Bool :=
  isControl c || [' ', '"', '#', '<', '>'].contains c || (special && c == '\'')

/-- What a segment of a path escapes. -/
def inPath (c : Char) : Bool := inFragment c || ['#', '?', '\x7b', '\x7d'].contains c

/-- What a user name or a password escapes. -/
def inUserinfo (c : Char) : Bool :=
  inPath c || ['/', ':', ';', '=', '@', '[', '\\', ']', '^', '|'].contains c

/-- A character as its percent escapes, if a set holds it. -/
def encodeChar (set : Char → Bool) (c : Char) : List Char :=
  if set c then (String.utf8EncodeChar c).flatMap Form.percent else [c]

/-- Characters with those of a set escaped. -/
def encode (set : Char → Bool) (cs : List Char) : List Char := cs.flatMap (encodeChar set)

/-- The text for which a component with percent escapes stands, if its octets are UTF-8. -/
def decode? (component : String) : Option String :=
  Text.decode? (Form.percentDecode (Text.utf8 component))

/-- Characters outside the set stay as they are. -/
theorem encode_eq_self {set : Char → Bool} {cs : List Char} (h : ∀ c ∈ cs, set c = false) :
    encode set cs = cs := by
  induction cs with
  | nil => rfl
  | cons c cs ih =>
    have hc : encodeChar set c = [c] := by simp [encodeChar, h c (by simp)]
    have hcs := ih fun d hd => h d (by simp [hd])
    simp only [encode] at hcs
    simp [encode, hc, hcs]

end ContentClient.Escape
