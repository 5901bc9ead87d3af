import ContentClient.Text.Composition
import ContentClient.Url.Domain.Direction
import ContentClient.Url.Domain.Joiner
import ContentClient.Url.Domain.Mapping
import ContentClient.Url.Punycode

/-!
# Domain names

A domain name of the web is written in ASCII. Its characters are mapped and composed, and each label
with characters beyond ASCII is written in Punycode behind `xn--`. A label that opens so has to
stand for a label that would be written so.
-/

namespace ContentClient.Domain

/-- Whether a domain name cannot hold a character of ASCII. -/
def isForbidden (c : Char) : Bool :=
  c.toNat ≤ 0x20 || c.toNat == 0x7F ||
    ['#', '%', '/', ':', '<', '>', '?', '@', '[', '\\', ']', '^', '|'].contains c

/-- Whether a character is one of ASCII. -/
def isAscii (c : Char) : Bool := c.toNat < 0x80

/-- What opens a label in Punycode. -/
def mark : List Char := ['x', 'n', '-', '-']

/-- The number of characters behind the mark that are read as Punycode. -/
def maxEncoded : Nat := 2000

/-- The number of characters that a label beyond ASCII can have. -/
def maxDecoded : Nat := 1000

/-- The label for which Punycode stands. -/
def decode? (encoded : List Char) : Option (List Char) :=
  if maxEncoded < encoded.length then none
  else
    (Punycode.decode? encoded).filter fun label =>
      !label.all isAscii && label.all isOfNames && Text.composed label == label &&
        !mark.isPrefixOf label

/-- The label that a label in Punycode stands for; any other label is the one for which it stands.
-/
def label? (label : List Char) : Option (List Char) :=
  if mark.isPrefixOf label then
    if label.all isAscii then decode? (label.drop mark.length) else none
  else some label

/-- Whether a label opens with no mark on a character and has its joiners in place. -/
def isWellFormed (label : List Char) : Bool :=
  !label.head?.any Text.isMark && hasJoinersInPlace [] label

/-- Whether the labels of a name can be told apart where some run from right to left. -/
def isUnambiguous (labels : List (List Char)) : Bool :=
  let labels := labels.map (·.map Direction.ofChar)
  !labels.any (·.any Direction.isFromRight) || labels.all Direction.agree

/-- A label in ASCII. -/
def encode? (label : List Char) : Option (List Char) :=
  if label.all isAscii then some label
  else if maxDecoded < label.length then none
  else some (mark ++ Punycode.encode label)

/-- A domain name in ASCII. -/
def ofText? (name : String) : Option String := do
  let name := Text.composed (← map? name.toList)
  if name.any isForbidden then none
  else
    let written := Text.splitOnChar '.' name
    let labels ← written.mapM label?
    if labels.all isWellFormed && isUnambiguous labels then
      let encoded ← written.mapM encode?
      return ".".intercalate (encoded.map String.ofList)
    else none

end ContentClient.Domain
