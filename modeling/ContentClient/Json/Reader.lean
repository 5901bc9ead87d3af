import ContentClient.Json.Token

/-!
# Reading JSON text

`readValue` reads a value that is kept, `skipValue` checks one that is not. A kept value may be
nested `maxNesting` brackets deep; a skipped one has no such limit. Faults are reported in the order
of the text.

The loops over items and members take a number of rounds. Every round takes at least one character,
so the length of the text suffices.
-/

namespace ContentClient.Json

/-- How many brackets may be open around a kept value. -/
def maxNesting : Nat := 127

/-- Where a list goes on. -/
inductive ListStep where
  /-- The list has ended; the text behind its bracket. -/
  | done (rest : List Char)
  /-- Another item follows in the text. -/
  | item (rest : List Char)

/-- What comes next in a list: its end, or an item behind a comma if it is not the `first`. -/
def nextItem (first : Bool) (cs : List Char) : Except JsonError ListStep :=
  match skipBlank cs with
  | [] => .error .endInList
  | c :: rest =>
    if c = ']' then .ok (.done rest)
    else if first then .ok (.item (c :: rest))
    else if c = ',' then
      match skipBlank rest with
      | [] => .error .endInValue
      | d :: rest => if d = ']' then .error .trailingComma else .ok (.item (d :: rest))
    else .error .expectedListEnd

/-- The items of a list after its opening bracket. -/
def readItems {α : Type} (item : List Char → Reading α) :
    (rounds : Nat) → (first : Bool) → List Char → Reading (List α)
  | 0, _, _ => .error .endInList
  | rounds + 1, first, cs =>
    match nextItem first cs with
    | .error e => .error e
    | .ok (.done rest) => .ok ([], rest)
    | .ok (.item cs) =>
      match item cs with
      | .error e => .error e
      | .ok (x, cs) =>
        match readItems item rounds false cs with
        | .error e => .error e
        | .ok (xs, rest) => .ok (x :: xs, rest)

/-- Where an object goes on. -/
inductive ObjectStep where
  /-- The object has ended; the text behind its bracket. -/
  | done (rest : List Char)
  /-- Another key has been read; the text behind it. -/
  | key (name : String) (rest : List Char)

/-- The key whose opening quote has to come first in the text. -/
def readKey (cs : List Char) : Except JsonError ObjectStep :=
  match cs with
  | [] => .error .endInValue
  | c :: rest =>
    if c = '"' then (readString rest).map fun r => .key r.1 r.2
    else .error .keyNotString

/-- What comes next in an object: its end, or a key behind a comma if it is not the `first`. -/
def nextKey (first : Bool) (cs : List Char) : Except JsonError ObjectStep :=
  match skipBlank cs with
  | [] => .error .endInObject
  | c :: rest =>
    if c = '\x7d' then .ok (.done rest)
    else if first then readKey (c :: rest)
    else if c = ',' then
      match skipBlank rest with
      | [] => .error .endInValue
      | d :: rest => if d = '\x7d' then .error .trailingComma else readKey (d :: rest)
    else .error .expectedObjectEnd

/-- The text behind the colon that separates a key from its value. -/
def readColon (cs : List Char) : Except JsonError (List Char) :=
  match skipBlank cs with
  | [] => .error .endInObject
  | c :: rest => if c = ':' then .ok rest else .error .expectedColon

/-- Folds over the members of an object after its opening bracket. For every key, `member` reads on
from behind the key. -/
def foldMembers {σ : Type} (member : σ → String → List Char → Reading σ) :
    (rounds : Nat) → (first : Bool) → σ → List Char → Reading σ
  | 0, _, _, _ => .error .endInObject
  | rounds + 1, first, state, cs =>
    match nextKey first cs with
    | .error e => .error e
    | .ok (.done rest) => .ok (state, rest)
    | .ok (.key name cs) =>
      match member state name cs with
      | .error e => .error e
      | .ok (state, cs) => foldMembers member rounds false state cs

/-- A value that is a single token, and the fault that another character is. -/
def readScalar (cs : List Char) : Reading Json :=
  match cs with
  | [] => .error .endInValue
  | c :: rest =>
    if c = 'n' then (readWord ['u', 'l', 'l'] rest).map fun r => (.null, r.2)
    else if c = 't' then (readWord ['r', 'u', 'e'] rest).map fun r => (.bool true, r.2)
    else if c = 'f' then (readWord ['a', 'l', 's', 'e'] rest).map fun r => (.bool false, r.2)
    else if c = '-' then (readNumber false rest).map fun r => (.number r.1, r.2)
    else if c.isDigit then (readNumber true (c :: rest)).map fun r => (.number r.1, r.2)
    else if c = '"' then (readString rest).map fun r => (.string r.1, r.2)
    else .error .expectedValue

/-- A value that is kept, in which `nesting` more brackets may be open at once. -/
def readValue : (nesting : Nat) → List Char → Reading Json
  | 0, cs =>
    match skipBlank cs with
    | '[' :: _ => .error .nestedTooDeeply
    | '\x7b' :: _ => .error .nestedTooDeeply
    | cs => readScalar cs
  | nesting + 1, cs =>
    match skipBlank cs with
    | '[' :: rest =>
      (readItems (readValue nesting) (rest.length + 1) true rest).map fun r => (.array r.1, r.2)
    | '\x7b' :: rest =>
      let member (members : List (String × Json)) (key : String) (cs : List Char) :
          Reading (List (String × Json)) :=
        match readColon cs with
        | .error e => .error e
        | .ok cs => (readValue nesting cs).map fun r => (insertMember key r.1 members, r.2)
      (foldMembers member (rest.length + 1) true [] rest).map fun r => (.object r.1, r.2)
    | cs => readScalar cs

/-! ### Skipped values -/

/-- The kind of a bracket. -/
inductive Bracket where
  | list
  | object
  deriving DecidableEq

/-- Whether a character closes a bracket. -/
def Bracket.closedBy (b : Bracket) (c : Char) : Bool :=
  match b with
  | .list => c == ']'
  | .object => c == '\x7d'

/-- The fault of text that ends inside a bracket. -/
def Bracket.ended : Bracket → JsonError
  | .list => .endInList
  | .object => .endInObject

/-- The fault of text that goes on behind a value with neither a comma nor the closing bracket. -/
def Bracket.unseparated : Bracket → JsonError
  | .list => .expectedListEnd
  | .object => .expectedObjectEnd

/-- The text behind what precedes the next value inside a bracket: nothing in a list, a key and its
colon in an object. -/
def skipToValue (b : Bracket) (cs : List Char) : Except JsonError (List Char) :=
  match b with
  | .list => .ok cs
  | .object =>
    match skipBlank cs with
    | [] => .error .endInObject
    | c :: rest =>
      if c = '"' then
        match skipString rest with
        | .error e => .error e
        | .ok (_, cs) => readColon cs
      else .error .keyNotString

/-- Checks a value that is a single token. -/
def skipScalar (cs : List Char) : Reading Unit :=
  match cs with
  | [] => .error .endInValue
  | c :: rest =>
    if c = 'n' then readWord ['u', 'l', 'l'] rest
    else if c = 't' then readWord ['r', 'u', 'e'] rest
    else if c = 'f' then readWord ['a', 'l', 's', 'e'] rest
    else if c = '-' then skipNumber rest
    else if c.isDigit then skipNumber (c :: rest)
    else if c = '"' then skipString rest
    else .error .expectedValue

/-- Where the check of a skipped value stands. -/
inductive SkipState where
  /-- A value has to follow. -/
  | value
  /-- Inside the innermost bracket, behind a value (`comma`) or directly behind the bracket. -/
  | inside (comma : Bool)

/-- Checks the rest of a skipped value inside the open brackets `stack`, innermost first. -/
def skipFrom : (rounds : Nat) → SkipState → (stack : List Bracket) → List Char → Reading Unit
  | 0, _, _, _ => .error .endInValue
  | rounds + 1, .value, stack, cs =>
    match skipBlank cs with
    | '[' :: rest => skipFrom rounds (.inside false) (.list :: stack) rest
    | '\x7b' :: rest => skipFrom rounds (.inside false) (.object :: stack) rest
    | cs =>
      match skipScalar cs with
      | .error e => .error e
      | .ok (_, rest) =>
        if stack.isEmpty then .ok ((), rest) else skipFrom rounds (.inside true) stack rest
  | _ + 1, .inside _, [], cs => .ok ((), cs)
  | rounds + 1, .inside comma, b :: stack, cs =>
    match skipBlank cs with
    | [] => .error b.ended
    | c :: rest =>
      if b.closedBy c then
        if stack.isEmpty then .ok ((), rest) else skipFrom rounds (.inside true) stack rest
      else if comma ∧ c ≠ ',' then .error b.unseparated
      else
        match skipToValue b (if comma then rest else c :: rest) with
        | .error e => .error e
        | .ok cs => skipFrom rounds .value (b :: stack) cs

/-- Checks a value that is not kept. Two rounds go by for every character at most. -/
def skipValue (cs : List Char) : Reading Unit := skipFrom (2 * cs.length + 2) .value [] cs

/-- Fails if anything but blanks is left. -/
def expectEnd (cs : List Char) : Except JsonError Unit :=
  match skipBlank cs with
  | [] => .ok ()
  | _ :: _ => .error .trailingCharacters

/-- The value of a JSON text. -/
def parse (text : String) : Except JsonError Json := do
  let (value, rest) ← readValue maxNesting text.toList
  expectEnd rest
  return value

end ContentClient.Json
