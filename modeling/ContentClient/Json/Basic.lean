import ContentClient.Decimal.Style

/-!
# JSON values

A number is a whole number where 64 bits hold it, and a double otherwise. The members of an object
are kept in increasing order of their keys, each key once; `insertMember` keeps that order and lets
a later member replace an earlier one of the same key. `Json.render` writes a value without blanks.
-/

namespace ContentClient

/-- A number: whole if it fits 64 bits, with or without a sign, else a double. -/
inductive JsonNumber where
  | integer (n : Int)
  | double (x : Float)

/-- A JSON value. -/
inductive Json where
  | null
  | bool (b : Bool)
  | number (n : JsonNumber)
  | string (s : String)
  | array (items : List Json)
  | object (members : List (String × Json))

namespace JsonNumber

/-- The greatest count of 64 bits. -/
def maxWord : Nat := 0xFFFFFFFFFFFFFFFF

/-- A number as JSON text. -/
def render : JsonNumber → String
  | .integer n => toString n
  | .double x => Decimal.Style.json.writeFloat x

end JsonNumber

namespace Json

/-- A whole number. -/
def ofNat (n : Nat) : Json := .number (.integer n)

/-- A text, or null. -/
def ofString? : Option String → Json
  | none => .null
  | some s => .string s

/-- A whole number, or null. -/
def ofNat? : Option Nat → Json
  | none => .null
  | some n => ofNat n

/-- Members in increasing order of keys with one more member, which replaces one of the same key. -/
def insertMember (key : String) (value : Json) : List (String × Json) → List (String × Json)
  | [] => [(key, value)]
  | (k, v) :: rest =>
    if key < k then (key, value) :: (k, v) :: rest
    else if key = k then (key, value) :: rest
    else (k, v) :: insertMember key value rest

/-- The object with the given members; of several with one key the last counts. -/
def ofMembers (members : List (String × Json)) : Json :=
  .object (members.foldl (fun acc m => insertMember m.1 m.2 acc) [])

/-- The member of an object with a key. -/
def get? (j : Json) (key : String) : Option Json :=
  match j with
  | .object members => (members.find? fun m => m.1 == key).map (·.2)
  | _ => none

/-- The text of a value that is one. -/
def text? : Json → Option String
  | .string s => some s
  | _ => none

/-- The count of a value that is a whole number without a sign. -/
def nat? : Json → Option Nat
  | .number (.integer n) => if 0 ≤ n then some n.toNat else none
  | _ => none

/-- The items of a value that is a list; none of any other. -/
def items : Json → List Json
  | .array items => items
  | _ => []

/-- A character as JSON text writes it. -/
def renderChar (c : Char) : String :=
  if c = '"' then "\\\""
  else if c = '\\' then "\\\\"
  else if c = '\n' then "\\n"
  else if c = '\r' then "\\r"
  else if c = '\t' then "\\t"
  else if c.toNat = 8 then "\\b"
  else if c.toNat = 12 then "\\f"
  else if c.toNat < 32 then
    "\\u00" ++ (if c.toNat < 16 then "0" else "1") ++ String.ofList (Nat.toDigits 16 (c.toNat % 16))
  else c.toString

/-- A text as JSON text. -/
def renderString (s : String) : String :=
  "\"" ++ String.join (s.toList.map renderChar) ++ "\""

mutual

/-- A value as JSON text without blanks. -/
def render : Json → String
  | .null => "null"
  | .bool b => if b then "true" else "false"
  | .number n => n.render
  | .string s => renderString s
  | .array items => "[" ++ renderItems items ++ "]"
  | .object members => "\x7b" ++ renderMembers members ++ "\x7d"

/-- Items separated by commas. -/
def renderItems : List Json → String
  | [] => ""
  | [item] => item.render
  | item :: rest => item.render ++ "," ++ renderItems rest

/-- Members separated by commas. -/
def renderMembers : List (String × Json) → String
  | [] => ""
  | [(key, value)] => renderString key ++ ":" ++ value.render
  | (key, value) :: rest => renderString key ++ ":" ++ value.render ++ "," ++ renderMembers rest

end

end Json

end ContentClient
