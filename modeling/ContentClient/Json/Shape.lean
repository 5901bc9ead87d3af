import ContentClient.Json.Reader

/-!
# Expected shapes

A `Shape` says what a value has to look like: a value of one kind, or a record with named fields. A
value is decoded against a shape in two ways. `Shape.decodeText` does it while the text is read, so
that the first fault in the text is the one reported, whether it is one of form or of shape;
`Shape.decodeValue` does it on a value that has been read before.

A record may also be written as a list of its fields in order. Members that no field names are
ignored, and absent fields at the end of a list, like absent members, take their fallback.
-/

namespace ContentClient.Json

/-- The kind of a single value. -/
inductive Leaf where
  | any
  | string
  /-- A whole number of 64 bits without a sign. -/
  | natural
  /-- A list of any values. -/
  | values
  deriving DecidableEq, Repr

/-- How faults name what they expected. -/
def Leaf.expected : Leaf → String
  | .any => "any value"
  | .string => "a string"
  | .natural => "u64"
  | .values => "a sequence"

/-- A field of a record. -/
structure Field where
  name : String
  leaf : Leaf
  /-- Whether null stands for an absent value. -/
  nullable : Bool
  /-- What an absent field counts as; without a fallback it has to be there. -/
  fallback : Option Json

/-- A field that has to be there. -/
def Field.required (name : String) (leaf : Leaf) : Field := ⟨name, leaf, false, none⟩

/-- A field that may be absent or null. -/
def Field.optional (name : String) (leaf : Leaf) : Field := ⟨name, leaf, true, some .null⟩

/-- A record with a name, for faults, and its fields in order. -/
structure Record where
  name : String
  fields : List Field

/-- What a value has to look like. -/
inductive Shape where
  | leaf (leaf : Leaf)
  | record (record : Record)

/-- The field with a name. -/
def Record.field? (r : Record) (name : String) : Option Field :=
  r.fields.find? fun f => f.name == name

/-- How faults name a record. -/
def Record.expected (r : Record) : String := "struct " ++ r.name

/-- How faults name the list form of a record. -/
def Record.expectedList (r : Record) : String :=
  s!"{r.expected} with {r.fields.length} " ++ if r.fields.length = 1 then "element" else "elements"

/-- The values that have been found for the fields of a record. -/
abbrev Members := List (String × Json)

/-- The value found for a field. -/
def Members.find? (members : Members) (name : String) : Option Json :=
  (List.find? (fun m => m.1 == name) members).map (·.2)

/-- The values of all fields in order, with fallbacks for the absent ones. -/
def Record.complete (r : Record) (found : Members) : Except JsonError Members :=
  r.fields.mapM fun f =>
    match found.find? f.name, f.fallback with
    | some v, _ => .ok (f.name, v)
    | none, some v => .ok (f.name, v)
    | none, none => .error (.missingField f.name)

/-! ### From text -/

/-- The fault that the text holds something else than what is expected. A fault in the form of what
is there comes first. -/
def mismatch (expected : String) (cs : List Char) : JsonError :=
  match skipBlank cs with
  | [] => .endInValue
  | '[' :: _ => .invalidType .sequence expected
  | '\x7b' :: _ => .invalidType .map expected
  | cs =>
    match readScalar cs with
    | .error e => e
    | .ok (v, _) => .invalidType v.found expected

/-- A count, if the number is one. -/
def naturalOf : JsonNumber → Except JsonError Json
  | .integer n =>
    if 0 ≤ n then .ok (.number (.integer n))
    else .error (.invalidValue (.integer n) Leaf.natural.expected)
  | .double x => .error (.invalidType (.double x) Leaf.natural.expected)

/-- A single value read from text. -/
def Leaf.read (leaf : Leaf) (nesting : Nat) (cs : List Char) : Reading Json :=
  match leaf with
  | .any => readValue nesting cs
  | .string =>
    match skipBlank cs with
    | '"' :: rest => (readString rest).map fun r => (.string r.1, r.2)
    | cs => .error (mismatch leaf.expected cs)
  | .natural =>
    let finish (r : JsonNumber × List Char) : Reading Json :=
      (naturalOf r.1).map fun v => (v, r.2)
    match skipBlank cs with
    | '-' :: rest => (readNumber false rest).bind finish
    | cs => if startsWithDigit cs then (readNumber true cs).bind finish
      else .error (mismatch leaf.expected cs)
  | .values =>
    match skipBlank cs, nesting with
    | '[' :: _, 0 => .error .nestedTooDeeply
    | '[' :: rest, nesting + 1 =>
      (readItems (readValue nesting) (rest.length + 1) true rest).map fun r => (.array r.1, r.2)
    | cs, _ => .error (mismatch leaf.expected cs)

/-- The value of a field read from text. -/
def Field.read (f : Field) (nesting : Nat) (cs : List Char) : Reading Json :=
  match skipBlank cs with
  | 'n' :: rest =>
    if f.nullable then (readWord ['u', 'l', 'l'] rest).map fun r => (.null, r.2)
    else f.leaf.read nesting cs
  | _ => f.leaf.read nesting cs

/-- One member of a record in text: a second value for a field is a fault, a member without a field
is skipped. -/
def Record.readMember (r : Record) (nesting : Nat) (found : Members) (key : String)
    (cs : List Char) : Reading Members :=
  match r.field? key with
  | none =>
    match readColon cs with
    | .error e => .error e
    | .ok cs => (skipValue cs).map fun rest => (found, rest.2)
  | some f =>
    if (found.find? key).isSome then .error (.duplicateField key)
    else
      match readColon cs with
      | .error e => .error e
      | .ok cs => (f.read nesting cs).map fun v => (found ++ [(key, v.1)], v.2)

/-- The fields of a record written as a list, from field number `index` on. -/
def Record.readList (r : Record) (nesting : Nat) :
    (fields : List Field) → (index : Nat) → List Char → Reading Members
  | [], _, cs => .ok ([], cs)
  | f :: fields, index, cs =>
    match nextItem (index = 0) cs with
    | .error e => .error e
    | .ok (.done _) =>
      match f.fallback with
      | none => .error (.invalidLength index r.expectedList)
      | some v =>
        (r.readList nesting fields (index + 1) cs).map fun rest => ((f.name, v) :: rest.1, rest.2)
    | .ok (.item cs) =>
      match f.read nesting cs with
      | .error e => .error e
      | .ok (v, cs) =>
        (r.readList nesting fields (index + 1) cs).map fun rest => ((f.name, v) :: rest.1, rest.2)

/-- The text behind the bracket that has to end a list here. -/
def closeList (cs : List Char) : Except JsonError (List Char) :=
  match skipBlank cs with
  | [] => .error .endInList
  | ']' :: rest => .ok rest
  | ',' :: rest =>
    match skipBlank rest with
    | ']' :: _ => .error .trailingComma
    | _ => .error .trailingCharacters
  | _ => .error .trailingCharacters

/-- A record read from text. -/
def Record.read (r : Record) (nesting : Nat) (cs : List Char) : Reading Members :=
  match skipBlank cs, nesting with
  | '[' :: _, 0 => .error .nestedTooDeeply
  | '\x7b' :: _, 0 => .error .nestedTooDeeply
  | '[' :: rest, nesting + 1 =>
    match r.readList nesting r.fields 0 rest with
    | .error e => .error e
    | .ok (members, cs) => (closeList cs).map fun rest => (members, rest)
  | '\x7b' :: rest, nesting + 1 =>
    match foldMembers (r.readMember nesting) (rest.length + 1) true [] rest with
    | .error e => .error e
    | .ok (found, rest) => (r.complete found).map fun members => (members, rest)
  | cs, _ => .error (mismatch r.expected cs)

/-- The fields of a record that is the whole of a text. -/
def Record.decodeText (r : Record) (text : String) : Except JsonError Members :=
  match r.read maxNesting text.toList with
  | .error e => .error e
  | .ok (members, rest) => (expectEnd rest).map fun _ => members

/-- The value of a text that has to have a shape. A record becomes an object of its fields. -/
def Shape.decodeText (s : Shape) (text : String) : Except JsonError Json :=
  match s with
  | .leaf l =>
    match l.read maxNesting text.toList with
    | .error e => .error e
    | .ok (v, rest) => (expectEnd rest).map fun _ => v
  | .record r => (r.decodeText text).map ofMembers

/-! ### From a value -/

/-- A single value checked against its kind. -/
def Leaf.decode (leaf : Leaf) (v : Json) : Except JsonError Json :=
  match leaf, v with
  | .any, v => .ok v
  | .string, .string s => .ok (.string s)
  | .natural, .number n => naturalOf n
  | .values, .array items => .ok (.array items)
  | leaf, v => .error (.invalidType v.found leaf.expected)

/-- The value of a field checked against its kind. -/
def Field.decode (f : Field) (v : Json) : Except JsonError Json :=
  match v with
  | .null => if f.nullable then .ok .null else f.leaf.decode .null
  | v => f.leaf.decode v

/-- The fields of a record written as a list of values, from field number `index` on. -/
def Record.decodeList (r : Record) :
    (fields : List Field) → (index : Nat) → List Json → Except JsonError Members
  | [], _, _ => .ok []
  | f :: fields, index, [] =>
    match f.fallback with
    | none => .error (.invalidLength index r.expectedList)
    | some v => (r.decodeList fields (index + 1) []).map ((f.name, v) :: ·)
  | f :: fields, index, v :: rest =>
    match f.decode v with
    | .error e => .error e
    | .ok v => (r.decodeList fields (index + 1) rest).map ((f.name, v) :: ·)

/-- The fields of a record checked on a value. -/
def Record.decodeValue (r : Record) (v : Json) : Except JsonError Members :=
  match v with
  | .array items =>
    match r.decodeList r.fields 0 items with
    | .error e => .error e
    | .ok members =>
      if items.length ≤ r.fields.length then .ok members
      else .error (.invalidLength items.length "fewer elements in array")
  | .object members =>
    let found : Except JsonError Members := members.filterMapM fun m =>
      match r.field? m.1 with
      | none => Except.ok none
      | some f => (f.decode m.2).map fun v => some (m.1, v)
    found.bind r.complete
  | v => .error (.invalidType v.found r.expected)

/-- A value that has to have a shape. A record becomes an object of its fields. -/
def Shape.decodeValue (s : Shape) (v : Json) : Except JsonError Json :=
  match s with
  | .leaf l => l.decode v
  | .record r => (r.decodeValue v).map ofMembers

end ContentClient.Json
