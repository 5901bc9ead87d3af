/-!
# UTF-8

Bytes are plain lists of octets. Text is encoded character by character; bytes are decoded by a
machine that takes one octet at a time and yields a character for every complete sequence and
`none` for every **maximal invalid part**: the longest start of a sequence that the next octet (or
the end) rules out. `decodeLossy` writes U+FFFD for each such part, `decode?` refuses them.
-/

namespace ContentClient

/-- A run of octets. -/
abbrev Bytes := List UInt8

namespace Text

/-- The UTF-8 octets of a text. -/
def utf8 (s : String) : Bytes := s.toList.flatMap String.utf8EncodeChar

theorem utf8_append (s t : String) : utf8 (s ++ t) = utf8 s ++ utf8 t := by
  simp [utf8]

/-- The number of octets that a character takes up. -/
def octets (c : Char) : Nat := c.utf8Size

/-- A sequence that has started: how many octets it still owes, the value read so far, and the
range in which its next octet has to lie. -/
structure Pending where
  owed : Nat
  value : Nat
  low : Nat
  high : Nat

/-- The character with code `n`; U+FFFD when there is none. -/
def charOf (n : Nat) : Char :=
  if h : n.isValidChar then Char.ofNatAux n h else '\uFFFD'

/-- What the first octet of a character starts: a character of one octet, a longer sequence, or
nothing, when no character begins with it. -/
def start (b : Nat) : List (Option Char) × Option Pending :=
  if b < 0x80 then ([some (charOf b)], none)
  else if b < 0xC2 then ([none], none)
  else if b < 0xE0 then ([], some ⟨1, b - 0xC0, 0x80, 0xBF⟩)
  else if b = 0xE0 then ([], some ⟨2, 0, 0xA0, 0xBF⟩)
  else if b = 0xED then ([], some ⟨2, 0xD, 0x80, 0x9F⟩)
  else if b < 0xF0 then ([], some ⟨2, b - 0xE0, 0x80, 0xBF⟩)
  else if b = 0xF0 then ([], some ⟨3, 0, 0x90, 0xBF⟩)
  else if b < 0xF4 then ([], some ⟨3, b - 0xF0, 0x80, 0xBF⟩)
  else if b = 0xF4 then ([], some ⟨3, 4, 0x80, 0x8F⟩)
  else ([none], none)

/-- One octet of the machine: what it completes, and the sequence it leaves open. An octet that the
open sequence cannot take ends that sequence as an invalid part and starts afresh. -/
def step (p : Option Pending) (b : Nat) : List (Option Char) × Option Pending :=
  match p with
  | none => start b
  | some p =>
    if p.low ≤ b ∧ b ≤ p.high then
      let value := p.value * 64 + (b - 0x80)
      if p.owed ≤ 1 then ([some (charOf value)], none)
      else ([], some ⟨p.owed - 1, value, 0x80, 0xBF⟩)
    else
      let (out, next) := start b
      (none :: out, next)

/-- Runs the machine from the state `p`; a sequence left open at the end is an invalid part. -/
def decodeFrom (p : Option Pending) : Bytes → List (Option Char)
  | [] => if p.isSome then [none] else []
  | b :: rest =>
    let (out, next) := step p b.toNat
    out ++ decodeFrom next rest

/-- The characters of a run of octets, with `none` for every maximal invalid part. -/
def decode (bytes : Bytes) : List (Option Char) := decodeFrom none bytes

/-- The text of a run of octets, with U+FFFD for every maximal invalid part. -/
def decodeLossy (bytes : Bytes) : String :=
  String.ofList ((decode bytes).map (·.getD '\uFFFD'))

/-- The text of a run of octets, if the whole of it is UTF-8. -/
def decode? (bytes : Bytes) : Option String :=
  ((decode bytes).mapM id).map String.ofList

end Text

end ContentClient
