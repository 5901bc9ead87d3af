import ContentClient.Text.Quoted
import ContentClient.Text.Utf8

/-!
# Form encoding

The encoding of names and values in `application/x-www-form-urlencoded` text. Letters, digits and
the four marks `*-._` stand for themselves, a blank is written `+`, and every other octet as a
percent sign with two hexadecimal digits. `pair` writes a pair of a query, and `parsePairs` reads a
whole one.
-/

namespace ContentClient.Form

/-- Whether an octet stands for itself. -/
def isPlain (b : UInt8) : Bool :=
  let c := Char.ofNat b.toNat
  c.isAlphanum || c == '*' || c == '-' || c == '.' || c == '_'

/-- The upper-case hexadecimal digit for a value below sixteen. -/
def upperHex (n : Nat) : Char :=
  if n < 10 then Char.ofNat ('0'.toNat + n) else Char.ofNat ('A'.toNat + (n - 10))

/-- An octet as a percent sign with two digits. -/
def percent (b : UInt8) : List Char := ['%', upperHex (b.toNat / 16), upperHex (b.toNat % 16)]

/-- An octet in form encoding. -/
def encodeOctet (b : UInt8) : List Char :=
  if b = 0x20 then ['+'] else if isPlain b then [Char.ofNat b.toNat] else percent b

/-- Octets in form encoding. -/
def encodeBytes (bytes : Bytes) : List Char := bytes.flatMap encodeOctet

/-- A text in form encoding. -/
def encode (s : String) : String := String.ofList (encodeBytes (Text.utf8 s))

/-- The value of a hexadecimal digit. -/
def hexValue? (b : UInt8) : Option Nat :=
  let n := b.toNat
  if 0x30 ≤ n ∧ n ≤ 0x39 then some (n - 0x30)
  else if 0x41 ≤ n ∧ n ≤ 0x46 then some (n - 0x41 + 10)
  else if 0x61 ≤ n ∧ n ≤ 0x66 then some (n - 0x61 + 10)
  else none

/-- The octets that a run of octets with percent escapes stands for. A percent sign that no two
digits follow stands for itself. -/
def percentDecode : Bytes → Bytes
  | [] => []
  | [b] => [b]
  | [b, c] => [b, c]
  | b :: c :: d :: rest =>
    if b = 0x25 then
      match hexValue? c, hexValue? d with
      | some x, some y => (x * 16 + y).toUInt8 :: percentDecode rest
      | _, _ => b :: percentDecode (c :: d :: rest)
    else b :: percentDecode (c :: d :: rest)

/-- The text that form encoding stands for. -/
def decode (encoded : Bytes) : String :=
  Text.decodeLossy (percentDecode (encoded.map fun b => if b = 0x2B then 0x20 else b))

/-- A pair of a name and a value. -/
def pair (p : String × String) : String := encode p.1 ++ "=" ++ encode p.2

/-- The parts of a run of octets between the occurrences of one. -/
def splitAt (sep : UInt8) : Bytes → List Bytes
  | [] => [[]]
  | b :: rest =>
    if b = sep then [] :: splitAt sep rest
    else
      match splitAt sep rest with
      | [] => [[b]]
      | part :: parts => (b :: part) :: parts

/-- The pairs that a query stands for. Empty parts are passed over, and a part without an equals
sign is a name with an empty value. -/
def parsePairs (query : String) : List (String × String) :=
  ((splitAt 0x26 (Text.utf8 query)).filter fun part => !part.isEmpty).map fun part =>
    let name := part.takeWhile (· ≠ 0x3D)
    (decode name, decode (part.drop (name.length + 1)))

end ContentClient.Form
