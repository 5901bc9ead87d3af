import ContentClient.Json.Error
import ContentClient.Text.Digits
import ContentClient.Text.Utf8

/-!
# Strings, numbers and words of JSON text

The readers of this module take the text that is left and give what they read together with what
remains. There are two of each: one that keeps the value, and one that only checks the form. The
checking ones are more lenient where the value alone is at fault: a number out of range or an
unpaired surrogate escape passes.
-/

namespace ContentClient.Json

/-- What a reader gives: a value and the text that remains, or a fault. -/
abbrev Reading (α : Type) := Except JsonError (α × List Char)

/-- The blanks of JSON text. -/
def isBlank (c : Char) : Bool := c == ' ' || c == '\t' || c == '\n' || c == '\r'

/-- The text from its first character that is no blank. -/
def skipBlank (cs : List Char) : List Char := cs.dropWhile isBlank

/-- The value of a decimal digit. -/
def digit? (c : Char) : Option Nat := if c.isDigit then some (c.toNat - '0'.toNat) else none

/-- The rest of a word whose first letter has been read. -/
def readWord : List Char → List Char → Reading Unit
  | [], cs => .ok ((), cs)
  | _ :: _, [] => .error .endInValue
  | e :: expected, c :: cs => if c = e then readWord expected cs else .error .expectedIdent

/-! ### Strings -/

/-- The value of four hexadecimal digits. Text with fewer than four octets left counts as ended. -/
def readHex4 (cs : List Char) : Reading Nat :=
  match cs with
  | a :: b :: c :: d :: rest =>
    match Text.digitsValue? 16 0 [a, b, c, d] with
    | some n => .ok (n, rest)
    | none => .error .invalidEscape
  | _ =>
    let octets := cs.foldl (fun n c => n + Text.octets c) 0
    if octets < 4 then .error .endInString else .error .invalidEscape

/-- Whether a code is the first half of a surrogate pair. -/
def isLeadSurrogate (n : Nat) : Bool := 0xD800 ≤ n && n ≤ 0xDBFF

/-- Whether a code is the second half of a surrogate pair. -/
def isTrailSurrogate (n : Nat) : Bool := 0xDC00 ≤ n && n ≤ 0xDFFF

/-- The character of an escape by code, after its `u`. A first half must be followed by the escape
of a second half. -/
def readCodeEscape (cs : List Char) : Except JsonError (Char × List Char) := do
  let (n, cs) ← readHex4 cs
  if isTrailSurrogate n then .error .loneSurrogate
  else if isLeadSurrogate n then
    match cs with
    | [] => .error .endInString
    | '\\' :: 'u' :: cs =>
      let (m, cs) ← readHex4 cs
      if isTrailSurrogate m then
        .ok (Text.charOf (0x10000 + (n - 0xD800) * 0x400 + (m - 0xDC00)), cs)
      else .error .loneSurrogate
    | ['\\'] => .error .endInString
    | _ => .error .unpairedSurrogate
  else .ok (Text.charOf n, cs)

/-- The character that a one-letter escape stands for. -/
def shortEscape? (c : Char) : Option Char :=
  if c = '"' ∨ c = '\\' ∨ c = '/' then some c
  else if c = 'b' then some (Char.ofNat 8)
  else if c = 'f' then some (Char.ofNat 12)
  else if c = 'n' then some '\n'
  else if c = 'r' then some '\r'
  else if c = 't' then some '\t'
  else none

/-- The character of an escape, after its backslash. -/
def readEscape (cs : List Char) : Reading Char :=
  match cs with
  | [] => .error .endInString
  | c :: rest =>
    if c = 'u' then readCodeEscape rest
    else match shortEscape? c with
      | some d => .ok (d, rest)
      | none => .error .invalidEscape

/-- The characters of a string after its opening quote, up to and without the closing one; `acc`
holds the characters so far in reverse. Every round takes at least one character, so as many rounds
as there are characters suffice. -/
def readStringBody : (rounds : Nat) → (acc : List Char) → List Char → Reading String
  | 0, _, _ => .error .endInString
  | _ + 1, _, [] => .error .endInString
  | rounds + 1, acc, c :: rest =>
    if c = '"' then .ok (String.ofList acc.reverse, rest)
    else if c = '\\' then
      match readEscape rest with
      | .ok (d, rest) => readStringBody rounds (d :: acc) rest
      | .error e => .error e
    else if c.toNat < 0x20 then .error .controlCharacter
    else readStringBody rounds (c :: acc) rest

/-- A string after its opening quote. -/
def readString (cs : List Char) : Reading String := readStringBody (cs.length + 1) [] cs

/-- Checks an escape after its backslash. -/
def skipEscape (cs : List Char) : Reading Unit :=
  match cs with
  | [] => .error .endInString
  | c :: rest =>
    if c = 'u' then (readHex4 rest).map fun r => ((), r.2)
    else if (shortEscape? c).isSome then .ok ((), rest)
    else .error .invalidEscape

/-- Checks the characters of a string after its opening quote. -/
def skipStringBody : (rounds : Nat) → List Char → Reading Unit
  | 0, _ => .error .endInString
  | _ + 1, [] => .error .endInString
  | rounds + 1, c :: rest =>
    if c = '"' then .ok ((), rest)
    else if c = '\\' then
      match skipEscape rest with
      | .ok (_, rest) => skipStringBody rounds rest
      | .error e => .error e
    else if c.toNat < 0x20 then .error .controlCharacter
    else skipStringBody rounds rest

/-- Checks a string after its opening quote. -/
def skipString (cs : List Char) : Reading Unit := skipStringBody (cs.length + 1) cs

/-! ### Numbers -/

/-- A run of digits appended to the significand `n`, as long as 64 bits hold the result, with the
number of digits taken. -/
def takeDigits (limit : Nat) : (n taken : Nat) → List Char → Nat × Nat × List Char
  | n, taken, [] => (n, taken, [])
  | n, taken, c :: rest =>
    match digit? c with
    | some d =>
      if n * 10 + d ≤ limit then takeDigits limit (n * 10 + d) (taken + 1) rest
      else (n, taken, c :: rest)
    | none => (n, taken, c :: rest)

/-- The text behind a run of digits. -/
def dropDigits (cs : List Char) : List Char := cs.dropWhile Char.isDigit

/-- The length of a run of digits. -/
def countDigits (cs : List Char) : Nat := (cs.takeWhile Char.isDigit).length

/-- Whether the text goes on with a digit. -/
def startsWithDigit : List Char → Bool
  | [] => false
  | c :: _ => c.isDigit

/-- Whether the text goes on with the mark of an exponent. -/
def startsExponent : List Char → Bool
  | [] => false
  | c :: _ => c == 'e' || c == 'E'

/-- The greatest power of ten that a double holds. -/
def greatestPower : Nat := 308

/-- A significand times a power of ten, computed with one rounding of the significand and one of
each product or quotient. Too large a result is a fault, too small a one is zero. -/
def scaleByTen : (rounds : Nat) → Float → Int → Except JsonError Float
  | 0, f, _ => .ok f
  | rounds + 1, f, exponent =>
    if exponent.natAbs ≤ greatestPower then
      let power := Decimal.nearestDouble (Nat.pow 10 exponent.natAbs)
      if exponent ≥ 0 then
        let g := f * power
        if g.isInf then .error .numberOutOfRange else .ok g
      else .ok (f / power)
    else if f == 0.0 then .ok f
    else if exponent ≥ 0 then .error .numberOutOfRange
    else
      scaleByTen rounds (f / Decimal.nearestDouble (Nat.pow 10 greatestPower))
        (exponent + greatestPower)

/-- A double from its sign, its significand and its power of ten. A quotient is zero after a few
divisions by the greatest power. -/
def doubleOf (positive : Bool) (significand : Nat) (exponent : Int) :
    Except JsonError JsonNumber := do
  let f ← scaleByTen 8 (Decimal.nearestDouble significand) exponent
  return .double (if positive then f else -f)

/-- The greatest exponent that is read as a number. -/
def maxExponent : Nat := 0x7FFFFFFF

/-- An exponent behind its mark, for a significand that already has the power `start`. -/
def readExponent (positive : Bool) (significand : Nat) (start : Int) (cs : List Char) :
    Except JsonError (JsonNumber × List Char) := do
  let (up, cs) := match cs with
    | '+' :: rest => (true, rest)
    | '-' :: rest => (false, rest)
    | _ => (true, cs)
  if cs.isEmpty then .error .endInValue
  else if !startsWithDigit cs then .error .invalidNumber
  else
    let (exponent, _, rest) := takeDigits maxExponent 0 0 cs
    if startsWithDigit rest then
      if significand ≠ 0 ∧ up then .error .numberOutOfRange
      else .ok (.double (if positive then 0.0 else -0.0), dropDigits rest)
    else
      let n ← doubleOf positive significand (if up then start + exponent else start - exponent)
      return (n, rest)

/-- The digits behind a point, for a significand that already has the power `start`. Digits that 64
bits do not hold are dropped. -/
def readFraction (positive : Bool) (significand : Nat) (start : Int) (cs : List Char) :
    Except JsonError (JsonNumber × List Char) := do
  let (n, taken, rest) := takeDigits JsonNumber.maxWord significand 0 cs
  if taken = 0 ∧ !startsWithDigit rest then
    if rest.isEmpty then .error .endInValue else .error .invalidNumber
  else
    let exponent := start - (taken : Int)
    let rest := dropDigits rest
    if startsExponent rest then readExponent positive n exponent (rest.drop 1)
    else return (← doubleOf positive n exponent, rest)

/-- What follows the whole part of a number. Minus zero and whole numbers that 64 bits do not hold
are doubles. -/
def readAfterWhole (positive : Bool) (n : Nat) (cs : List Char) : Reading JsonNumber :=
  match cs with
  | '.' :: rest => readFraction positive n 0 rest
  | _ =>
    if startsExponent cs then readExponent positive n 0 (cs.drop 1)
    else if positive then .ok (.integer n, cs)
    else if 1 ≤ n ∧ n ≤ 0x8000000000000000 then .ok (.integer (-(n : Int)), cs)
    else .ok (.double (-(Decimal.nearestDouble n)), cs)

/-- A number after its sign. -/
def readNumber (positive : Bool) (cs : List Char) : Reading JsonNumber :=
  match cs with
  | [] => .error .endInValue
  | c :: rest =>
    if c = '0' then
      if startsWithDigit rest then .error .invalidNumber else readAfterWhole positive 0 rest
    else if c.isDigit then
      let (n, _, rest) := takeDigits JsonNumber.maxWord 0 0 cs
      if startsWithDigit rest then
        let exponent : Int := countDigits rest
        match dropDigits rest with
        | '.' :: rest => readFraction positive n exponent rest
        | rest =>
          if startsExponent rest then readExponent positive n exponent (rest.drop 1)
          else (doubleOf positive n exponent).map fun x => (x, rest)
      else readAfterWhole positive n rest
    else .error .invalidNumber

/-- Checks an exponent behind its mark. -/
def skipExponent (cs : List Char) : Reading Unit :=
  let cs := match cs with
    | '+' :: rest => rest
    | '-' :: rest => rest
    | _ => cs
  if startsWithDigit cs then .ok ((), dropDigits cs) else .error .invalidNumber

/-- Checks a number after its sign. -/
def skipNumber (cs : List Char) : Reading Unit :=
  match cs with
  | [] => .error .invalidNumber
  | c :: rest =>
    if !c.isDigit ∨ (c = '0' ∧ startsWithDigit rest) then .error .invalidNumber
    else
      match dropDigits cs with
      | '.' :: rest =>
        if !startsWithDigit rest then .error .invalidNumber
        else
          let rest := dropDigits rest
          if startsExponent rest then skipExponent (rest.drop 1) else .ok ((), rest)
      | rest => if startsExponent rest then skipExponent (rest.drop 1) else .ok ((), rest)

end ContentClient.Json
