/-!
# Punycode

**Punycode** writes a text in ASCII: its ASCII characters first, then where the others belong, in
ascending order, as differences of variable length whose digits adapt to the differences before.
-/

namespace ContentClient

namespace Punycode

/-- The digit for a value below 36. -/
def digit (n : Nat) : Char :=
  if n < 26 then Char.ofNat (n + 0x61) else Char.ofNat (n - 26 + 0x30)

/-- The value of a lower-case digit. -/
def value? (c : Char) : Option Nat :=
  let n := c.toNat
  if 0x61 ≤ n ∧ n ≤ 0x7A then some (n - 0x61)
  else if 0x30 ≤ n ∧ n ≤ 0x39 then some (n - 0x30 + 26)
  else none

/-- The value from which on a digit at the place with weight index `k` is not the last one. -/
def threshold (k bias : Nat) : Nat := max 1 (min 26 (k - bias))

/-- Divides by 35 until 455 or less is left, and counts 36 for every division. -/
def settle : (rounds : Nat) → (delta k : Nat) → Nat × Nat
  | 0, delta, k => (delta, k)
  | rounds + 1, delta, k => if delta ≤ 455 then (delta, k) else settle rounds (delta / 35) (k + 36)

/-- The bias after a difference, by the number of characters so far. -/
def adapt (delta count : Nat) (isFirst : Bool) : Nat :=
  let scaled := if isFirst then delta / 700 else delta / 2
  let scaled := scaled + scaled / count
  let (rest, k) := settle scaled scaled 0
  k + 36 * rest / (rest + 38)

/-- A difference as digits, of which there are at most one more than its value. -/
def digits (bias : Nat) : (rounds : Nat) → (k q : Nat) → List Char
  | 0, _, q => [digit q]
  | rounds + 1, k, q =>
    let t := threshold k bias
    if q < t then [digit q]
    else digit (t + (q - t) % (36 - t)) :: digits bias rounds (k + 36) ((q - t) / (36 - t))

/-- The writing of a label as far as it has come. -/
structure Progress where
  written : List Char
  /-- The difference counted so far. -/
  delta : Nat := 0
  bias : Nat := 72
  /-- The characters handled so far. -/
  handled : Nat

/-- Passes one character of the label while the code `m` is handled. -/
def pass (basics m : Nat) (p : Progress) (c : Char) : Progress :=
  if c.toNat < m then { p with delta := p.delta + 1 }
  else if c.toNat = m then
    { written := p.written ++ digits p.bias p.delta 36 p.delta
      delta := 0
      bias := adapt p.delta (p.handled + 1) (p.handled == basics)
      handled := p.handled + 1 }
  else p

/-- Handles codes in ascending order, of which `next` is the least possible. -/
def handle (label : List Char) (basics : Nat) : (codes : List Nat) → (next : Nat) → Progress →
    List Char
  | [], _, p => p.written
  | m :: codes, next, p =>
    let p := { p with delta := p.delta + (m - next) * (p.handled + 1) }
    let p := label.foldl (pass basics m) p
    handle label basics codes (m + 1) { p with delta := p.delta + 1 }

/-- A text in Punycode. -/
def encode (label : List Char) : List Char :=
  let basic := label.filter fun c => c.toNat < 0x80
  let codes := ((label.map Char.toNat).filter (0x80 ≤ ·)).mergeSort.eraseDups
  let written := if basic.isEmpty then [] else basic ++ ['-']
  handle label basic.length codes 0x80 { written := written, handled := basic.length }

/-- The reading of a label as far as it has come. -/
structure Reading where
  read : List Char
  code : Nat := 0x80
  bias : Nat := 72
  /-- The place of the next character, as far as its digits are read. -/
  place : Nat := 0
  /-- The place from which the difference at hand counts. -/
  origin : Nat := 0
  weight : Nat := 1
  k : Nat := 36

/-- The bound of the numbers that a difference is read with. -/
def bound : Nat := 0x100000000

/-- Reads the differences of a label. -/
def insertAll : List Char → Reading → Option (List Char)
  | [], r => if r.k = 36 then some r.read else none
  | c :: rest, r =>
    match value? c with
    | none => none
    | some d =>
      let place := r.place + d * r.weight
      let t := threshold r.k r.bias
      let weight := r.weight * (36 - t)
      if bound ≤ place then none
      else if d < t then
        let count := r.read.length + 1
        let code := r.code + place / count
        let at_ := place % count
        if code.isValidChar then
          insertAll rest
            { read := r.read.take at_ ++ [Char.ofNat code] ++ r.read.drop at_
              code := code
              bias := adapt (place - r.origin) count (r.origin == 0)
              place := at_ + 1
              origin := at_ + 1 }
        else none
      else if bound ≤ weight then none
      else insertAll rest { r with place := place, weight := weight, k := r.k + 36 }

/-- The text that Punycode stands for. A hyphen ends ASCII characters if there are any. -/
def decode? (encoded : List Char) : Option (List Char) :=
  let deltas := (encoded.reverse.takeWhile (· ≠ '-')).reverse
  let basic := encoded.take (encoded.length - deltas.length - 1)
  if basic.isEmpty && deltas.length < encoded.length then none
  else insertAll deltas { read := basic }

end Punycode

end ContentClient
