import ContentClient.Decimal.Binary

/-!
# The shortest decimal of a double

Every decimal strictly between the midpoints to the neighbouring doubles reads back as the same
double; the midpoints themselves do if the significand is even. `shortest` tries one digit, two
digits and so on, up to the seventeen that always suffice: on each decimal grid only the two
neighbours of the exact value can lie in that interval, and the first grid with a hit gives the
digits, the nearer neighbour first. Everything is computed on whole numbers.
-/

namespace ContentClient.Decimal

/-- A decimal number: `digits` times ten to the power `exponent`. -/
structure Scientific where
  digits : Nat
  exponent : Int
  deriving DecidableEq, Repr

/-- A positive fraction and the interval around it, all over one denominator. -/
structure Interval where
  value : Nat
  low : Nat
  high : Nat
  denominator : Nat
  /-- Whether the ends belong to the interval. -/
  closed : Bool

/-- The interval of the numbers that round to a positive double. -/
def Interval.ofBinary (b : Binary) : Interval :=
  let scale (n : Nat) : Nat := if b.exponent ≥ 2 then n * Nat.pow 2 (b.exponent - 2).toNat else n
  { value := scale (4 * b.significand)
    low := scale (4 * b.significand - if b.atPowerOfTwo then 1 else 2)
    high := scale (4 * b.significand + 2)
    denominator := if b.exponent ≥ 2 then 1 else Nat.pow 2 (2 - b.exponent).toNat
    closed := b.significand % 2 = 0 }

/-- The greatest `k` with `10 ^ k ≤ value`, for a positive fraction; `steps` bounds the search. -/
def Interval.magnitude (i : Interval) : Int :=
  if i.denominator ≤ i.value then ((Nat.toDigits 10 (i.value / i.denominator)).length : Int) - 1
  else go 400 1
where
  go : Nat → Nat → Int
    | 0, k => -(k : Int)
    | steps + 1, k =>
      if i.denominator ≤ i.value * Nat.pow 10 k then -(k : Int) else go steps (k + 1)

/-- Whether `d` times ten to the power `e` lies in the interval. -/
def Interval.contains (i : Interval) (d : Nat) (e : Int) : Bool :=
  let scaled := if e ≥ 0 then d * Nat.pow 10 e.toNat * i.denominator else d * i.denominator
  let unit := if e ≥ 0 then 1 else Nat.pow 10 (-e).toNat
  if i.closed then i.low * unit ≤ scaled ∧ scaled ≤ i.high * unit
  else i.low * unit < scaled ∧ scaled < i.high * unit

/-- The better of the two neighbours of the value among the multiples of ten to the power `e`, if
one of them lies in the interval. Of two equally near ones the even one is taken. -/
def Interval.onGrid? (i : Interval) (e : Int) : Option Scientific :=
  let numerator := if e ≥ 0 then i.value else i.value * Nat.pow 10 (-e).toNat
  let unit := if e ≥ 0 then i.denominator * Nat.pow 10 e.toNat else i.denominator
  let below := numerator / unit
  let twice := 2 * (numerator % unit)
  let above := twice > unit ∨ (twice = unit ∧ below % 2 = 1)
  let near := if above then below + 1 else below
  let far := if above then below else below + 1
  if i.contains near e then some ⟨near, e⟩
  else if i.contains far e then some ⟨far, e⟩
  else none

/-- A decimal without trailing zeros; at most `steps` of them are dropped. -/
def Scientific.trim : Nat → Scientific → Scientific
  | 0, s => s
  | steps + 1, s =>
    if s.digits ≠ 0 ∧ s.digits % 10 = 0 then trim steps ⟨s.digits / 10, s.exponent + 1⟩ else s

/-- The shortest decimal that reads back as the magnitude of a finite double. -/
def shortest (b : Binary) : Scientific :=
  if b.significand = 0 then ⟨0, 0⟩
  else
    let i := Interval.ofBinary b
    let top := i.magnitude
    let grids := (List.range 17).map fun (n : Nat) => top - (n : Int)
    ((grids.findSome? i.onGrid?).getD ⟨0, 0⟩).trim 20

end ContentClient.Decimal
