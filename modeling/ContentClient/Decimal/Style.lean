import ContentClient.Decimal.Shortest

/-!
# Writing a double

A `Style` records the decisions that two formats make differently about the same shortest digits:
which magnitudes are written positionally, and how an exponent is marked.
-/

namespace ContentClient.Decimal

/-- How a format writes a finite double. -/
structure Style where
  /-- The least power of ten of a first digit that is written positionally. -/
  leastPositional : Int
  /-- The greatest power of ten of a first digit that is written positionally. -/
  greatestPositional : Int
  /-- What precedes an exponent that is not negative. -/
  positiveExponent : String

/-- JSON writes magnitudes from 10^-5 up to 10^16 positionally, larger exponents with a plus. -/
def Style.json : Style := ⟨-5, 15, "+"⟩

/-- Diagnostics write magnitudes from 10^-4 up to 10^16 positionally, exponents without a plus. -/
def Style.diagnostic : Style := ⟨-4, 15, ""⟩

/-- `n` zeros. -/
def zeros (n : Nat) : String := String.ofList (List.replicate n '0')

/-- A decimal in a style. A whole number written positionally keeps a `.0`. -/
def Style.write (style : Style) (s : Scientific) : String :=
  let digits := Nat.toDigits 10 s.digits
  let first : Int := s.exponent + (digits.length : Int) - 1
  if s.digits = 0 then "0.0"
  else if style.leastPositional ≤ first ∧ first ≤ style.greatestPositional then
    if s.exponent ≥ 0 then String.ofList digits ++ zeros s.exponent.toNat ++ ".0"
    else if first ≥ 0 then
      String.ofList (digits.take (first + 1).toNat) ++ "." ++
        String.ofList (digits.drop (first + 1).toNat)
    else "0." ++ zeros (-first - 1).toNat ++ String.ofList digits
  else
    let fraction := digits.drop 1
    String.ofList (digits.take 1) ++
      (if fraction.isEmpty then "" else "." ++ String.ofList fraction) ++ "e" ++
      (if first ≥ 0 then style.positiveExponent ++ toString first.toNat
       else "-" ++ toString (-first).toNat)

/-- A double in a style, with the names of the values that have no digits. -/
def Style.writeFloat (style : Style) (x : Float) : String :=
  if x.isNaN then "NaN"
  else
    let sign := if Binary.isNegative x then "-" else ""
    if x.isInf then sign ++ "inf"
    else sign ++ style.write (shortest (Binary.ofFloat x))

end ContentClient.Decimal
