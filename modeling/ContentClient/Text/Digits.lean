/-!
# Digits

Numbers written in digits of a radix up to sixteen.
-/

namespace ContentClient.Text

/-- The value of a digit in a radix. -/
def digitValue? (radix : Nat) (c : Char) : Option Nat :=
  let n := c.toNat
  let value? :=
    if 0x30 ≤ n ∧ n ≤ 0x39 then some (n - 0x30)
    else if 0x61 ≤ n ∧ n ≤ 0x66 then some (n - 0x61 + 10)
    else if 0x41 ≤ n ∧ n ≤ 0x46 then some (n - 0x41 + 10)
    else none
  value?.filter (· < radix)

/-- The number that digits of a radix write, on top of the digits before them. -/
def digitsValue? (radix : Nat) : (before : Nat) → List Char → Option Nat
  | before, [] => some before
  | before, c :: rest =>
    match digitValue? radix c with
    | none => none
    | some d => digitsValue? radix (before * radix + d) rest

/-- A count of 64 bits in decimal digits, which a plus sign may open. -/
def word? (text : List Char) : Option Nat :=
  let digits := match text with
    | '+' :: digits => digits
    | digits => digits
  if digits.isEmpty then none else (digitsValue? 10 0 digits).filter (· ≤ 0xFFFFFFFFFFFFFFFF)

end ContentClient.Text
