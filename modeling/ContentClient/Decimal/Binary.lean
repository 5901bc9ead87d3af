/-!
# Doubles as exact numbers

A finite double is a whole number times a power of two. `Binary.ofFloat` reads the two off its bits,
and `nearestDouble` goes back from a whole number, rounding to the nearest double and a tie to the
one with an even significand.
-/

namespace ContentClient.Decimal

/-- The magnitude of a finite double: `significand` times two to the power `exponent`. -/
structure Binary where
  significand : Nat
  exponent : Int
  /-- Whether the next smaller double is half as far away as the next larger one. -/
  atPowerOfTwo : Bool
  deriving DecidableEq, Repr

namespace Binary

/-- Whether the sign bit of a double is set. -/
def isNegative (x : Float) : Bool := x.toBits.toNat / 0x8000000000000000 == 1

/-- The magnitude of a double. For an infinity or a NaN the result has no meaning. -/
def ofFloat (x : Float) : Binary :=
  let bits : Nat := x.toBits.toNat
  let fraction : Nat := bits % 0x10000000000000
  let biased : Nat := bits / 0x10000000000000 % 0x800
  if biased = 0 then ⟨fraction, -1074, false⟩
  else ⟨fraction + 0x10000000000000, (biased : Int) - 1075, fraction = 0 ∧ 1 < biased⟩

end Binary

/-- The double nearest to a whole number, a tie going to the even significand. Above 64 bits the
digits that do not fit are folded into one that only tells whether they were all zero. -/
def nearestDouble (n : Nat) : Float :=
  if n < 0x10000000000000000 then n.toUInt64.toFloat
  else
    let excess : Nat := n.log2 - 62
    let kept : Nat := n >>> excess
    let sticky : Nat := if n % Nat.pow 2 excess = 0 then 0 else 1
    (kept ||| sticky).toUInt64.toFloat.scaleB excess

end ContentClient.Decimal
