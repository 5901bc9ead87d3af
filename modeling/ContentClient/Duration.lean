/-!
# Lengths of time

A duration is a whole number of nanoseconds.
-/

namespace ContentClient

/-- A length of time in nanoseconds. -/
structure Duration where
  nanos : Nat
  deriving DecidableEq, Repr

namespace Duration

def ofMillis (n : Nat) : Duration := ⟨n * 1000000⟩

def ofSecs (n : Nat) : Duration := ⟨n * 1000000000⟩

/-- The whole milliseconds of a duration. -/
def toMillis (d : Duration) : Nat := d.nanos / 1000000

/-- The whole seconds of a duration. -/
def toSecs (d : Duration) : Nat := d.nanos / 1000000000

/-- The shorter of two durations. -/
instance : Min Duration := ⟨fun a b => if a.nanos ≤ b.nanos then a else b⟩

instance : LE Duration := ⟨fun a b => a.nanos ≤ b.nanos⟩

theorem nanos_min (a b : Duration) : (min a b).nanos = min a.nanos b.nanos := by
  simp only [min]
  split <;> rfl

/-- A fraction of `width` digits behind a point, without its trailing zeros; nothing if it is zero.
-/
def fractionText (fraction width : Nat) : String :=
  let digits := Nat.toDigits 10 fraction
  let padded := List.replicate (width - digits.length) '0' ++ digits
  let kept := (padded.reverse.dropWhile (· == '0')).reverse
  if kept.isEmpty then "" else "." ++ String.ofList kept

/-- A duration in the largest of the units s, ms, µs and ns that has a whole part, with the fraction
that remains. -/
def text (d : Duration) : String :=
  let inUnit (unit width : Nat) (name : String) : String :=
    toString (d.nanos / unit) ++ fractionText (d.nanos % unit) width ++ name
  if 1000000000 ≤ d.nanos then inUnit 1000000000 9 "s"
  else if 1000000 ≤ d.nanos then inUnit 1000000 6 "ms"
  else if 1000 ≤ d.nanos then inUnit 1000 3 "µs"
  else toString d.nanos ++ "ns"

end Duration

end ContentClient
