import ContentClient.Decimal.Style
import ContentClient.Duration
import ContentClient.Text.Quoted

/-!
# Backoff policy

The delay before a retry doubles with every attempt, is capped, and is then stretched by a factor
drawn from an interval around one. Doubling and capping are exact; the stretching is written once
over any `JitterNumber`, of which the doubles are the instance that runs.
-/

namespace ContentClient

/-- The numbers in which a delay is stretched. -/
class JitterNumber (α : Type) extends Add α, Sub α, Mul α where
  /-- The number for a count. -/
  whole : Nat → α
  less : α → α → Bool
  /-- The nearest count, a half going up, zero for what lies below and `2 ^ 64 - 1` for what lies
  above the counts of 64 bits. -/
  roundToWord : α → Nat

namespace JitterNumber

variable {α : Type} [JitterNumber α]

/-- A number held between zero and one. -/
def clampUnit (x : α) : α :=
  if less x (whole 0) then whole 0 else if less (whole 1) x then whole 1 else x

/-- The factor between `1 - spread` and `1 + spread` that a sample from zero to one selects. -/
def factor (spread sample : α) : α :=
  whole 1 - clampUnit spread + clampUnit sample * whole 2 * clampUnit spread

/-- A count of milliseconds stretched by a factor. -/
def stretch (millis : Nat) (spread sample : α) : Nat :=
  roundToWord (whole millis * factor spread sample)

end JitterNumber

instance : JitterNumber Float where
  whole := Decimal.nearestDouble
  less a b := a < b
  roundToWord x := x.round.toUInt64.toNat

/-- How long to wait between attempts. -/
structure BackoffPolicy where
  baseDelay : Duration
  maxDelay : Duration
  /-- How far from one the jitter factor may lie. -/
  randomizationFactor : Float

namespace BackoffPolicy

/-- One second, doubled up to a minute, halved at least and one and a half times at most. -/
protected def default : BackoffPolicy := ⟨.ofSecs 1, .ofSecs 60, 0.5⟩

instance : Inhabited BackoffPolicy := ⟨.default⟩

/-- The number of doublings after which a delay no longer grows. -/
def maxDoublings : Nat := 16

/-- The greatest count of 128 bits. -/
def maxWide : Nat := 0xFFFFFFFFFFFFFFFFFFFFFFFFFFFFFFFF

/-- The milliseconds before jitter: the base doubled once per attempt, capped. -/
def cappedMillis (p : BackoffPolicy) (attempt : Nat) : Nat :=
  let doubled := p.baseDelay.toMillis * Nat.pow 2 (min attempt maxDoublings)
  min (min doubled maxWide) p.maxDelay.toMillis

/-- The delay before retry number `attempt`, counted from zero, for a sample from zero to one, with
the sample and how far from one the jitter factor may lie in numbers of any kind. -/
def delayIn {α : Type} [JitterNumber α] (p : BackoffPolicy) (spread : α) (attempt : Nat)
    (sample : α) : Duration :=
  .ofMillis (JitterNumber.stretch (p.cappedMillis attempt) spread sample)

/-- The delay before retry number `attempt`, counted from zero, for a sample from zero to one. -/
def delay (p : BackoffPolicy) (attempt : Nat) (sample : Float) : Duration :=
  p.delayIn p.randomizationFactor attempt sample

/-- The policy in diagnostics. -/
def describe (p : BackoffPolicy) : String :=
  Text.Notation.record "BackoffPolicy"
    [("base_delay", p.baseDelay.text), ("max_delay", p.maxDelay.text),
      ("randomization_factor", Decimal.Style.diagnostic.writeFloat p.randomizationFactor)]

end BackoffPolicy

end ContentClient
