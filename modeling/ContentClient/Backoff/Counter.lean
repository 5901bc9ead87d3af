import ContentClient.Backoff.Clock
import ContentClient.Backoff.Policy

/-!
# Retry counters

A counter knows its policy, its clock, how many retries it has waited for and how many it allows.
Copies of a counter share the clock and nothing else. Counts have no greatest value here. In use
they have 32 bits, which no run of waits comes near to using up.
-/

namespace ContentClient

/-- The retry bookkeeping of one call. -/
structure BackoffCounter where
  policy : BackoffPolicy
  clock : Clock
  /-- The retries already waited for. -/
  attempt : Nat := 0
  maxRetries : Nat

namespace BackoffCounter

/-- Whether the counter allows another retry. -/
def canRetry (c : BackoffCounter) : Bool := c.attempt < c.maxRetries

/-- The counter as it was before any wait. -/
def reset (c : BackoffCounter) : BackoffCounter := { c with attempt := 0 }

/-- The delay of the next wait. A requested delay replaces the computed one and is capped by the
policy; only a computed delay draws a sample. -/
def nextDelay (c : BackoffCounter) (requested : Option Duration) (t : Timeline) :
    Duration × Timeline :=
  match requested with
  | some d => (min d c.policy.maxDelay, t)
  | none =>
    let (x, t) := t.sample c.clock
    (c.policy.delay c.attempt x, t)

/-- Waits before the next attempt. -/
def wait (c : BackoffCounter) (requested : Option Duration) (t : Timeline) :
    Duration × BackoffCounter × Timeline :=
  let (d, t) := c.nextDelay requested t
  (d, { c with attempt := c.attempt + 1 }, t.sleep c.clock d)

@[simp] theorem attempt_wait (c : BackoffCounter) (requested : Option Duration) (t : Timeline) :
    (c.wait requested t).2.1.attempt = c.attempt + 1 := rfl

theorem canRetry_iff {c : BackoffCounter} : c.canRetry = true ↔ c.attempt < c.maxRetries :=
  decide_eq_true_iff

/-- A wait uses up one of the retries that a counter still allows. -/
theorem budget_wait_lt (c : BackoffCounter) (h : c.canRetry = true) {requested : Option Duration}
    {t : Timeline} :
    c.maxRetries - (c.wait requested t).2.1.attempt < c.maxRetries - c.attempt := by
  have := canRetry_iff.mp h
  rw [attempt_wait]
  omega

/-- The counter in diagnostics. -/
def describe (c : BackoffCounter) : String :=
  Text.Notation.record "BackoffCounter"
    [("policy", c.policy.describe), ("attempt", toString c.attempt),
      ("max_retries", toString c.maxRetries)]

end BackoffCounter

end ContentClient
