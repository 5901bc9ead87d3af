import ContentClient.ApiError
import ContentClient.Backoff.Counter

/-!
# Retries

A call is attempted until it succeeds, fails in a way that another attempt cannot mend, has used up
its retries, or cannot be reset. Between two attempts it is reset and then waits. The loop is stated
over anything that can be attempted and reset.
-/

namespace ContentClient

/-- Why an attempt failed, and the delay that the server asks for. -/
structure Failure where
  error : ApiError
  retryAfter : Option Duration := none

/-- Something that can be attempted and made ready for another attempt, with the state `τ`. -/
structure Attempting (τ ρ : Type) where
  attempt : τ → Except Failure ρ × τ
  /-- The result tells whether another attempt is possible. -/
  reset : τ → Except IoError Bool × τ

/-- How a call ended, and after how many attempts. -/
structure Retried (τ ρ : Type) where
  result : Except ApiError ρ
  attempts : Nat
  state : τ
  clocks : Timeline

namespace Attempting

variable {τ ρ : Type}

/-- Attempts a call after `made` earlier attempts, for as long as a counter allows retries. -/
def run (call : Attempting τ ρ) (made : Nat) (counter : BackoffCounter) (state : τ)
    (clocks : Timeline) : Retried τ ρ :=
  match call.attempt state with
  | (.ok result, state) => ⟨.ok result, made + 1, state, clocks⟩
  | (.error failure, state) =>
    let final (state : τ) : Retried τ ρ :=
      ⟨.error (failure.error.withAttempts (made + 1)), made + 1, state, clocks⟩
    if !failure.error.isRetryable then final state
    else if h : counter.canRetry then
      match call.reset state with
      | (.ok true, state) =>
        let waited := counter.wait failure.retryAfter clocks
        have : counter.maxRetries - waited.2.1.attempt < counter.maxRetries - counter.attempt :=
          counter.budget_wait_lt h
        call.run (made + 1) waited.2.1 state waited.2.2
      | (_, state) => final state
    else final state
termination_by counter.maxRetries - counter.attempt

end Attempting

end ContentClient
