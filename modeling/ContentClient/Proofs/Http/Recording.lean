import ContentClient.Http.Link

/-!
# Links that keep a record

A link can be made to keep a record of the heads that it is given. The record stands beside the
state of the link and changes nothing of what the link does (`Exchange.run_recorded`), so that it
shows which heads are handed over in a run that does not record them.
-/

namespace ContentClient

namespace Exchange

variable {σ τ : Type} (f : σ → τ)

/-- The exchange that ends in another state. -/
def map : Exchange σ → Exchange τ
  | .finish reply state => .finish reply (f state)
  | .read size next => .read size fun result => (next result).map
  | .drain next => .drain fun result => (next result).map

/-- Only the state at the end is another one. -/
theorem run_map (e : Exchange σ) (flow : Flow) :
    (e.map f).run flow = ((e.run flow).1, f (e.run flow).2.1, (e.run flow).2.2) := by
  induction e generalizing flow with
  | finish reply state => rfl
  | read size next ih => exact ih _ _
  | drain next ih => exact ih _ _

end Exchange

variable {σ : Type}

/-- The link that keeps a record of the heads that it is given, oldest first. -/
def Link.recorded (link : Link σ) : Link (σ × List Outgoing) := fun out state =>
  (link out state.1).map fun next => (next, state.2 ++ [out])

/-- Keeping a record changes nothing of what a link does. -/
theorem Exchange.run_recorded (link : Link σ) (out : Outgoing) (state : σ × List Outgoing)
    (flow : Flow) :
    (link.recorded out state).run flow =
      (((link out state.1).run flow).1, (((link out state.1).run flow).2.1, state.2 ++ [out]),
        ((link out state.1).run flow).2.2) :=
  Exchange.run_map _ _ _

end ContentClient
