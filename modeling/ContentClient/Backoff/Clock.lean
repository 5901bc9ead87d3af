import ContentClient.Duration

/-!
# Clocks

Waiting and randomness both go through a clock. Clocks are named: whoever waits holds the name, and
the state of all clocks, the samples they still have to hand out and the waits so far, is one
`Timeline`. Holders of one name therefore share its samples.
-/

namespace ContentClient

/-- What a counter waits on. -/
inductive Clock where
  /-- The clock of the machine; its waits leave no record. -/
  | system
  /-- A clock that records its waits under a name. -/
  | recorded (name : String)
  deriving DecidableEq, Repr

/-- The state of all clocks. -/
structure Timeline where
  /-- The samples that each recording clock still has to hand out. -/
  samples : String → List Float
  /-- The waits of the recording clocks, oldest first. -/
  waits : List (String × Duration)

namespace Timeline

/-- The sample of a clock that has no other left, and of the machine's clock. -/
def midpoint : Float := 0.5

/-- No samples and no waits. -/
def empty : Timeline := ⟨fun _ => [], []⟩

/-- Gives a recording clock a fresh list of samples. -/
def load (t : Timeline) (name : String) (samples : List Float) : Timeline :=
  { t with samples := fun n => if n = name then samples else t.samples n }

/-- The next sample of a clock. -/
def sample (t : Timeline) : Clock → Float × Timeline
  | .system => (midpoint, t)
  | .recorded name =>
    match t.samples name with
    | [] => (midpoint, t)
    | x :: rest => (x, t.load name rest)

/-- Lets a clock wait. -/
def sleep (t : Timeline) (clock : Clock) (d : Duration) : Timeline :=
  match clock with
  | .system => t
  | .recorded name => { t with waits := t.waits ++ [(name, d)] }

@[simp] theorem waits_sample (t : Timeline) (clock : Clock) :
    (t.sample clock).2.waits = t.waits := by
  unfold sample
  split
  · rfl
  · split <;> rfl

@[simp] theorem samples_sleep (t : Timeline) (clock : Clock) (d : Duration) :
    (t.sleep clock d).samples = t.samples := by
  cases clock <;> rfl

end Timeline

end ContentClient
