import ContentClient.Backoff.Counter

/-!
# Draws and waits on one clock

Whoever holds a clock draws samples from it and waits on it. Draws touch only the samples and waits
only the record, so the two commute (`sample_sleepAll`), and however a run mixes them, the clocks
that it leaves are given by the **number of draws** and the **list of waits**: `skip` and
`sleepAll`. A wait of a counter adds one delay to the list, and a draw if no delay was requested
(`wait_skip_sleepAll`).
-/

namespace ContentClient

namespace Timeline

/-- The clocks after `n` draws from one of them. -/
def skip (t : Timeline) (clock : Clock) : Nat → Timeline
  | 0 => t
  | n + 1 => ((t.skip clock n).sample clock).2

/-- The sample that a clock gives after `n` draws. -/
def upcoming (t : Timeline) (clock : Clock) (n : Nat) : Float :=
  ((t.skip clock n).sample clock).1

/-- The clocks after a list of waits on one of them. -/
def sleepAll (t : Timeline) (clock : Clock) (delays : List Duration) : Timeline :=
  delays.foldl (fun t d => t.sleep clock d) t

/-! ### What draws leave -/

@[simp] theorem waits_skip (t : Timeline) (clock : Clock) (n : Nat) :
    (t.skip clock n).waits = t.waits := by
  induction n with
  | zero => rfl
  | succ n ih => rw [skip, waits_sample, ih]

theorem samples_sample (t : Timeline) (name : String) :
    (t.sample (.recorded name)).2.samples name = (t.samples name).tail := by
  cases h : t.samples name with
  | nil => simp [sample, h]
  | cons x rest => simp [sample, h, load]

theorem sample_fst (t : Timeline) (name : String) :
    (t.sample (.recorded name)).1 = (t.samples name).head?.getD midpoint := by
  cases h : t.samples name with
  | nil => simp [sample, h]
  | cons x rest => simp [sample, h]

theorem samples_skip (t : Timeline) (name : String) (n : Nat) :
    (t.skip (.recorded name) n).samples name = (t.samples name).drop n := by
  induction n with
  | zero => rfl
  | succ n ih => rw [skip, samples_sample, ih, List.tail_drop]

/-- A recording clock gives its samples in order, and then the middle for ever. -/
theorem upcoming_recorded (t : Timeline) (name : String) (n : Nat) :
    t.upcoming (.recorded name) n = (t.samples name)[n]?.getD midpoint := by
  rw [upcoming, sample_fst, samples_skip, List.head?_drop]

/-! ### What waits leave -/

theorem sleepAll_append (t : Timeline) (clock : Clock) (ds es : List Duration) :
    t.sleepAll clock (ds ++ es) = (t.sleepAll clock ds).sleepAll clock es :=
  List.foldl_append

theorem sleepAll_concat (t : Timeline) (clock : Clock) (ds : List Duration) (d : Duration) :
    t.sleepAll clock (ds ++ [d]) = (t.sleepAll clock ds).sleep clock d :=
  sleepAll_append t clock ds [d]

/-- A recording clock keeps all its waits in order. -/
theorem waits_sleepAll (t : Timeline) (name : String) (ds : List Duration) :
    (t.sleepAll (.recorded name) ds).waits = t.waits ++ ds.map fun d => (name, d) := by
  induction ds generalizing t with
  | nil => simp [sleepAll]
  | cons d ds ih =>
    calc (t.sleepAll (.recorded name) (d :: ds)).waits
        = ((t.sleep (.recorded name) d).sleepAll (.recorded name) ds).waits := rfl
      _ = (t.sleep (.recorded name) d).waits ++ ds.map fun d => (name, d) := ih _
      _ = t.waits ++ (d :: ds).map fun d => (name, d) := by simp [sleep]

/-- Waits draw no samples. -/
theorem samples_sleepAll (t : Timeline) (clock : Clock) (ds : List Duration) :
    (t.sleepAll clock ds).samples = t.samples := by
  induction ds generalizing t with
  | nil => rfl
  | cons d ds ih => exact (ih (t.sleep clock d)).trans (samples_sleep t clock d)

/-- A wait does not get in the way of a draw. -/
theorem sample_sleep (t : Timeline) (clock : Clock) (d : Duration) :
    (t.sleep clock d).sample clock = ((t.sample clock).1, (t.sample clock).2.sleep clock d) := by
  cases clock with
  | system => rfl
  | recorded name =>
    cases h : t.samples name with
    | nil => simp [sample, sleep, h]
    | cons x rest => simp [sample, sleep, load, h]

/-- Waits do not get in the way of a draw. -/
theorem sample_sleepAll (t : Timeline) (clock : Clock) (ds : List Duration) :
    (t.sleepAll clock ds).sample clock =
      ((t.sample clock).1, (t.sample clock).2.sleepAll clock ds) := by
  induction ds generalizing t with
  | nil => rfl
  | cons d ds ih =>
    change ((t.sleep clock d).sleepAll clock ds).sample clock = _
    rw [ih, sample_sleep]
    rfl

end Timeline

/-! ### A wait of a counter -/

/-- The delay of the retry with a number: the one that was requested, as far as the policy allows,
or else the one that the policy computes from a sample. -/
def BackoffPolicy.delayFor (p : BackoffPolicy) (attempt : Nat) (requested : Option Duration)
    (sample : Float) : Duration :=
  match requested with
  | some d => min d p.maxDelay
  | none => p.delay attempt sample

/-- The number of samples that a wait draws. -/
def drawsFor (requested : Option Duration) : Nat := if requested.isNone then 1 else 0

/-- The delay of a wait on a clock from which `n` samples have been drawn. -/
theorem BackoffCounter.fst_wait_skip_sleepAll (c : BackoffCounter) (requested : Option Duration)
    (t : Timeline) (n : Nat) (ds : List Duration) :
    (c.wait requested ((t.skip c.clock n).sleepAll c.clock ds)).1 =
      c.policy.delayFor c.attempt requested (t.upcoming c.clock n) := by
  cases requested with
  | some d => rfl
  | none =>
    have hdraw := Timeline.sample_sleepAll (t.skip c.clock n) c.clock ds
    simp only [wait, nextDelay, hdraw]
    rfl

/-- A wait on a clock from which `n` samples have been drawn. -/
theorem BackoffCounter.wait_skip_sleepAll (c : BackoffCounter) (requested : Option Duration)
    (t : Timeline) (n : Nat) (ds : List Duration) :
    (c.wait requested ((t.skip c.clock n).sleepAll c.clock ds)).2 =
      ({ c with attempt := c.attempt + 1 },
        (t.skip c.clock (n + drawsFor requested)).sleepAll c.clock
          (ds ++ [c.policy.delayFor c.attempt requested (t.upcoming c.clock n)])) := by
  cases requested with
  | some d =>
    rw [Timeline.sleepAll_concat]
    rfl
  | none =>
    have hdraw := Timeline.sample_sleepAll (t.skip c.clock n) c.clock ds
    rw [Timeline.sleepAll_concat]
    simp only [wait, nextDelay, hdraw]
    rfl

end ContentClient
