import ContentClient.Backoff.Retry
import ContentClient.Proofs.Backoff.Waiting
import Mathlib.Order.Bounds.Defs
import Mathlib.Data.Nat.Find

/-!
# The history of a retried call

A call that is attempted and reset over and over, without a limit, has a **history**: the state in
which every attempt begins, what it comes to, and whether the call can be reset behind it. A retried
call is an initial piece of that history. It ends with the first attempt that is final
(`IsFinal`): one that succeeds, fails beyond mending, has no retry left, or cannot be reset.

The main statement is `run_eq_of_isLeast`: given the number of the first final attempt, it says what
the retry loop returns, which operations it made on the call, and what it did to the clocks. The
loop invariant behind it is `run_eq_run_before`: after any number of attempts that are not final,
the loop stands where the history says, with a counter that has counted these attempts.
-/

namespace ContentClient

namespace Attempting

variable {τ ρ : Type} (call : Attempting τ ρ) (start : τ)

/-! ### Histories -/

/-- The state in which attempt number `i`, counted from zero, begins if every attempt before it was
followed by a reset. -/
def before : Nat → τ
  | 0 => start
  | i + 1 => (call.reset (call.attempt (before i)).2).2

/-- What attempt number `i` comes to. -/
def outcome (i : Nat) : Except Failure ρ := (call.attempt (call.before start i)).1

/-- The state in which attempt number `i` ends. -/
def after (i : Nat) : τ := (call.attempt (call.before start i)).2

/-- Whether the call can be reset behind attempt number `i`. -/
def readiness (i : Nat) : Except IoError Bool := (call.reset (call.after start i)).1

/-- The delay that the server asks for in attempt number `i`. -/
def requested (i : Nat) : Option Duration :=
  match call.outcome start i with
  | .ok _ => none
  | .error failure => failure.retryAfter

/-- Whether attempt number `i` failed in a way that another attempt may mend. -/
def isMendable (i : Nat) : Bool :=
  match call.outcome start i with
  | .ok _ => false
  | .error failure => failure.error.isRetryable

/-- Attempt number `i` is **final** for a call with at most `limit` retries: it succeeds, or its
failure cannot be mended, or all retries have been used, or the call cannot be reset behind it. -/
def IsFinal (limit i : Nat) : Prop :=
  (∃ result, call.outcome start i = .ok result) ∨
    (∃ failure, call.outcome start i = .error failure ∧ failure.error.isRetryable = false) ∨
    i = limit ∨ call.readiness start i = .ok false ∨ ∃ e, call.readiness start i = .error e

/-- An attempt that is not final fails, may be mended, and leaves a retry and a call that is ready
for it. -/
theorem not_isFinal_iff {limit i : Nat} :
    ¬call.IsFinal start limit i ↔
      ∃ failure, call.outcome start i = .error failure ∧ failure.error.isRetryable = true ∧
        i ≠ limit ∧ call.readiness start i = .ok true := by
  unfold IsFinal
  cases call.outcome start i with
  | ok result => simp
  | error failure =>
    cases call.readiness start i with
    | error e => simp
    | ok ready => cases ready <;> simp

/-- The last retry ends every call. -/
theorem isFinal_limit (limit : Nat) : call.IsFinal start limit limit :=
  .inr (.inr (.inl rfl))

/-- Every call has a first final attempt. -/
theorem exists_isLeast_isFinal (limit : Nat) :
    ∃ last, IsLeast {i | call.IsFinal start limit i} last := by
  classical
  have h : ∃ i, call.IsFinal start limit i := ⟨limit, call.isFinal_limit start limit⟩
  exact ⟨Nat.find h, Nat.find_spec h, fun i hi => Nat.find_min' h hi⟩

/-! ### Operations -/

/-- What is done to a call. -/
inductive Operation where
  | attempt
  | reset
  deriving DecidableEq, Repr

/-- The state after a list of operations. -/
def perform (operations : List Operation) : τ :=
  operations.foldl (fun state op =>
    match op with
    | .attempt => (call.attempt state).2
    | .reset => (call.reset state).2) start

/-- The operations of a call whose last attempt is number `last`: a reset between any two attempts,
and another one at the end if the last attempt was to be followed by a retry. -/
def operations (last : Nat) (again : Bool) : List Operation :=
  (List.replicate last [Operation.attempt, .reset]).flatten ++
    .attempt :: if again then [.reset] else []

theorem perform_append (ops more : List Operation) :
    call.perform start (ops ++ more) = call.perform (call.perform start ops) more :=
  List.foldl_append

theorem perform_rounds (i : Nat) :
    call.perform start (List.replicate i [Operation.attempt, .reset]).flatten =
      call.before start i := by
  induction i with
  | zero => rfl
  | succ i ih =>
    rw [List.replicate_succ', List.flatten_append, perform_append, ih]
    rfl

theorem perform_operations (last : Nat) (again : Bool) :
    call.perform start (operations last again) =
      if again then (call.reset (call.after start last)).2 else call.after start last := by
  rw [operations, perform_append, perform_rounds]
  cases again <;> rfl

/-! ### Waits -/

variable (counter : BackoffCounter) (clocks : Timeline)

/-- The number of samples drawn before retry number `i`: one for every earlier retry for which the
server asked for no delay. -/
def drawsBefore (i : Nat) : Nat :=
  (List.range i).countP fun j => (call.requested start j).isNone

/-- The delay of retry number `i`. -/
def delay (i : Nat) : Duration :=
  counter.policy.delayFor i (call.requested start i)
    (clocks.upcoming counter.clock (call.drawsBefore start i))

/-- The delays before attempt number `i`, in order. -/
def delays (i : Nat) : List Duration :=
  (List.range i).map (call.delay start counter clocks)

/-- The clocks when attempt number `i` begins. -/
def clocksBefore (i : Nat) : Timeline :=
  (clocks.skip counter.clock (call.drawsBefore start i)).sleepAll counter.clock
    (call.delays start counter clocks i)

theorem drawsBefore_succ (i : Nat) :
    call.drawsBefore start (i + 1) =
      call.drawsBefore start i + drawsFor (call.requested start i) := by
  rw [drawsBefore, List.range_succ, List.countP_append, List.countP_singleton]
  rfl

theorem delays_succ (i : Nat) :
    call.delays start counter clocks (i + 1) =
      call.delays start counter clocks i ++ [call.delay start counter clocks i] := by
  simp [delays, List.range_succ]

/-- The wait behind attempt number `i`, with a counter that has counted `i` retries. -/
theorem wait_clocksBefore (i : Nat) :
    (({ counter with attempt := i } : BackoffCounter).wait (call.requested start i)
        (call.clocksBefore start counter clocks i)).2 =
      ({ counter with attempt := i + 1 }, call.clocksBefore start counter clocks (i + 1)) := by
  have h := ({ counter with attempt := i } : BackoffCounter).wait_skip_sleepAll
    (call.requested start i) clocks (call.drawsBefore start i) (call.delays start counter clocks i)
  rw [clocksBefore, clocksBefore, drawsBefore_succ, delays_succ]
  exact h

/-! ### The retry loop -/

/-- The loop at an attempt that is not final: it resets the call, waits, and goes on. -/
theorem run_of_not_isFinal {i : Nat} (hi : i < counter.maxRetries)
    (h : ¬call.IsFinal start counter.maxRetries i) :
    call.run i { counter with attempt := i } (call.before start i)
        (call.clocksBefore start counter clocks i) =
      call.run (i + 1) { counter with attempt := i + 1 } (call.before start (i + 1))
        (call.clocksBefore start counter clocks (i + 1)) := by
  obtain ⟨failure, hout, hmend, -, hready⟩ := (call.not_isFinal_iff start).mp h
  -- each branch of the loop is decided by what the history says of this attempt
  have hattempt : call.attempt (call.before start i) = (.error failure, call.after start i) :=
    Prod.ext hout rfl
  have hreset : call.reset (call.after start i) = (.ok true, call.before start (i + 1)) :=
    Prod.ext hready rfl
  have hretry : ({ counter with attempt := i } : BackoffCounter).canRetry = true :=
    BackoffCounter.canRetry_iff.mpr hi
  have hwait := call.wait_clocksBefore start counter clocks i
  have hreq : call.requested start i = failure.retryAfter := by simp [requested, hout]
  rw [hreq] at hwait
  rw [run]
  simp only [hattempt, hmend, hretry, hreset, hwait, Bool.not_true, Bool.false_eq_true, if_false,
    dite_true]

/-- **Loop invariant.** As long as no attempt is final, the loop stands where the history says. -/
theorem run_eq_run_before {n : Nat}
    (h : ∀ i < n, ¬call.IsFinal start counter.maxRetries i) :
    call.run 0 counter.reset start clocks =
      call.run n { counter with attempt := n } (call.before start n)
        (call.clocksBefore start counter clocks n) := by
  induction n with
  | zero => rfl
  | succ n ih =>
    rw [ih fun i hi => h i (by omega)]
    refine call.run_of_not_isFinal start counter clocks ?_ (h n (by omega))
    -- the limit itself is final, so it lies beyond all attempts so far
    by_contra hge
    exact h counter.maxRetries (by omega) (call.isFinal_limit start _)

/-- The loop at a final attempt: it returns what the attempt came to. The call has been reset once
more if only that could tell that the attempt was final. -/
theorem run_of_isFinal {i : Nat} (clocks : Timeline)
    (h : call.IsFinal start counter.maxRetries i) :
    call.run i { counter with attempt := i } (call.before start i) clocks =
      { result := (call.outcome start i).mapError fun f => f.error.withAttempts (i + 1)
        attempts := i + 1
        state := call.perform start
          (operations i (call.isMendable start i && decide (i < counter.maxRetries)))
        clocks := clocks } := by
  have hattempt : call.attempt (call.before start i) = (call.outcome start i, call.after start i) :=
    rfl
  -- the outcome is only marked, so the two sides agree by cases on it
  have hok : ∀ (f : Failure → ApiError) (result : ρ),
      (Except.ok result : Except Failure ρ).mapError f = .ok result := fun _ _ => rfl
  have herror : ∀ (f : Failure → ApiError) (failure : Failure),
      (Except.error failure : Except Failure ρ).mapError f = .error (f failure) := fun _ _ => rfl
  rw [perform_operations, run, hattempt]
  cases hout : call.outcome start i with
  | ok result => simp [isMendable, hout, hok]
  | error failure =>
    cases hmend : failure.error.isRetryable with
    | false => simp [isMendable, hout, hmend, herror]
    | true =>
      by_cases hlt : i < counter.maxRetries
      · -- with budget left, only a reset that fails or declines can make the attempt final
        have hretry : ({ counter with attempt := i } : BackoffCounter).canRetry = true :=
          BackoffCounter.canRetry_iff.mpr hlt
        obtain ⟨ready, ended, hreset⟩ :
            ∃ ready ended, call.reset (call.after start i) = (ready, ended) := ⟨_, _, rfl⟩
        have hready : ready ≠ .ok true := fun hr =>
          (call.not_isFinal_iff start).mpr
            ⟨failure, hout, hmend, by omega, (congrArg Prod.fst hreset).trans hr⟩ h
        cases ready with
        | error e => simp [isMendable, hout, hmend, hretry, hlt, hreset, herror]
        | ok ready =>
          cases ready with
          | true => exact absurd rfl hready
          | false => simp [isMendable, hout, hmend, hretry, hlt, hreset, herror]
      · have hretry : ¬({ counter with attempt := i } : BackoffCounter).canRetry = true :=
          fun hc => hlt (BackoffCounter.canRetry_iff.mp hc)
        simp [isMendable, hout, hmend, hretry, hlt, herror]

/-- **What a retried call comes to.** With a counter that starts afresh, the loop ends with the
first final attempt and returns its outcome, marked with the number of attempts. -/
theorem run_eq_of_isLeast {last : Nat}
    (h : IsLeast {i | call.IsFinal start counter.maxRetries i} last) :
    call.run 0 counter.reset start clocks =
      { result := (call.outcome start last).mapError fun f => f.error.withAttempts (last + 1)
        attempts := last + 1
        state := call.perform start
          (operations last (call.isMendable start last && decide (last < counter.maxRetries)))
        clocks := call.clocksBefore start counter clocks last } := by
  have hbefore : ∀ i < last, ¬call.IsFinal start counter.maxRetries i := fun i hi hfin =>
    absurd (h.2 hfin) (by omega)
  rw [call.run_eq_run_before start counter clocks hbefore]
  exact call.run_of_isFinal start counter _ h.1

/-! ### Seeing less of a state -/

section Projection

variable {τ' : Type} {call : Attempting τ ρ} {call' : Attempting τ' ρ} {f : τ → τ'}

/-- One call is another one of which less is **seen** if every attempt and every reset treats what
is seen of a state in the same way. -/
structure Sees (call : Attempting τ ρ) (call' : Attempting τ' ρ) (f : τ → τ') : Prop where
  attempt : ∀ state, call'.attempt (f state) = ((call.attempt state).1, f (call.attempt state).2)
  reset : ∀ state, call'.reset (f state) = ((call.reset state).1, f (call.reset state).2)

/-- The retry loop treats what is seen of a state in the same way too. -/
theorem Sees.run (h : Sees call call' f) (made : Nat) (counter : BackoffCounter) (state : τ)
    (clocks : Timeline) :
    call'.run made counter (f state) clocks =
      { result := (call.run made counter state clocks).result
        attempts := (call.run made counter state clocks).attempts
        state := f (call.run made counter state clocks).state
        clocks := (call.run made counter state clocks).clocks } := by
  fun_induction Attempting.run call made counter state clocks with
  | case1 made counter state clocks result ended hattempt =>
    rw [Attempting.run, h.attempt, hattempt]
  | case2 made counter state clocks failure ended hattempt final hmend =>
    simp [Attempting.run, h.attempt, hattempt, hmend, final]
  | case3 made counter state clocks failure ended hattempt hmend hretry next hreset waited hlt ih =>
    rw [Attempting.run]
    simp [h.attempt, hattempt, hmend, hretry, h.reset, hreset, ih, waited]
  | case4 made counter state clocks failure ended hattempt final hmend hretry ready next hready
      hreset =>
    rw [Attempting.run]
    cases ready with
    | error e => simp [h.attempt, hattempt, hmend, hretry, h.reset, hreset, final]
    | ok ready =>
      cases ready with
      | false => simp [h.attempt, hattempt, hmend, hretry, h.reset, hreset, final]
      | true => exact absurd rfl hready
  | case5 made counter state clocks failure ended hattempt final hmend hretry =>
    simp [Attempting.run, h.attempt, hattempt, hmend, hretry, final]

end Projection

end Attempting

end ContentClient
