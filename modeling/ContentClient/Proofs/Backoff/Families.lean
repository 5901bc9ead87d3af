import ContentClient.Proofs.Backoff.Waiting
import Mathlib.Data.List.Forall2

/-!
# Families of counters

Counters on one clock are made, copied, reset and waited on in any order. They share the clock and
nothing else, so that a family of counters is a list of counters beside one timeline, and what
happens to it is a list of operations. What the operations come to is kept as a history.

After every run, the history has an event for each operation (`CounterFamily.recorded_run`). It
alone says what each counter has counted: its waits since it was last reset, and what it inherited if
it was copied and not reset since. It also says what the clock has handed out and recorded, and what
every wait had to return (`CounterFamily.Settled`). The main statement is
`CounterFamily.keepsAccounts_run`, and the invariant behind it is `CounterFamily.Stands`.
-/

namespace ContentClient

/-- An operation on a family of counters, which are numbered in the order in which they are made. -/
inductive CounterOperation where
  | new (policy : BackoffPolicy) (maxRetries : Nat)
  | clone (number : Nat)
  | wait (number : Nat) (requested : Option Duration)
  | reset (number : Nat)

/-- The counter that an operation changes; a copy changes neither its original nor any other. -/
def CounterOperation.target? : CounterOperation → Option Nat
  | .new _ _ => none
  | .clone _ => none
  | .wait number _ => some number
  | .reset number => some number

/-- What an operation on a family of counters comes to. -/
inductive CounterEvent where
  | made
  | copied (original : Nat)
  /-- A wait, with the delay that was asked for and the one that it returned. -/
  | waited (number : Nat) (requested : Option Duration) (delay : Duration)
  | cleared (number : Nat)

namespace CounterEvent

/-- Whether the family has one more counter. -/
def isBirth : CounterEvent → Bool
  | .made => true
  | .copied _ => true
  | _ => false

/-- Whether a counter waits. -/
def isWaitOf (number : Nat) : CounterEvent → Bool
  | .waited n _ _ => n == number
  | _ => false

/-- Whether a counter is reset. -/
def isResetOf (number : Nat) : CounterEvent → Bool
  | .cleared n => n == number
  | _ => false

/-- The delay that a wait returned. -/
def delay? : CounterEvent → Option Duration
  | .waited _ _ delay => some delay
  | _ => none

/-- Whether a sample was drawn. -/
def isDraw : CounterEvent → Bool
  | .waited _ requested _ => requested.isNone
  | _ => false

/-! ### Histories, newest event first -/

/-- The number of waits of a counter since it was last reset. -/
def waitsSinceReset (number : Nat) (history : List CounterEvent) : Nat :=
  (history.takeWhile fun event => !event.isResetOf number).countP (isWaitOf number)

/-- What a counter has inherited: what its original had counted when the counter was copied from it,
unless the counter was reset since. -/
def inherited (number : Nat) : List CounterEvent → Nat
  | [] => 0
  | .copied original :: earlier =>
    if earlier.countP isBirth = number then
      waitsSinceReset original earlier + inherited original earlier
    else inherited number earlier
  | .cleared n :: earlier => if n = number then 0 else inherited number earlier
  | .made :: earlier => inherited number earlier
  | .waited _ _ _ :: earlier => inherited number earlier

/-- The delays that all waits have returned, in the order of the waits. -/
def delays (history : List CounterEvent) : List Duration := history.reverse.filterMap delay?

/-- The number of samples that all waits have drawn. -/
def draws (history : List CounterEvent) : Nat := history.countP isDraw

section

variable {event : CounterEvent} {history : List CounterEvent} {number : Nat}

theorem delays_cons (event : CounterEvent) (history : List CounterEvent) :
    delays (event :: history) = delays history ++ event.delay?.toList := by
  cases h : event.delay? <;> simp [delays, h]

theorem draws_waited (number : Nat) (requested : Option Duration) (delay : Duration) :
    draws (.waited number requested delay :: history) = draws history + drawsFor requested :=
  List.countP_cons

/-- Only its own waits and resets count for a counter. -/
theorem waitsSinceReset_cons (hwait : event.isWaitOf number = false)
    (hreset : event.isResetOf number = false) :
    waitsSinceReset number (event :: history) = waitsSinceReset number history := by
  simp [waitsSinceReset, hwait, hreset]

theorem waitsSinceReset_waited (requested : Option Duration) (delay : Duration) :
    waitsSinceReset number (.waited number requested delay :: history) =
      waitsSinceReset number history + 1 := by
  simp [waitsSinceReset, isResetOf, isWaitOf]

theorem waitsSinceReset_cleared : waitsSinceReset number (.cleared number :: history) = 0 := by
  simp [waitsSinceReset, isResetOf]

/-- A copy inherits what its original had counted by then, and keeps it until it is reset. -/
example (d : Duration) :
    inherited 1 [.waited 1 none d, .waited 0 none d, .copied 0, .waited 0 none d, .made] = 1 ∧
      inherited 1 [.cleared 1, .copied 0, .waited 0 none d, .made] = 0 :=
  ⟨rfl, rfl⟩

end

end CounterEvent

open CounterEvent

/-! ### What operations leave in a history -/

namespace CounterOperation

/-- An operation **is recorded as** an event. A wait is recorded with the delay that was asked for,
and with some delay that it returned. -/
inductive IsRecordedAs : CounterOperation → CounterEvent → Prop where
  | new {policy : BackoffPolicy} {maxRetries : Nat} : IsRecordedAs (.new policy maxRetries) .made
  | clone {number : Nat} : IsRecordedAs (.clone number) (.copied number)
  | wait {number : Nat} {requested : Option Duration} (delay : Duration) :
      IsRecordedAs (.wait number requested) (.waited number requested delay)
  | reset {number : Nat} : IsRecordedAs (.reset number) (.cleared number)

/-- The operations of a list without those on counters that have not been made by then, if there are
`count` counters at its start. -/
def effective : (count : Nat) → List CounterOperation → List CounterOperation
  | _, [] => []
  | count, .new policy maxRetries :: rest => .new policy maxRetries :: effective (count + 1) rest
  | count, .clone number :: rest =>
    if number < count then .clone number :: effective (count + 1) rest else effective count rest
  | count, .wait number requested :: rest =>
    if number < count then .wait number requested :: effective count rest else effective count rest
  | count, .reset number :: rest =>
    if number < count then .reset number :: effective count rest else effective count rest

end CounterOperation

open CounterOperation

/-- Counters that share a clock, with the state of all clocks. -/
structure CounterFamily where
  clock : Clock
  clocks : Timeline
  counters : List BackoffCounter := []
  /-- What the operations have come to, newest first. -/
  history : List CounterEvent := []

namespace CounterFamily

/-- The family after an operation. One on a counter that has not been made does nothing. -/
def step (f : CounterFamily) : CounterOperation → CounterFamily
  | .new policy maxRetries =>
    { f with
      counters := f.counters ++ [{ policy, clock := f.clock, maxRetries }]
      history := .made :: f.history }
  | .clone number =>
    match f.counters[number]? with
    | none => f
    | some c =>
      { f with counters := f.counters ++ [c], history := .copied number :: f.history }
  | .wait number requested =>
    match f.counters[number]? with
    | none => f
    | some c =>
      let waited := c.wait requested f.clocks
      { f with
        clocks := waited.2.2
        counters := f.counters.set number waited.2.1
        history := .waited number requested waited.1 :: f.history }
  | .reset number =>
    match f.counters[number]? with
    | none => f
    | some c =>
      { f with
        counters := f.counters.set number c.reset
        history := .cleared number :: f.history }

/-- The family after a list of operations. -/
def run (f : CounterFamily) (operations : List CounterOperation) : CounterFamily :=
  operations.foldl step f

/-! ### The invariant -/

/-- A family **stands** where its history says, behind a timeline `t`. -/
structure Stands (t : Timeline) (f : CounterFamily) : Prop where
  sharesClock : ∀ c ∈ f.counters, c.clock = f.clock
  births : f.counters.length = f.history.countP isBirth
  attempt : ∀ number c, f.counters[number]? = some c →
    c.attempt = waitsSinceReset number f.history + inherited number f.history
  /-- A counter that has not been made has counted nothing. -/
  unmade : ∀ number, f.counters.length ≤ number →
    waitsSinceReset number f.history = 0 ∧ inherited number f.history = 0
  attempt_le : ∀ c ∈ f.counters, c.attempt ≤ (delays f.history).length
  clocks : f.clocks = (t.skip f.clock (draws f.history)).sleepAll f.clock (delays f.history)

variable {t : Timeline} {f : CounterFamily}

theorem stands_start (clock : Clock) (t : Timeline) :
    Stands t { clock := clock, clocks := t } where
  sharesClock := fun _ h => absurd h List.not_mem_nil
  births := rfl
  attempt := fun _ _ h => by cases h
  unmade := fun _ _ => ⟨rfl, rfl⟩
  attempt_le := fun _ h => absurd h List.not_mem_nil
  clocks := rfl

namespace Stands

/-- The delay of a wait, for a counter of a family that stands where its history says. -/
theorem wait (h : f.Stands t) {c : BackoffCounter} (hc : c ∈ f.counters)
    (requested : Option Duration) :
    c.wait requested f.clocks =
      (c.policy.delayFor c.attempt requested (t.upcoming f.clock (draws f.history)),
        { c with attempt := c.attempt + 1 },
        (t.skip f.clock (draws f.history + drawsFor requested)).sleepAll f.clock
          (delays f.history ++
            [c.policy.delayFor c.attempt requested (t.upcoming f.clock (draws f.history))])) := by
  rw [h.clocks, ← h.sharesClock c hc]
  exact Prod.ext (c.fst_wait_skip_sleepAll requested t _ _) (c.wait_skip_sleepAll requested t _ _)

/-- One more counter, which has counted what its birth says. -/
theorem append (h : f.Stands t) {event : CounterEvent} (hbirth : event.isBirth = true)
    {c : BackoffCounter} (hclock : c.clock = f.clock)
    (hattempt : c.attempt = inherited f.counters.length (event :: f.history))
    (hle : c.attempt ≤ (delays f.history).length)
    (hinherited : ∀ number, number ≠ f.counters.length →
      inherited number (event :: f.history) = inherited number f.history) :
    Stands t { f with counters := f.counters ++ [c], history := event :: f.history } := by
  have hwaits (number : Nat) : waitsSinceReset number (event :: f.history) =
      waitsSinceReset number f.history := by
    cases event <;> first | exact waitsSinceReset_cons rfl rfl | cases hbirth
  have hdelays : delays (event :: f.history) = delays f.history := by
    rw [delays_cons]
    cases event <;> first | exact List.append_nil _ | cases hbirth
  have hdraws : draws (event :: f.history) = draws f.history := by
    cases event <;> first | rfl | cases hbirth
  refine
    { sharesClock := ?_
      births := ?_
      attempt := ?_
      unmade := ?_
      attempt_le := ?_
      clocks := ?_ }
  · intro c' hc'
    rcases List.mem_append.mp hc' with hold | hnew
    · exact h.sharesClock c' hold
    · rw [List.mem_singleton.mp hnew]
      exact hclock
  · rw [List.length_append, List.length_singleton, List.countP_cons, hbirth, h.births, if_pos rfl]
  · intro number c' hc'
    rw [hwaits]
    rcases Nat.lt_trichotomy number f.counters.length with hlt | rfl | hgt
    · rw [List.getElem?_append_left hlt] at hc'
      rw [hinherited number (Nat.ne_of_lt hlt)]
      exact h.attempt number c' hc'
    · rw [List.getElem?_concat_length] at hc'
      obtain rfl := Option.some.inj hc'
      rw [(h.unmade _ (Nat.le_refl _)).1, Nat.zero_add]
      exact hattempt
    · rw [List.getElem?_eq_none (by simpa using Nat.succ_le_of_lt hgt)] at hc'
      cases hc'
  · intro number hnumber
    rw [List.length_append, List.length_singleton] at hnumber
    rw [hwaits, hinherited number (by omega)]
    exact h.unmade number (by omega)
  · intro c' hc'
    rw [hdelays]
    rcases List.mem_append.mp hc' with hold | hnew
    · exact h.attempt_le c' hold
    · rw [List.mem_singleton.mp hnew]
      exact hle
  · rw [hdelays, hdraws]
    exact h.clocks

/-- Another state of one counter, which has counted what the event says. -/
theorem set (h : f.Stands t) (event : CounterEvent) (hbirth : event.isBirth = false)
    {number : Nat} {c : BackoffCounter} (hc : f.counters[number]? = some c) (c' : BackoffCounter)
    (hclock : c'.clock = c.clock)
    (hattempt : c'.attempt = waitsSinceReset number (event :: f.history) +
      inherited number (event :: f.history))
    (hother : ∀ n, n ≠ number →
      waitsSinceReset n (event :: f.history) = waitsSinceReset n f.history ∧
        inherited n (event :: f.history) = inherited n f.history)
    (hle : c'.attempt ≤ (delays (event :: f.history)).length) {clocks : Timeline}
    (hclocks : clocks = (t.skip f.clock (draws (event :: f.history))).sleepAll f.clock
      (delays (event :: f.history))) :
    Stands t
      { f with
        clocks := clocks
        counters := f.counters.set number c'
        history := event :: f.history } := by
  obtain ⟨hlt, hget⟩ := List.getElem?_eq_some_iff.mp hc
  have hmem : c ∈ f.counters := List.mem_of_getElem? hc
  have hdelays : (delays f.history).length ≤ (delays (event :: f.history)).length := by
    rw [delays_cons, List.length_append]
    exact Nat.le_add_right _ _
  refine
    { sharesClock := ?_
      births := ?_
      attempt := ?_
      unmade := ?_
      attempt_le := ?_
      clocks := hclocks }
  · intro d hd
    rcases List.mem_or_eq_of_mem_set hd with hold | rfl
    · exact h.sharesClock d hold
    · exact hclock.trans (h.sharesClock c hmem)
  · rw [List.length_set, List.countP_cons, hbirth, h.births]
    rfl
  · intro n d hd
    by_cases hn : n = number
    · subst hn
      rw [List.getElem?_set_self hlt] at hd
      obtain rfl := Option.some.inj hd
      exact hattempt
    · rw [List.getElem?_set_ne (Ne.symm hn)] at hd
      rw [(hother n hn).1, (hother n hn).2]
      exact h.attempt n d hd
  · intro n hn
    rw [List.length_set] at hn
    have hne : n ≠ number := by omega
    rw [(hother n hne).1, (hother n hne).2]
    exact h.unmade n hn
  · intro d hd
    rcases List.mem_or_eq_of_mem_set hd with hold | rfl
    · exact Nat.le_trans (h.attempt_le d hold) hdelays
    · exact hle

/-- **One operation.** A family goes on standing where its history says. -/
theorem step (h : f.Stands t) (operation : CounterOperation) : (f.step operation).Stands t := by
  cases operation with
  | new policy maxRetries =>
    refine h.append rfl rfl ?_ (Nat.zero_le _) fun _ _ => rfl
    exact (h.unmade _ (Nat.le_refl _)).2.symm
  | clone number =>
    rw [CounterFamily.step]
    cases hc : f.counters[number]? with
    | none => exact h
    | some c =>
      have hmem := List.mem_of_getElem? hc
      refine h.append rfl (h.sharesClock c hmem) ?_ (h.attempt_le c hmem) ?_
      · rw [inherited, if_pos h.births.symm]
        exact h.attempt number c hc
      · intro n hn
        rw [inherited, if_neg]
        rw [← h.births]
        exact Ne.symm hn
  | wait number requested =>
    rw [CounterFamily.step]
    cases hc : f.counters[number]? with
    | none => exact h
    | some c =>
      have hmem := List.mem_of_getElem? hc
      have hwait := h.wait hmem requested
      refine h.set (.waited number requested (c.wait requested f.clocks).1) rfl hc
        (c.wait requested f.clocks).2.1 rfl ?_ ?_ ?_ ?_
      · rw [waitsSinceReset_waited, BackoffCounter.attempt_wait, h.attempt number c hc, inherited]
        omega
      · intro n hn
        exact ⟨waitsSinceReset_cons (by simpa [isWaitOf] using Ne.symm hn) rfl, rfl⟩
      · have hle := h.attempt_le c hmem
        rw [delays_cons, List.length_append, BackoffCounter.attempt_wait]
        exact Nat.add_le_add_right hle 1
      · rw [delays_cons, draws_waited, hwait]
        rfl
  | reset number =>
    rw [CounterFamily.step]
    cases hc : f.counters[number]? with
    | none => exact h
    | some c =>
      refine h.set (.cleared number) rfl hc c.reset rfl ?_ ?_ (Nat.zero_le _) ?_
      · rw [waitsSinceReset_cleared, inherited, if_pos rfl]
        rfl
      · intro n hn
        refine ⟨waitsSinceReset_cons rfl (by simpa [isResetOf] using Ne.symm hn), ?_⟩
        rw [inherited, if_neg (Ne.symm hn)]
      · rw [delays_cons]
        exact h.clocks.trans (by simp [draws, isDraw, delay?])

/-- **Every interleaving.** After any list of operations, a family stands where its history says. -/
theorem run (h : f.Stands t) (operations : List CounterOperation) :
    (f.run operations).Stands t := by
  induction operations generalizing f with
  | nil => exact h
  | cons operation operations ih => exact ih (h.step operation)

end Stands

/-! ### What callers see -/

theorem clock_step (f : CounterFamily) (operation : CounterOperation) :
    (f.step operation).clock = f.clock := by
  cases operation with
  | new policy maxRetries => rfl
  | clone number => unfold step; dsimp only; split <;> rfl
  | wait number requested => unfold step; dsimp only; split <;> rfl
  | reset number => unfold step; dsimp only; split <;> rfl

theorem clock_run (f : CounterFamily) (operations : List CounterOperation) :
    (f.run operations).clock = f.clock := by
  induction operations generalizing f with
  | nil => rfl
  | cons operation operations ih => exact (ih (f.step operation)).trans (f.clock_step operation)

/-- An operation leaves every counter alone that it is not on. -/
theorem getElem?_step_of_ne {operation : CounterOperation} {number : Nat} {c : BackoffCounter}
    (hc : f.counters[number]? = some c) (hne : operation.target? ≠ some number) :
    (f.step operation).counters[number]? = some c := by
  have hlt : number < f.counters.length := (List.getElem?_eq_some_iff.mp hc).1
  cases operation with
  | new policy maxRetries => exact (List.getElem?_append_left hlt).trans hc
  | clone original =>
    rw [step]
    split
    · exact hc
    · exact (List.getElem?_append_left hlt).trans hc
  | wait n requested =>
    rw [step]
    split
    · exact hc
    · exact (List.getElem?_set_ne fun h => hne (congrArg some h)).trans hc
  | reset n =>
    rw [step]
    split
    · exact hc
    · exact (List.getElem?_set_ne fun h => hne (congrArg some h)).trans hc

/-- No operation changes the policy and the limit of a counter. -/
theorem exists_getElem?_step {number : Nat} {c : BackoffCounter}
    (hc : f.counters[number]? = some c) (operation : CounterOperation) :
    ∃ c', (f.step operation).counters[number]? = some c' ∧ c'.policy = c.policy ∧
      c'.maxRetries = c.maxRetries := by
  have hlt : number < f.counters.length := (List.getElem?_eq_some_iff.mp hc).1
  by_cases hne : operation.target? = some number
  · cases operation with
    | new policy maxRetries => cases hne
    | clone original => cases hne
    | wait n requested =>
      obtain rfl := Option.some.inj hne
      refine ⟨(c.wait requested f.clocks).2.1, ?_, rfl, rfl⟩
      simp only [step, hc, List.getElem?_set_self hlt]
    | reset n =>
      obtain rfl := Option.some.inj hne
      refine ⟨c.reset, ?_, rfl, rfl⟩
      simp only [step, hc, List.getElem?_set_self hlt]
  · exact ⟨c, getElem?_step_of_ne hc hne, rfl, rfl⟩

/-- An operation on a counter that is not there does nothing, and every other one leaves an event
in the history. -/
theorem recorded_step (f : CounterFamily) (operation : CounterOperation)
    (rest : List CounterOperation) :
    (f.step operation = f ∧
        effective f.counters.length (operation :: rest) = effective f.counters.length rest) ∨
      ∃ event, operation.IsRecordedAs event ∧
        (f.step operation).history = event :: f.history ∧
        effective f.counters.length (operation :: rest) =
          operation :: effective (f.step operation).counters.length rest := by
  have hthere : ∀ {number : Nat} {c : BackoffCounter}, f.counters[number]? = some c →
      number < f.counters.length := fun hc => (List.getElem?_eq_some_iff.mp hc).1
  have hmissing : ∀ {number : Nat}, f.counters[number]? = none → ¬number < f.counters.length :=
    fun hc => Nat.not_lt.mpr (List.getElem?_eq_none_iff.mp hc)
  cases operation with
  | new policy maxRetries =>
    refine .inr ⟨.made, .new, rfl, ?_⟩
    rw [effective, step, List.length_append, List.length_singleton]
  | clone number =>
    rw [effective, step]
    cases hc : f.counters[number]? with
    | none => exact .inl ⟨rfl, if_neg (hmissing hc)⟩
    | some c =>
      refine .inr ⟨.copied number, .clone, rfl, ?_⟩
      rw [if_pos (hthere hc), List.length_append, List.length_singleton]
  | wait number requested =>
    rw [effective, step]
    cases hc : f.counters[number]? with
    | none => exact .inl ⟨rfl, if_neg (hmissing hc)⟩
    | some c =>
      refine .inr ⟨_, .wait _, rfl, ?_⟩
      rw [if_pos (hthere hc), List.length_set]
  | reset number =>
    rw [effective, step]
    cases hc : f.counters[number]? with
    | none => exact .inl ⟨rfl, if_neg (hmissing hc)⟩
    | some c =>
      refine .inr ⟨.cleared number, .reset, rfl, ?_⟩
      rw [if_pos (hthere hc), List.length_set]

/-- **Every operation is recorded**, in order. -/
theorem recorded_run (f : CounterFamily) (operations : List CounterOperation) :
    ∃ events, (f.run operations).history = events.reverse ++ f.history ∧
      List.Forall₂ IsRecordedAs (effective f.counters.length operations) events := by
  induction operations generalizing f with
  | nil => exact ⟨[], rfl, .nil⟩
  | cons operation rest ih =>
    obtain ⟨events, hhistory, hevents⟩ := ih (f.step operation)
    have hrun : (f.run (operation :: rest)).history = ((f.step operation).run rest).history := rfl
    rw [hrun, hhistory]
    rcases f.recorded_step operation rest with ⟨hsame, heffective⟩ | ⟨event, hop, hstep, heffective⟩
    · rw [hsame] at hevents ⊢
      exact ⟨events, rfl, heffective ▸ hevents⟩
    · refine ⟨event :: events, ?_, heffective ▸ .cons hop hevents⟩
      rw [hstep, List.reverse_cons, List.append_assoc, List.singleton_append]

/-- The waits in a history are **settled** if each has returned what the policy of its counter gives
for what the counter had counted by then, and for the next sample of the clock. -/
def Settled (t : Timeline) (f : CounterFamily) : Prop :=
  ∀ later number requested delay earlier,
    f.history = later ++ .waited number requested delay :: earlier →
      ∃ c, f.counters[number]? = some c ∧
        delay = c.policy.delayFor (waitsSinceReset number earlier + inherited number earlier)
          requested (t.upcoming f.clock (draws earlier))

theorem settled_start (clock : Clock) (t : Timeline) :
    Settled t { clock := clock, clocks := t } := by
  intro later number requested delay earlier heq
  exact absurd heq.symm (List.append_ne_nil_of_right_ne_nil _ (List.cons_ne_nil _ _))

theorem Settled.step (hsettled : f.Settled t) (h : f.Stands t) (operation : CounterOperation) :
    (f.step operation).Settled t := by
  intro later number requested delay earlier heq
  rw [clock_step]
  -- a counter keeps its policy, so what has been settled stays so
  have hkept : ∀ later', f.history = later' ++ .waited number requested delay :: earlier →
      ∃ c, (f.step operation).counters[number]? = some c ∧
        delay = c.policy.delayFor (waitsSinceReset number earlier + inherited number earlier)
          requested (t.upcoming f.clock (draws earlier)) := by
    intro later' heq'
    obtain ⟨c, hc, hdelay⟩ := hsettled later' number requested delay earlier heq'
    obtain ⟨c', hc', hpolicy, -⟩ := exists_getElem?_step hc operation
    exact ⟨c', hc', by rw [hpolicy, hdelay]⟩
  rcases f.recorded_step operation [] with ⟨hsame, -⟩ | ⟨event, hop, hstep, -⟩
  · rw [hsame] at heq
    exact hkept later heq
  · rw [hstep] at heq
    cases later with
    | cons _ later' => exact hkept later' (List.cons.inj heq).2
    | nil =>
      -- the operation is the wait itself
      obtain ⟨rfl, rfl⟩ := List.cons.inj heq
      cases hop with
      | wait =>
        cases hc : f.counters[number]? with
        | none =>
          simp only [CounterFamily.step, hc] at hstep
          exact absurd hstep (List.cons_ne_self _ _).symm
        | some c =>
          obtain ⟨c', hc', hpolicy, -⟩ := exists_getElem?_step hc (.wait number requested)
          refine ⟨c', hc', ?_⟩
          simp only [CounterFamily.step, hc] at hstep
          have hdelay : (c.wait requested f.clocks).1 = delay :=
            (CounterEvent.waited.inj (List.cons.inj hstep).1).2.2
          rw [← hdelay, h.wait (List.mem_of_getElem? hc), hpolicy, ← h.attempt number c hc]

theorem Settled.run (hsettled : f.Settled t) (h : f.Stands t)
    (operations : List CounterOperation) : (f.run operations).Settled t := by
  induction operations generalizing f with
  | nil => exact hsettled
  | cons operation operations ih => exact ih (hsettled.step h operation) (h.step operation)

/-- A family on a named clock **keeps its accounts** of a list of operations, behind a timeline `t`.
-/
structure KeepsAccounts (name : String) (t : Timeline) (operations : List CounterOperation)
    (f : CounterFamily) : Prop where
  /-- Every operation has left its event in the history, in order, but those on counters that had
  not been made by then. -/
  recorded : List.Forall₂ IsRecordedAs (effective 0 operations) f.history.reverse
  /-- There is one counter for every event that made or copied one. -/
  births : f.counters.length = f.history.countP isBirth
  /-- A counter has counted its waits since it was last reset, and what it inherited. -/
  attempt : ∀ number (c : BackoffCounter), f.counters[number]? = some c →
    c.attempt = waitsSinceReset number f.history + inherited number f.history
  /-- No counter has counted more than all waits. -/
  attempt_le : ∀ c ∈ f.counters, c.attempt ≤ (delays f.history).length
  canRetry : ∀ c ∈ f.counters, c.canRetry = true ↔ c.attempt < c.maxRetries
  /-- A new counter has counted nothing, -/
  new : ∀ policy maxRetries,
    (f.step (.new policy maxRetries)).counters =
        f.counters ++ [{ policy, clock := .recorded name, attempt := 0, maxRetries }] ∧
      (f.step (.new policy maxRetries)).history = .made :: f.history
  /-- a copy is what its original is, -/
  clone : ∀ number (c : BackoffCounter), f.counters[number]? = some c →
    (f.step (.clone number)).counters = f.counters ++ [c] ∧
      (f.step (.clone number)).history = .copied number :: f.history
  /-- and a reset counter has counted nothing again. -/
  reset : ∀ number (c : BackoffCounter), f.counters[number]? = some c →
    (f.step (.reset number)).counters = f.counters.set number { c with attempt := 0 } ∧
      (f.step (.reset number)).history = .cleared number :: f.history
  /-- An operation on one counter leaves every other one as it is. -/
  apart : ∀ operation number (c : BackoffCounter), f.counters[number]? = some c →
    operation.target? ≠ some number → (f.step operation).counters[number]? = some c
  /-- No operation changes the policy and the limit of a counter. -/
  limit : ∀ operation (number : Nat) (c : BackoffCounter), f.counters[number]? = some c →
    ∃ c' : BackoffCounter, (f.step operation).counters[number]? = some c' ∧
      c'.policy = c.policy ∧ c'.maxRetries = c.maxRetries
  /-- The clock has recorded what the waits have returned, in the order of the waits. -/
  log : f.clocks.waits = t.waits ++ (delays f.history).map fun d => (name, d)
  /-- One sample is gone for every wait without a requested delay. -/
  samples : f.clocks.samples name = (t.samples name).drop (draws f.history)
  /-- Every wait has returned what the policy of its counter gives for what the counter had counted
  by then, and for the sample that was next. -/
  settled : ∀ later number requested delay earlier,
    f.history = later ++ .waited number requested delay :: earlier →
      ∃ c : BackoffCounter, f.counters[number]? = some c ∧
        delay = c.policy.delayFor (waitsSinceReset number earlier + inherited number earlier)
          requested ((t.samples name)[draws earlier]?.getD Timeline.midpoint)
  /-- A wait without a requested delay is computed from the next sample. -/
  computes : ∀ number (c : BackoffCounter), f.counters[number]? = some c →
    (c.wait none f.clocks).1 =
        c.policy.delay c.attempt ((t.samples name)[draws f.history]?.getD Timeline.midpoint) ∧
      (f.step (.wait number none)).history =
        .waited number none (c.wait none f.clocks).1 :: f.history
  /-- A requested delay is only capped. -/
  capped : ∀ number (c : BackoffCounter) d, f.counters[number]? = some c →
    (c.wait (some d) f.clocks).1 = min d c.policy.maxDelay ∧
      (f.step (.wait number (some d))).history =
        .waited number (some d) (c.wait (some d) f.clocks).1 :: f.history

/-- **Shared clock, own counts.** Whatever is done to counters that share a named clock, the family
keeps its accounts of it. -/
theorem keepsAccounts_run (name : String) (t : Timeline) (operations : List CounterOperation) :
    KeepsAccounts name t operations
      (run { clock := .recorded name, clocks := t } operations) := by
  have hclock : (run { clock := .recorded name, clocks := t } operations).clock =
      .recorded name := clock_run _ operations
  have hstart := stands_start (.recorded name) t
  have h := hstart.run operations
  have hsettled := Settled.run (settled_start (.recorded name) t) hstart operations
  obtain ⟨events, hhistory, hrecorded⟩ :=
    recorded_run { clock := .recorded name, clocks := t } operations
  generalize run { clock := .recorded name, clocks := t } operations = f at *
  have hclocks := h.clocks
  rw [hclock] at hclocks
  exact
    { recorded := by
        rw [hhistory, List.append_nil, List.reverse_reverse]
        exact hrecorded
      births := h.births
      attempt := h.attempt
      attempt_le := h.attempt_le
      canRetry := fun c _ => BackoffCounter.canRetry_iff
      new := fun policy maxRetries => by rw [step, hclock]; exact ⟨rfl, rfl⟩
      clone := fun number c hc => by simp only [step, hc, and_self]
      reset := fun number c hc => by simp only [step, hc, BackoffCounter.reset, and_self]
      apart := fun operation number c hc hne => getElem?_step_of_ne hc hne
      limit := fun operation number c hc => exists_getElem?_step hc operation
      log := by rw [hclocks, Timeline.waits_sleepAll, Timeline.waits_skip]
      samples := by rw [hclocks, Timeline.samples_sleepAll, Timeline.samples_skip]
      settled := fun later number requested delay earlier heq => by
        rw [← Timeline.upcoming_recorded, ← hclock]
        exact hsettled later number requested delay earlier heq
      computes := fun number c hc => by
        refine ⟨?_, by simp only [step, hc]⟩
        rw [h.wait (List.mem_of_getElem? hc), hclock, Timeline.upcoming_recorded]
        rfl
      capped := fun number c d hc => ⟨rfl, by simp only [step, hc]⟩ }

end CounterFamily

end ContentClient
