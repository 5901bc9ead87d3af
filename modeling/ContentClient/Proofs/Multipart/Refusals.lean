import ContentClient.Proofs.Multipart.Pushing

/-!
# The first failure of a push

Pushing a body stops at the first failure, wherever it is: at the opening of the file, at a read of
it, in the middle of what a callback writes, at any single write to the sink, be it of the head, of
a chunk or of the tail, or at a flush. Whatever fails, the sink is left with an initial piece of the
body, and the number that a push without failure gives is the number of bytes that the sink has
received. The main statement is `MultipartEncoder.stopsAtFirstFailure`.

What the sink does is said of its single writes. A sink **accepts** bytes if each write of what is
left takes one of them at least, until nothing is left, and **rejects** them if one of these writes
fails or takes nothing. It **takes all** of a script if it accepts everything that the script
writes, and flushes, until the script ends or gives up; else there is a first thing in the script
that it **refuses**. Of the two, a failure of the source and a refusal of the sink, the push ends
with the one that comes first in the script of the body.
-/

namespace ContentClient

namespace Sink

/-! ### What a sink makes of bytes -/

/-- A sink accepts bytes, in as many writes as it needs. -/
inductive Accepts : Sink → Bytes → Sink → Prop where
  | nil {s : Sink} : Accepts s [] s
  | write {s s' s'' : Sink} {b : UInt8} {bytes : Bytes} {n : Nat}
      (takes : s.write (b :: bytes) = (.ok (n + 1), s'))
      (rest : Accepts s' (bytes.drop n) s'') : Accepts s (b :: bytes) s''

/-- A sink rejects bytes with an error, in the first write or in a later one. -/
inductive Rejects : Sink → Bytes → IoError → Sink → Prop where
  | fails {s s' : Sink} {b : UInt8} {bytes : Bytes} {e : IoError}
      (write : s.write (b :: bytes) = (.error e, s')) : Rejects s (b :: bytes) e s'
  | takesNothing {s s' : Sink} {b : UInt8} {bytes : Bytes}
      (write : s.write (b :: bytes) = (.ok 0, s')) : Rejects s (b :: bytes) .wroteNothing s'
  | later {s s' s'' : Sink} {b : UInt8} {bytes : Bytes} {n : Nat} {e : IoError}
      (takes : s.write (b :: bytes) = (.ok (n + 1), s'))
      (rest : Rejects s' (bytes.drop n) e s'') : Rejects s (b :: bytes) e s''

variable {s s' : Sink} {bytes : Bytes} {e : IoError}

theorem writeRounds_of_accepts (h : s.Accepts bytes s') {rounds : Nat}
    (hrounds : bytes.length ≤ rounds) :
    (writeRounds rounds s bytes).result = .ok () ∧ (writeRounds rounds s bytes).sink = s' := by
  induction h generalizing rounds with
  | nil => cases rounds <;> exact ⟨rfl, rfl⟩
  | @write s s' s'' b bytes n takes rest ih =>
    obtain ⟨rounds, rfl⟩ := Nat.exists_eq_succ_of_ne_zero (Nat.ne_zero_of_lt hrounds)
    rw [writeRounds, takes]
    rw [List.length_cons] at hrounds
    exact ih (by rw [List.length_drop]; omega)

theorem writeRounds_of_rejects (h : s.Rejects bytes e s') {rounds : Nat}
    (hrounds : bytes.length ≤ rounds) :
    (writeRounds rounds s bytes).result = .error e ∧ (writeRounds rounds s bytes).sink = s' := by
  induction h generalizing rounds with
  | fails write =>
    obtain ⟨rounds, rfl⟩ := Nat.exists_eq_succ_of_ne_zero (Nat.ne_zero_of_lt hrounds)
    rw [writeRounds, write]
    exact ⟨rfl, rfl⟩
  | takesNothing write =>
    obtain ⟨rounds, rfl⟩ := Nat.exists_eq_succ_of_ne_zero (Nat.ne_zero_of_lt hrounds)
    rw [writeRounds, write]
    exact ⟨rfl, rfl⟩
  | @later s s' s'' b bytes n e takes rest ih =>
    obtain ⟨rounds, rfl⟩ := Nat.exists_eq_succ_of_ne_zero (Nat.ne_zero_of_lt hrounds)
    rw [writeRounds, takes]
    rw [List.length_cons] at hrounds
    exact ih (by rw [List.length_drop]; omega)

/-- A sink either accepts bytes or rejects them: a write that takes something leaves fewer. -/
theorem accepts_or_rejects (s : Sink) (bytes : Bytes) :
    (∃ s', s.Accepts bytes s') ∨ ∃ e s', s.Rejects bytes e s' := by
  induction hlength : bytes.length using Nat.strongRecOn generalizing s bytes with
  | _ length ih =>
    cases bytes with
    | nil => exact .inl ⟨s, .nil⟩
    | cons b bytes =>
      cases hwrite : s.write (b :: bytes) with
      | mk result next =>
        cases result with
        | error e => exact .inr ⟨e, next, .fails hwrite⟩
        | ok n =>
          cases n with
          | zero => exact .inr ⟨_, next, .takesNothing hwrite⟩
          | succ n =>
            rw [List.length_cons] at hlength
            have hshorter : (bytes.drop n).length < length := by
              rw [List.length_drop]
              omega
            rcases ih _ hshorter next (bytes.drop n) rfl with ⟨s', hrest⟩ | ⟨e, s', hrest⟩
            · exact .inl ⟨s', .write hwrite hrest⟩
            · exact .inr ⟨e, s', .later hwrite hrest⟩

/-! ### What a sink makes of a script -/

/-- A sink **passes** one thing that a producer does to it. -/
inductive Passes (s : Sink) : ScriptStep → Sink → Prop where
  | write {bytes : Bytes} {s' : Sink} (accepts : s.Accepts bytes s') : Passes s (.write bytes) s'
  | flush {s' : Sink} (flushes : s.flush = (.ok (), s')) : Passes s .flush s'

/-- A sink refuses one thing that a producer does to it. -/
inductive Refuses (s : Sink) : ScriptStep → IoError → Sink → Prop where
  | write {bytes : Bytes} {e : IoError} {s' : Sink} (rejects : s.Rejects bytes e s') :
      Refuses s (.write bytes) e s'
  | flush {e : IoError} {s' : Sink} (fails : s.flush = (.error e, s')) : Refuses s .flush e s'

/-- A sink takes all of a script, until the script ends or gives up. -/
inductive TakesAll : Sink → Script → Sink → Prop where
  | nil {s : Sink} : TakesAll s [] s
  | fail {s : Sink} {e : IoError} {rest : Script} : TakesAll s (.fail e :: rest) s
  | cons {s s' s'' : Sink} {step : ScriptStep} {rest : Script} (first : s.Passes step s')
      (others : TakesAll s' rest s'') : TakesAll s (step :: rest) s''

/-- The first thing in a script that a sink refuses. -/
inductive RefusesFirst : Sink → Script → IoError → Sink → Prop where
  | here {s s' : Sink} {step : ScriptStep} {rest : Script} {e : IoError}
      (refuses : s.Refuses step e s') : RefusesFirst s (step :: rest) e s'
  | later {s s' s'' : Sink} {step : ScriptStep} {rest : Script} {e : IoError}
      (passes : s.Passes step s') (others : RefusesFirst s' rest e s'') :
      RefusesFirst s (step :: rest) e s''

variable {step : ScriptStep} {script : Script}

theorem perform_of_passes (h : s.Passes step s') : writer.perform step s = (.ok (), s') := by
  cases h with
  | write accepts =>
    obtain ⟨hresult, hsink⟩ := writeRounds_of_accepts accepts (Nat.le_refl _)
    exact Prod.ext hresult hsink
  | flush flushes => exact flushes

theorem perform_of_refuses (h : s.Refuses step e s') : writer.perform step s = (.error e, s') := by
  cases h with
  | write rejects =>
    obtain ⟨hresult, hsink⟩ := writeRounds_of_rejects rejects (Nat.le_refl _)
    exact Prod.ext hresult hsink
  | flush fails => exact fails

/-- If a sink takes all of a script, the script ends by itself. -/
theorem run_of_takesAll (h : s.TakesAll script s') : script.run writer s = (script.ending, s') := by
  induction h with
  | nil => rfl
  | fail => rfl
  | cons first others ih =>
    have hstep := perform_of_passes first
    rw [Script.run_cons_ok hstep, Script.ending_cons_ok hstep, ih]

/-- Else it ends with what the sink refuses first. -/
theorem run_of_refusesFirst (h : s.RefusesFirst script e s') :
    script.run writer s = (.error e, s') := by
  induction h with
  | here refuses => exact Script.run_cons_error (perform_of_refuses refuses)
  | later passes others ih => rw [Script.run_cons_ok (perform_of_passes passes), ih]

theorem takesAll_or_refusesFirst (script : Script) (s : Sink) :
    (∃ s', s.TakesAll script s') ∨ ∃ e s', s.RefusesFirst script e s' := by
  induction script generalizing s with
  | nil => exact .inl ⟨s, .nil⟩
  | cons step rest ih =>
    -- behind a step that the sink passes, the rest of the script decides
    have hpasses {s' : Sink} (h : s.Passes step s') :
        (∃ s'', s.TakesAll (step :: rest) s'') ∨ ∃ e s'', s.RefusesFirst (step :: rest) e s'' := by
      rcases ih s' with ⟨s'', hall⟩ | ⟨e, s'', hrefuses⟩
      · exact .inl ⟨s'', .cons h hall⟩
      · exact .inr ⟨e, s'', .later h hrefuses⟩
    cases step with
    | write bytes =>
      rcases s.accepts_or_rejects bytes with ⟨s', haccepts⟩ | ⟨e, s', hrejects⟩
      · exact hpasses (.write haccepts)
      · exact .inr ⟨e, s', .here (.write hrejects)⟩
    | flush =>
      cases hflush : s.flush with
      | mk result next =>
        cases result with
        | error e => exact .inr ⟨e, next, .here (.flush hflush)⟩
        | ok u => exact hpasses (.flush hflush)
    | fail e => exact .inl ⟨s, .fail⟩

end Sink

/-! ### What a body hands over -/

namespace MultipartEncoder

variable (e : MultipartEncoder) (script : Script)

@[simp] theorem ending_bodyScript : (e.bodyScript script).ending = script.ending := by
  show (script ++ closing).ending = script.ending
  induction script with
  | nil => rfl
  | cons step rest ih =>
    cases step with
    | write bytes => exact ih
    | flush => exact ih
    | fail x => rfl

variable {script}

theorem written_append_of_ending_ok (h : script.ending = .ok ()) :
    Script.written (script ++ closing) = script.written ++ Multipart.tail := by
  induction script with
  | nil => exact List.append_nil _
  | cons step rest ih =>
    cases step with
    | write bytes =>
      show bytes ++ Script.written (rest ++ closing) =
        bytes ++ Script.written rest ++ Multipart.tail
      rw [ih h, List.append_assoc]
    | flush => exact ih h
    | fail x => cases h

/-- Behind a file that breaks off, nothing is handed over. -/
theorem written_append_of_ending_error {x : IoError} (h : script.ending = .error x) :
    Script.written (script ++ closing) = script.written := by
  induction script with
  | nil => cases h
  | cons step rest ih =>
    cases step with
    | write bytes =>
      show bytes ++ Script.written (rest ++ closing) = bytes ++ Script.written rest
      rw [ih h]
    | flush => exact ih h
    | fail x => rfl

theorem written_bodyScript_of_ok (h : script.ending = .ok ()) :
    (e.bodyScript script).written = e.head ++ script.written ++ Multipart.tail := by
  show e.head ++ Script.written (script ++ closing) = _
  rw [written_append_of_ending_ok h, List.append_assoc]

theorem written_bodyScript_isPrefix :
    (e.bodyScript script).written <+: e.head ++ script.written ++ Multipart.tail := by
  cases h : script.ending with
  | ok u => exact e.written_bodyScript_of_ok h ▸ List.prefix_rfl
  | error x =>
    show e.head ++ Script.written (script ++ closing) <+: _
    rw [written_append_of_ending_error h]
    exact List.prefix_append _ _

/-! ### The first failure -/

variable (script) (sink : Sink)

/-- A push of a body whose file comes as a script **stops at the first failure**. -/
structure StopsAtFirstFailure : Prop where
  /-- The sink is left with an initial piece of the body behind what it had. -/
  initial : ∃ piece, piece <+: e.head ++ script.written ++ Multipart.tail ∧
    (e.writeTo sink).sink.received = sink.received ++ piece
  /-- A push succeeds if and only if the source delivers everything and the sink takes all of the
  body, its flushes included. -/
  succeeds : (∃ n, (e.writeTo sink).result = .ok n) ↔
    script.ending = .ok () ∧ ∃ final, sink.TakesAll (e.bodyScript script) final
  /-- It gives the number of bytes that the sink has received, which are the whole body. -/
  counts : ∀ n, (e.writeTo sink).result = .ok n →
    sink.received.length + n = (e.writeTo sink).sink.received.length ∧
      (e.writeTo sink).sink.received =
        sink.received ++ (e.head ++ script.written ++ Multipart.tail)
  /-- A push fails with the failure of the source if the sink takes all that comes before it, and
  with the first refusal of the sink otherwise. -/
  fails : ∀ x, (e.writeTo sink).result = .error x ↔
    (script.ending = .error x ∧ ∃ final, sink.TakesAll (e.bodyScript script) final) ∨
      ∃ final, sink.RefusesFirst (e.bodyScript script) x final
  /-- The sink is left as the last thing done to it has left it. -/
  final : ∀ final, sink.TakesAll (e.bodyScript script) final ∨
    (∃ x, sink.RefusesFirst (e.bodyScript script) x final) → (e.writeTo sink).sink = final

variable {e script sink}

theorem IsPushedBy.stops (h : IsPushedBy e script sink) :
    StopsAtFirstFailure e script sink := by
  have hgets := sink.gets_run (e.bodyScript script)
  have hall {last : Sink} (hlast : sink.TakesAll (e.bodyScript script) last) :
      (e.bodyScript script).run Sink.writer sink = (script.ending, last) := by
    rw [Sink.run_of_takesAll hlast, ending_bodyScript]
  have htakes {last : Sink} (hlast : sink.TakesAll (e.bodyScript script) last) :
      (e.writeTo sink).result = script.ending.map fun _ =>
        (e.writeTo sink).sink.received.length - sink.received.length := by
    rw [h.result, hall hlast]
  have hrefuses {x : IoError} {last : Sink}
      (hlast : sink.RefusesFirst (e.bodyScript script) x last) :
      (e.writeTo sink).result = .error x := by
    rw [h.result, Sink.run_of_refusesFirst hlast, Except.map]
  -- what the sink makes of the body is one of the two, and either fixes the result
  have hsucceeds {n : Nat} (hn : (e.writeTo sink).result = .ok n) :
      script.ending = .ok () ∧ ∃ final, sink.TakesAll (e.bodyScript script) final := by
    rcases Sink.takesAll_or_refusesFirst (e.bodyScript script) sink with
      ⟨last, hlast⟩ | ⟨x, last, hlast⟩
    · rw [htakes hlast] at hn
      cases hending : script.ending with
      | error x =>
        rw [hending] at hn
        cases hn
      | ok u => exact ⟨rfl, last, hlast⟩
    · cases hn.symm.trans (hrefuses hlast)
  refine
    { initial := ?_
      succeeds := ⟨fun ⟨n, hn⟩ => hsucceeds hn, ?_⟩
      counts := ?_
      fails := fun x => ⟨fun hx => ?_, ?_⟩
      final := ?_ }
  · obtain ⟨piece, hpiece, hreceived⟩ := hgets.exists_piece
    exact ⟨piece, hpiece.trans e.written_bodyScript_isPrefix, h.final ▸ hreceived⟩
  · rintro ⟨hending, last, hlast⟩
    exact ⟨_, (htakes hlast).trans (by rw [hending, Except.map])⟩
  · intro n hn
    obtain ⟨hending, last, hlast⟩ := hsucceeds hn
    rw [hall hlast, hending] at hgets
    have hreceived : (e.writeTo sink).sink.received =
        sink.received ++ (e.head ++ script.written ++ Multipart.tail) := by
      rw [h.final, hall hlast, ← e.written_bodyScript_of_ok hending]
      exact hgets.received
    refine ⟨?_, hreceived⟩
    rw [htakes hlast, hending, Except.map] at hn
    have hlength := congrArg List.length hreceived
    rw [List.length_append] at hlength
    have hcount := Except.ok.inj hn
    omega
  · rcases Sink.takesAll_or_refusesFirst (e.bodyScript script) sink with
      ⟨last, hlast⟩ | ⟨y, last, hlast⟩
    · rw [htakes hlast] at hx
      cases hending : script.ending with
      | error y =>
        rw [hending] at hx
        cases hx
        exact .inl ⟨rfl, last, hlast⟩
      | ok u =>
        rw [hending] at hx
        cases hx
    · cases hx.symm.trans (hrefuses hlast)
      exact .inr ⟨last, hlast⟩
  · rintro (⟨hending, last, hlast⟩ | ⟨last, hlast⟩)
    · rw [htakes hlast, hending, Except.map]
    · exact hrefuses hlast
  · rintro last (hlast | ⟨x, hlast⟩)
    · rw [h.final, hall hlast]
    · rw [h.final, Sink.run_of_refusesFirst hlast]

/-- **The first failure.** Every push of a body stops at the first failure of its source or of the
sink, and only there. -/
theorem stopsAtFirstFailure (e : MultipartEncoder) (sink : Sink) :
    ∃ script, FileComesAs e script ∧ StopsAtFirstFailure e script sink := by
  obtain ⟨script, hscript⟩ := e.exists_fileComesAs
  exact ⟨script, hscript, (hscript.isPushedBy sink).stops⟩

end MultipartEncoder

end ContentClient
