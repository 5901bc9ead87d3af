import ContentClient.Proofs.Stream.Piping

/-!
# Scripts, step by step

A producer does one thing after another, and stops at the first failure. So whatever it is run
against, a run is one step and the run of the rest behind it, if the step succeeds
(`Script.run_cons_ok`), and one step otherwise (`Script.run_cons_error`). Two scripts run one behind
the other in the same way.
-/

namespace ContentClient

/-- Does one thing that a producer does. -/
def Writer.perform {σ : Type} (w : Writer σ) : ScriptStep → σ → Except IoError Unit × σ
  | .write bytes, s => w.write bytes s
  | .flush, s => w.flush s
  | .fail e, s => (.error e, s)

/-- The bytes that one thing hands over. -/
def ScriptStep.bytes : ScriptStep → Bytes
  | .write bytes => bytes
  | _ => []

namespace Script

variable {σ : Type} {w : Writer σ} {step : ScriptStep} {rest : Script} {s s' : σ} {e : IoError}

theorem run_cons_ok (h : w.perform step s = (.ok (), s')) :
    Script.run w (step :: rest) s = rest.run w s' := by
  cases step with
  | write bytes => rw [run, show w.write bytes s = (.ok (), s') from h]
  | flush => rw [run, show w.flush s = (.ok (), s') from h]
  | fail e => cases h

theorem run_cons_error (h : w.perform step s = (.error e, s')) :
    Script.run w (step :: rest) s = (.error e, s') := by
  cases step with
  | write bytes => rw [run, show w.write bytes s = (.error e, s') from h]
  | flush => rw [run, show w.flush s = (.error e, s') from h]
  | fail e =>
    cases h
    rfl

theorem written_cons_ok (h : w.perform step s = (.ok (), s')) :
    Script.written (step :: rest) = step.bytes ++ rest.written := by
  cases step with
  | write bytes => rfl
  | flush => rfl
  | fail e => cases h

theorem ending_cons_ok (h : w.perform step s = (.ok (), s')) :
    Script.ending (step :: rest) = rest.ending := by
  cases step with
  | write bytes => rfl
  | flush => rfl
  | fail e => cases h

theorem bytes_isPrefix_written (step : ScriptStep) (rest : Script) :
    step.bytes <+: Script.written (step :: rest) := by
  cases step with
  | write bytes => exact List.prefix_append _ _
  | flush => exact List.nil_prefix
  | fail e => exact List.nil_prefix

variable {first second : Script}

theorem run_append_error (h : first.run w s = (.error e, s')) :
    Script.run w (first ++ second) s = (.error e, s') := by
  induction first generalizing s with
  | nil => cases h
  | cons step first ih =>
    cases hstep : w.perform step s with
    | mk result next =>
      cases result with
      | error x =>
        rw [run_cons_error hstep] at h
        rw [List.cons_append, run_cons_error hstep, h]
      | ok u =>
        rw [run_cons_ok hstep] at h
        rw [List.cons_append, run_cons_ok hstep, ih h]

/-- A script that succeeds is followed by the next one. -/
theorem run_append_ok (h : first.run w s = (.ok (), s')) :
    Script.run w (first ++ second) s = second.run w s' := by
  induction first generalizing s with
  | nil =>
    cases h
    rfl
  | cons step first ih =>
    cases hstep : w.perform step s with
    | mk result next =>
      cases result with
      | error x =>
        rw [run_cons_error hstep] at h
        cases h
      | ok u =>
        rw [run_cons_ok hstep] at h
        rw [List.cons_append, run_cons_ok hstep, ih h]

end Script

end ContentClient
