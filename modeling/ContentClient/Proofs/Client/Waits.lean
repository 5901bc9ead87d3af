import ContentClient.Http.ScriptedServer
import ContentClient.Proofs.Client.Bodies
import ContentClient.Proofs.Client.Retries
import ContentClient.Proofs.Http.RequestedDelays

/-!
# Waits that the server asks for

Between two attempts a client waits. If the server has limited the rate and asked for a wait, that
wait takes the place of the computed one, up to the greatest delay of the policy, whatever the
attempt and the sample: the main statement is `waitsAsAsked`. It goes for every server that is
heard. One that is not heard has asked in vain, and the client waits as it would without being
asked.

A number of seconds beyond the counts of 64 bits is not heard. So a server that asks for such a wait
may get a shorter one than a server that asks for less (`shorterWait_hugeSeconds`).
-/

namespace ContentClient

/-- A delay that is computed is a count of 64 bits of milliseconds. -/
theorem BackoffPolicy.nanos_delay_lt (p : BackoffPolicy) (attempt : Nat) (sample : Float) :
    (p.delay attempt sample).nanos < 0x10000000000000000 * 1000000 :=
  Nat.mul_lt_mul_of_pos_right (UInt64.toNat_lt _) (by decide)

theorem Duration.min_ofSecs_le {fewer seconds : Nat} (h : fewer ≤ seconds) (d : Duration) :
    min (ofSecs fewer) d ≤ min (ofSecs seconds) d := by
  show (min (ofSecs fewer) d).nanos ≤ (min (ofSecs seconds) d).nanos
  rw [nanos_min, nanos_min]
  exact Nat.le_min.mpr
    ⟨Nat.le_trans (Nat.min_le_left _ _) (Nat.mul_le_mul_right _ h), Nat.min_le_right _ _⟩

namespace Client

open Attempting

variable {σ : Type} {link : Link σ} {c : Client} {r : Request} {s : Session σ}

/-! ### Replies -/

/-- The reply that an attempt brings: none if the request does not go out or nothing comes back. -/
def replyTo? (link : Link σ) (c : Client) (s : Sending σ) : Option Reply :=
  match s.request.body.prepare with
  | (.error _, _) => none
  | (.ok delivery, body) =>
    if (c.outgoing s.request).fault?.isSome then none
    else ((link (c.outgoing s.request) s.link).run { delivery := delivery, body := body }).1

/-- An attempt comes to what its reply comes to. -/
theorem attempt_of_replyTo? {sending : Sending σ} {reply : Reply}
    (h : c.replyTo? link sending = some reply) :
    (c.attempt link sending).1 = reply.outcome sending.request.method := by
  unfold replyTo? at h
  unfold attempt
  cases hprepare : sending.request.body.prepare with
  | mk result body =>
    rw [hprepare] at h
    cases result with
    | error e => cases h
    | ok delivery =>
      cases hfault : (c.outgoing sending.request).fault? with
      | some fault =>
        rw [hfault] at h
        cases h
      | none =>
        rw [hfault] at h
        simp only [Option.isSome_none, Bool.false_eq_true, if_false] at h
        simp only [hfault, h]
        rfl

/-! ### Waits -/

/-- The clocks after a sending are those at its last attempt. -/
theorem clocks_send_of_isLeast {last : Nat} (h : IsLeast {i | c.IsFinalFor link r s i} last) :
    (c.send link r s).2.2.clocks =
      (c.attempting link).clocksBefore (unsent r s) (c.limitsFor r) s.clocks last := by
  have hrun := (c.attempting link).run_eq_of_isLeast (unsent r s) (c.limitsFor r) s.clocks h
  rw [send_eq, hrun]

/-- A recording clock shows the wait behind every attempt that is followed by another one. -/
theorem waits_send_getElem? {i : Nat} (h : ∀ j ≤ i, ¬c.IsFinalFor link r s j) {name : String}
    (hclock : (c.limitsFor r).clock = .recorded name) :
    (c.send link r s).2.2.clocks.waits[s.clocks.waits.length + i]? =
      some (name, (c.attempting link).delay (unsent r s) (c.limitsFor r) s.clocks i) := by
  obtain ⟨last, hlast⟩ :=
    (c.attempting link).exists_isLeast_isFinal (unsent r s) (c.limitsFor r).maxRetries
  have hlt : i < last := by
    by_contra hge
    exact h last (not_lt.mp hge) hlast.1
  have hdelay : ((c.attempting link).delays (unsent r s) (c.limitsFor r) s.clocks last)[i]? =
      some ((c.attempting link).delay (unsent r s) (c.limitsFor r) s.clocks i) := by
    rw [delays, List.getElem?_map, List.getElem?_range hlt, Option.map_some]
  rw [clocks_send_of_isLeast hlast, clocksBefore, hclock, Timeline.waits_sleepAll,
    Timeline.waits_skip, List.getElem?_append_right (Nat.le_add_right _ _), Nat.add_sub_cancel_left,
    List.getElem?_map, hdelay, Option.map_some]

variable {i seconds : Nat} {reply : Reply}

section Asked

variable (hreply : c.replyTo? link ((c.attempting link).before (unsent r s) i) = some reply)
  (hasks : reply.Asks seconds)
include hreply hasks

/-- An attempt behind which the server asks for a wait can be mended. -/
theorem not_isFinalFor_of_asks (hbudget : i < (c.limitsFor r).maxRetries)
    (hready : (c.attempting link).readiness (unsent r s) i = .ok true) :
    ¬c.IsFinalFor link r s i := by
  obtain ⟨failure, houtcome, hmend, -⟩ := hasks.exists_failure
    ((c.attempting link).before (unsent r s) i).request.method
  exact ((c.attempting link).not_isFinal_iff (unsent r s)).mpr
    ⟨failure, (attempt_of_replyTo? hreply).trans houtcome, hmend, Nat.ne_of_lt hbudget, hready⟩

/-- The delay that is taken over from the server. -/
theorem requested_of_asks :
    (reply.IsHeard seconds →
        (c.attempting link).requested (unsent r s) i = some (.ofSecs seconds)) ∧
      (¬reply.IsHeard seconds → (c.attempting link).requested (unsent r s) i = none) := by
  obtain ⟨failure, houtcome, -, hheard, hnot⟩ := hasks.exists_failure
    ((c.attempting link).before (unsent r s) i).request.method
  have hfailure : (c.attempting link).outcome (unsent r s) i = .error failure :=
    (attempt_of_replyTo? hreply).trans houtcome
  rw [requested, hfailure]
  exact ⟨hheard, hnot⟩

theorem delay_of_isHeard (hheard : reply.IsHeard seconds) :
    (c.attempting link).delay (unsent r s) (c.limitsFor r) s.clocks i =
      min (.ofSecs seconds) (c.limitsFor r).policy.maxDelay := by
  rw [delay, (requested_of_asks hreply hasks).1 hheard]
  rfl

theorem delay_of_not_isHeard (hheard : ¬reply.IsHeard seconds) :
    (c.attempting link).delay (unsent r s) (c.limitsFor r) s.clocks i =
      (c.limitsFor r).policy.delay i (s.clocks.upcoming (c.limitsFor r).clock
        ((c.attempting link).drawsBefore (unsent r s) i)) := by
  rw [delay, (requested_of_asks hreply hasks).2 hheard]
  rfl

end Asked

variable (link c r s i seconds reply) in
/-- A client **waits as it is asked** to behind an attempt. -/
structure WaitsAsAsked : Prop where
  /-- Another attempt follows. -/
  goesOn : ¬c.IsFinalFor link r s i
  /-- A server that is heard gets the wait that it asks for, up to the greatest delay. -/
  granted : reply.IsHeard seconds →
    (c.attempting link).delay (unsent r s) (c.limitsFor r) s.clocks i =
      min (.ofSecs seconds) (c.limitsFor r).policy.maxDelay
  /-- It gets no less than a server that asks for less. -/
  ordered : reply.IsHeard seconds → ∀ fewer ≤ seconds,
    min (.ofSecs fewer) (c.limitsFor r).policy.maxDelay ≤
      (c.attempting link).delay (unsent r s) (c.limitsFor r) s.clocks i
  /-- For one that is not heard, the wait is computed. -/
  computed : ¬reply.IsHeard seconds →
    (c.attempting link).delay (unsent r s) (c.limitsFor r) s.clocks i =
      (c.limitsFor r).policy.delay i (s.clocks.upcoming (c.limitsFor r).clock
        ((c.attempting link).drawsBefore (unsent r s) i))
  /-- A recording clock shows the wait. -/
  recorded : ∀ name, (c.limitsFor r).clock = .recorded name →
    (c.send link r s).2.2.clocks.waits[s.clocks.waits.length + i]? =
      some (name, (c.attempting link).delay (unsent r s) (c.limitsFor r) s.clocks i)

/-- **Requested waits.** If the server limits the rate and asks for a wait, a retry is left, and the
body can be sent again, then the client waits as it is asked to before it does so. -/
theorem waitsAsAsked (hmade : ∀ j < i, ¬c.IsFinalFor link r s j)
    (hreply : c.replyTo? link ((c.attempting link).before (unsent r s) i) = some reply)
    (hasks : reply.Asks seconds) (hbudget : i < (c.limitsFor r).maxRetries)
    (hready : (c.attempting link).readiness (unsent r s) i = .ok true) :
    c.WaitsAsAsked link r s i seconds reply := by
  have hgoes := not_isFinalFor_of_asks hreply hasks hbudget hready
  have hall : ∀ j ≤ i, ¬c.IsFinalFor link r s j := fun j hj =>
    (Nat.lt_or_eq_of_le hj).elim (hmade j) fun heq => heq ▸ hgoes
  exact
    { goesOn := hgoes
      granted := delay_of_isHeard hreply hasks
      ordered := fun hheard fewer hfewer => by
        rw [delay_of_isHeard hreply hasks hheard]
        exact Duration.min_ofSecs_le hfewer _
      computed := delay_of_not_isHeard hreply hasks
      recorded := fun name hclock => waits_send_getElem? hall hclock }

/-! ### A busy server -/

/-- The policy with the longest waits that there are. -/
def patientPolicy : BackoffPolicy :=
  { baseDelay := .ofSecs 1, maxDelay := .ofSecs 0xFFFFFFFFFFFFFFFF, randomizationFactor := 0.5 }

/-- A request that is sent again once, on a recording clock. -/
def patientRequest : Request :=
  { carrying .empty with
    backoff := some { policy := patientPolicy, clock := .recorded "main", maxRetries := 1 } }

/-- A session with a server that asks for a wait once and then takes the request. -/
def busySession (seconds : String) : Session ScriptedServer :=
  ⟨.empty, { replies := [{ status := 429, headers := [("Retry-After", seconds)] }, {}] }, []⟩

/-- The first reply of that server, as it arrives. -/
def busyReply (seconds : String) : Reply :=
  { status := 429
    headers := [("Retry-After", ScriptedReply.fieldValue seconds)]
    length := some 0 }

theorem replyTo?_busy (seconds : String) :
    (retrying 0).replyTo? Link.scripted (unsent patientRequest (busySession seconds)) =
      some (busyReply seconds) := by
  have hfault : ((retrying 0).outgoing patientRequest).fault? = none := by decide +kernel
  unfold replyTo?
  simp only [unsent, hfault]
  rfl

/-- A server that asks for seven seconds, in a long way of writing, gets them. -/
theorem waitsAsAsked_seven :
    (retrying 0).replyTo? Link.scripted (unsent patientRequest (busySession " 0007 ")) =
        some (busyReply " 0007 ") ∧
      (busyReply " 0007 ").Asks 7 ∧ (busyReply " 0007 ").IsHeard 7 ∧
      0 < ((retrying 0).limitsFor patientRequest).maxRetries ∧
      (((retrying 0).attempting Link.scripted).readiness
        (unsent patientRequest (busySession " 0007 ")) 0) = .ok true ∧
      ((retrying 0).send Link.scripted patientRequest
        (busySession " 0007 ")).2.2.clocks.waits[0]? = some ("main", .ofSecs 7) := by
  have hreply := replyTo?_busy " 0007 "
  have hasks : (busyReply " 0007 ").Asks 7 :=
    ⟨rfl, _, rfl, by decide +kernel, List.all_eq_true.mp (by decide +kernel), by decide +kernel⟩
  have hheard : (busyReply " 0007 ").IsHeard 7 :=
    ⟨rfl, fun value hvalue => Option.some.inj hvalue ▸ by decide +kernel, by decide⟩
  have hready : (((retrying 0).attempting Link.scripted).readiness
      (unsent patientRequest (busySession " 0007 ")) 0) = .ok true := rfl
  have hwaits := waitsAsAsked (i := 0) (fun j hj => absurd hj (Nat.not_lt_zero j)) hreply hasks
    (by decide) hready
  refine ⟨hreply, hasks, hheard, by decide, hready, (hwaits.recorded "main" rfl).trans ?_⟩
  rw [hwaits.granted hheard]
  decide

/-- The first number of seconds beyond the counts of 64 bits. -/
def hugeSeconds : String := "18446744073709551616"

/-- A server that asks for so many seconds gets a shorter wait than one that asks for one less. -/
theorem shorterWait_hugeSeconds :
    (retrying 0).replyTo? Link.scripted (unsent patientRequest (busySession hugeSeconds)) =
        some (busyReply hugeSeconds) ∧
      (busyReply hugeSeconds).Asks 0x10000000000000000 ∧
      0 < ((retrying 0).limitsFor patientRequest).maxRetries ∧
      ((retrying 0).attempting Link.scripted).readiness
        (unsent patientRequest (busySession hugeSeconds)) 0 = .ok true ∧
      ((retrying 0).send Link.scripted patientRequest
          (busySession "18446744073709551615")).2.2.clocks.waits =
        [("main", min (.ofSecs 0xFFFFFFFFFFFFFFFF) patientPolicy.maxDelay)] ∧
      ∃ wait, ((retrying 0).send Link.scripted patientRequest
          (busySession hugeSeconds)).2.2.clocks.waits[0]? = some ("main", wait) ∧
        wait.nanos < (min (.ofSecs 0xFFFFFFFFFFFFFFFF) patientPolicy.maxDelay).nanos ∧
        wait ≠ min (.ofSecs 0x10000000000000000) patientPolicy.maxDelay := by
  have hreply := replyTo?_busy hugeSeconds
  have hasks : (busyReply hugeSeconds).Asks 0x10000000000000000 :=
    ⟨rfl, _, rfl, by decide +kernel, List.all_eq_true.mp (by decide +kernel), by decide +kernel⟩
  have hready : ((retrying 0).attempting Link.scripted).readiness
      (unsent patientRequest (busySession hugeSeconds)) 0 = .ok true := rfl
  have hheard : ¬(busyReply hugeSeconds).IsHeard 0x10000000000000000 :=
    fun hheard => absurd hheard.fits (by decide)
  have hgoes : ∀ j ≤ 0, ¬(retrying 0).IsFinalFor Link.scripted patientRequest
      (busySession hugeSeconds) j := by
    intro j hj
    rw [Nat.le_zero.mp hj]
    exact not_isFinalFor_of_asks hreply hasks (by decide) hready
  have hdelay := delay_of_not_isHeard (i := 0) hreply hasks hheard
  -- the greatest delay is beyond everything that is computed
  have hshort : ∀ attempt sample, (patientPolicy.delay attempt sample).nanos <
      (min (.ofSecs 0xFFFFFFFFFFFFFFFF) patientPolicy.maxDelay).nanos := fun attempt sample =>
    Nat.lt_trans (BackoffPolicy.nanos_delay_lt _ attempt sample) (by decide)
  have hmax : min (Duration.ofSecs 0x10000000000000000) patientPolicy.maxDelay =
      min (.ofSecs 0xFFFFFFFFFFFFFFFF) patientPolicy.maxDelay := by decide
  refine ⟨hreply, hasks, by decide, hready, by decide +kernel, _,
    waits_send_getElem? hgoes rfl, ?_, ?_⟩
  · rw [hdelay]
    exact hshort _ _
  · rw [hdelay, hmax]
    exact fun heq => Nat.ne_of_lt (hshort _ _) (congrArg Duration.nanos heq)

end Client

end ContentClient
