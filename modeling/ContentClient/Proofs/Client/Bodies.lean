import ContentClient.Proofs.Client.Retries
import ContentClient.Proofs.Http.Replaying

/-!
# The body of every attempt

A request is sent in one attempt or more, and its body is prepared for each of them. If the body
replays and stands at its start, then every attempt has the whole body to send, however far the
attempts before it have read. A body for single use is sent once, and what the attempt comes to is
final. The main statement is `sendsWhole_and_sendsOnce`.

The invariant is that of `Body.Becomes`: attempts and resets make of the body only what use makes of
it. The loop goes on to another attempt only behind a reset that succeeded, which is where the
position of the body goes back to its start.
-/

namespace ContentClient

/-- A failure that may be mended counts attempts. -/
theorem ApiError.attempts_of_isRetryable {e : ApiError} (n : Nat) (h : e.isRetryable = true) :
    (e.withAttempts n).attempts = some n := by
  cases e <;> first | rfl | cases h

namespace Client

open Attempting

variable {σ : Type} (link : Link σ) (c : Client) (r : Request) (s : Session σ)

/-! ### What a sending makes of a body -/

theorem becomes_attempt (sending : Sending σ) :
    sending.request.body.Becomes (c.attempt link sending).2.request.body := by
  have hprepare := sending.request.body.becomes_prepare
  unfold attempt
  split
  · rename_i hbody
    rwa [hbody] at hprepare
  · rename_i delivery body hbody
    rw [hbody] at hprepare
    dsimp only
    split
    · exact hprepare
    · exact hprepare.trans
        (Exchange.becomes_run (link (c.outgoing sending.request) sending.link) ⟨delivery, body, []⟩)

theorem becomes_resetBody (sending : Sending σ) :
    sending.request.body.Becomes (resetBody sending).2.request.body :=
  sending.request.body.becomes_reset

theorem becomes_perform (start : Sending σ) (ops : List Operation) :
    start.request.body.Becomes ((c.attempting link).perform start ops).request.body := by
  induction ops generalizing start with
  | nil => exact .refl _
  | cons op ops ih =>
    cases op with
    | attempt => exact (c.becomes_attempt link start).trans (ih _)
    | reset => exact (becomes_resetBody start).trans (ih _)

/-- A request that has been sent has the body that use made of it. -/
theorem becomes_send : r.body.Becomes (c.send link r s).2.1.body := by
  obtain ⟨last, hlast⟩ :=
    (c.attempting link).exists_isLeast_isFinal (unsent r s) (c.limitsFor r).maxRetries
  have hrun := (c.attempting link).run_eq_of_isLeast (unsent r s) (c.limitsFor r) s.clocks hlast
  rw [send_eq, hrun]
  exact c.becomes_perform link (unsent r s) _

/-! ### The body at an attempt -/

/-- The body with which attempt number `i` begins. -/
def bodyAt (i : Nat) : Body := ((c.attempting link).before (unsent r s) i).request.body

/-- The body that is prepared for attempt number `i` reads out bytes. -/
def ReadsOutAt (i : Nat) (bytes : Bytes) : Prop :=
  ∃ delivery, (c.bodyAt link r s i).prepare.1 = .ok delivery ∧
    Flow.ReadsOut { delivery := delivery, body := (c.bodyAt link r s i).prepare.2 } bytes

theorem becomes_bodyAt (i : Nat) : r.body.Becomes (c.bodyAt link r s i) := by
  rw [bodyAt, ← perform_rounds]
  exact c.becomes_perform link (unsent r s) _

variable {head file tail : Bytes}

/-- A body that replays reads out its file from where it stands. -/
theorem readsOutAt_of_replays (h : r.body.Replays head file tail) (i : Nat) :
    c.ReadsOutAt link r s i (head ++ file.drop (c.bodyAt link r s i).position ++ tail) := by
  obtain ⟨delivery, hprepare, hdelivers⟩ := (h.of_becomes (c.becomes_bodyAt link r s i)).prepare
  exact ⟨delivery, hprepare, hdelivers.readsOut⟩

variable {link c r s}

/-- Behind a reset that succeeded the body is at its start. -/
theorem position_bodyAt_succ {i : Nat}
    (h : (c.attempting link).readiness (unsent r s) i = .ok true) :
    (c.bodyAt link r s (i + 1)).position = 0 :=
  Body.position_reset h

/-- Every retry has the whole body to send. -/
theorem readsOutAt_succ (h : r.body.Replays head file tail) {i : Nat}
    (hnot : ¬c.IsFinalFor link r s i) :
    c.ReadsOutAt link r s (i + 1) (head ++ file ++ tail) := by
  obtain ⟨-, -, -, -, hready⟩ := ((c.attempting link).not_isFinal_iff (unsent r s)).mp hnot
  have hreads := readsOutAt_of_replays link c r s h (i + 1)
  rwa [position_bodyAt_succ hready, List.drop_zero] at hreads

/-! ### Sending whole, sending once -/

variable (link c r s)

/-- A request is **sent whole** if in every attempt of a sending, up to the last, the body that is
prepared reads out the same bytes. -/
structure SentWhole (bytes : Bytes) (last : Nat) : Prop where
  isLeast : IsLeast {i | c.IsFinalFor link r s i} last
  attempts : (c.send link r s).2.1.attempts = last + 1
  readsOut : ∀ i ≤ last, c.ReadsOutAt link r s i bytes

/-- A request is **sent once** if a sending consists of one attempt: it returns what the attempt
comes to, waits for nothing and draws no sample. -/
structure SentOnce : Prop where
  result : (c.send link r s).1 =
    (c.attempt link (unsent r s)).1.mapError fun f => f.error.withAttempts 1
  attempts : (c.send link r s).2.1.attempts = 1
  /-- A failure that another attempt might have mended shows one attempt too. -/
  counted : ∀ e, (c.send link r s).1 = .error e → e.isRetryable = true → e.attempts = some 1
  session : (c.send link r s).2.2 =
    ⟨s.clocks, (c.attempt link (unsent r s)).2.link, (c.attempt link (unsent r s)).2.reports⟩

variable {link c r s}

theorem exists_sentWhole (h : r.body.Replays head file tail) (hstart : r.body.position = 0) :
    ∃ last, c.SentWhole link r s (head ++ file ++ tail) last := by
  obtain ⟨last, hlast⟩ :=
    (c.attempting link).exists_isLeast_isFinal (unsent r s) (c.limitsFor r).maxRetries
  have hrun := (c.attempting link).run_eq_of_isLeast (unsent r s) (c.limitsFor r) s.clocks hlast
  refine ⟨last, hlast, ?_, ?_⟩
  · rw [send_eq, hrun]
  · intro i hi
    cases i with
    | zero =>
      have hreads := readsOutAt_of_replays link c r s h 0
      have hzero : (c.bodyAt link r s 0).position = 0 := hstart
      rwa [hzero, List.drop_zero] at hreads
    | succ i => exact readsOutAt_succ h fun hfinal => absurd (hlast.2 hfinal) (by omega)

/-- A sending whose first attempt is final ends with it, without a wait. A reset behind it would
leave the link and the reports as they are. -/
theorem send_of_isFinal_zero (h : c.IsFinalFor link r s 0) :
    c.send link r s =
      ((c.attempt link (unsent r s)).1.mapError fun f => f.error.withAttempts 1,
        { ((c.attempting link).perform (unsent r s) (operations 0
            ((c.attempting link).isMendable (unsent r s) 0 &&
              decide (0 < (c.limitsFor r).maxRetries)))).request with attempts := 1 },
        ⟨s.clocks, (c.attempt link (unsent r s)).2.link,
          (c.attempt link (unsent r s)).2.reports⟩) := by
  have hrun : (c.attempting link).run 0 (c.limitsFor r).reset (unsent r s) s.clocks = _ :=
    (c.attempting link).run_of_isFinal (unsent r s) (c.limitsFor r) s.clocks h
  rw [send_eq, hrun]
  refine Prod.ext rfl (Prod.ext rfl ?_)
  simp only [perform_operations]
  split <;> rfl

theorem sentOnce (h : r.body.isSingleUse = true) : c.SentOnce link r s := by
  have huse := c.becomes_attempt link (unsent r s)
  -- the body cannot be made ready behind the first attempt, which is therefore final
  have hfinal : c.IsFinalFor link r s 0 :=
    .inr (.inr (.inr (.inl (Body.reset_of_isSingleUse (huse.isSingleUse_eq.trans h)))))
  have hsend := send_of_isFinal_zero hfinal
  have hresult := congrArg Prod.fst hsend
  refine
    { result := hresult
      attempts := congrArg (fun x => x.2.1.attempts) hsend
      counted := ?_
      session := congrArg (fun x => x.2.2) hsend }
  intro e he hretry
  rw [hresult] at he
  cases hattempt : (c.attempt link (unsent r s)).1 with
  | ok response =>
    rw [hattempt] at he
    cases he
  | error failure =>
    rw [hattempt] at he
    cases he
    rw [ApiError.isRetryable_withAttempts] at hretry
    exact ApiError.attempts_of_isRetryable 1 hretry

/-- **The body of every attempt.** -/
theorem sendsWhole_and_sendsOnce :
    (∀ head file tail, r.body.Replays head file tail → r.body.position = 0 →
        ∃ last, c.SentWhole link r s (head ++ file ++ tail) last) ∧
      (r.body.isSingleUse = true → c.SentOnce link r s) :=
  ⟨fun _ _ _ h hstart => exists_sentWhole h hstart, sentOnce⟩

/-! ### An upload -/

/-- A client that allows a retry. -/
def retrying (limit : Nat) : Client :=
  let url : Url :=
    { scheme := "https"
      authority := some { host := .name "example.org" }
      path := .segments ["files"] }
  { authorization := "Bearer token"
    options := { maxRetries := limit }
    clock := .system
    baseUrl := url
    baseUploadUrl := url }

/-- A medium that holds three letters and hands over one at a time. -/
def slowLetters : ByteSource where
  data := [0x61, 0x62, 0x63]
  pace := fun _ _ => .ok 1

theorem slowLetters_replays : slowLetters.Replays :=
  fun _ _ _ => ⟨1, rfl, fun _ => Nat.one_pos⟩

/-- A body with a text field and a file that is read from a medium. -/
def lettersEncoder : MultipartEncoder where
  fields := [("attributes", "none")]
  file :=
    { partName := "file"
      filename := "letters.txt"
      source := .seekable { source := slowLetters } }
  chunkSize_pos := Multipart.defaultChunkSize_pos

/-- A request that carries a body. -/
def carrying (body : Body) : Request where
  method := "POST"
  url := (retrying 0).baseUrl
  body := body

/-- A multipart body over a medium is sent whole, and one that is read once is sent once, to a
server that cannot be reached and in which every attempt breaks off behind the first bytes. -/
theorem sendsWhole_and_sendsOnce_letters :
    (carrying (.multipart lettersEncoder)).body.Replays lettersEncoder.head slowLetters.data
        Multipart.tail ∧
      (carrying (.multipart lettersEncoder)).body.position = 0 ∧
      (∃ last, (retrying 2).SentWhole Link.unreachable (carrying (.multipart lettersEncoder))
        ⟨.empty, (), []⟩ (lettersEncoder.head ++ slowLetters.data ++ Multipart.tail) last) ∧
      (carrying (.oneShot (some slowLetters))).body.isSingleUse = true ∧
      (retrying 2).SentOnce Link.unreachable (carrying (.oneShot (some slowLetters)))
        ⟨.empty, (), []⟩ := by
  have hreplays : (carrying (.multipart lettersEncoder)).body.Replays lettersEncoder.head
      slowLetters.data Multipart.tail := .multipart (.seekable slowLetters_replays)
  exact ⟨hreplays, rfl, sendsWhole_and_sendsOnce.1 _ _ _ hreplays rfl, rfl,
    sendsWhole_and_sendsOnce.2 rfl⟩

end Client

end ContentClient
