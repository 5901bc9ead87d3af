import ContentClient.Proofs.Client.Bodies

/-!
# Sending a request again

A request can be sent any number of times, by one client or by several. Every sending starts its
counts afresh, but it leaves the body where the sending before it left it: the body is reset between
the attempts of one sending and not at its start. So the first attempt sends the file from where its
medium stands, and only a body without a position is sure to be sent whole again. The main statement
is `resumes_of_resent`; `not_readsOutAt_sentOffline` is a file that a second sending leaves out.
-/

namespace ContentClient

/-- A request has been **sent before**, a number of times: each time by some client, over some link,
in some session, and with whatever outcome. -/
inductive Request.Resent : (times : Nat) → Request → Request → Prop where
  | unsent (r : Request) : Resent 0 r r
  | again {times : Nat} {r r' : Request} {σ : Type} (link : Link σ) (c : Client) (s : Session σ)
      (before : Resent times r r') : Resent (times + 1) r (c.send link r' s).2.1

/-- Sendings make of a body only what use makes of it. -/
theorem Request.Resent.becomes {times : Nat} {r r' : Request} (h : Resent times r r') :
    r.body.Becomes r'.body := by
  induction h with
  | unsent r => exact .refl _
  | again link c s before ih => exact ih.trans (c.becomes_send link _ s)

theorem Flow.ReadsOut.unique {f : Flow} {whole whole' : Bytes} (h : f.ReadsOut whole)
    (h' : f.ReadsOut whole') : whole = whole' :=
  Except.ok.inj ((h.all 1 Nat.one_pos).symm.trans (h'.all 1 Nat.one_pos))

namespace Client

variable {σ : Type} {link : Link σ} {c : Client} {r r' : Request} {s : Session σ}

theorem ReadsOutAt.unique {i : Nat} {bytes bytes' : Bytes} (h : c.ReadsOutAt link r s i bytes)
    (h' : c.ReadsOutAt link r s i bytes') : bytes = bytes' := by
  obtain ⟨delivery, hprepare, hreads⟩ := h
  obtain ⟨delivery', hprepare', hreads'⟩ := h'
  rw [hprepare] at hprepare'
  obtain rfl := Except.ok.inj hprepare'
  exact hreads.unique hreads'

variable (link c r s) (head file tail : Bytes)

/-- A sending **resumes** a body with a head, a file and a tail. -/
structure Resumes : Prop where
  /-- The first attempt has the head, the file from where the body stands, and the tail to send. -/
  first : c.ReadsOutAt link r s 0 (head ++ file.drop r.body.position ++ tail)
  /-- That is the whole body exactly if the body stands at its start, or there is no file. -/
  whole_iff : c.ReadsOutAt link r s 0 (head ++ file ++ tail) ↔ r.body.position = 0 ∨ file = []
  /-- Every retry has the whole body to send. -/
  retries : ∀ i, (∀ j ≤ i, ¬c.IsFinalFor link r s j) →
    c.ReadsOutAt link r s (i + 1) (head ++ file ++ tail)

variable {head file tail}

theorem drop_append_eq_iff {p : Nat} :
    head ++ file.drop p ++ tail = head ++ file ++ tail ↔ p = 0 ∨ file = [] := by
  rw [List.append_cancel_right_eq, List.append_cancel_left_eq]
  constructor
  · intro h
    have hlen := congrArg List.length h
    rw [List.length_drop] at hlen
    rcases Nat.eq_zero_or_pos file.length with hnil | hpos
    · exact .inr (List.length_eq_zero_iff.mp hnil)
    · exact .inl (by omega)
  · rintro (rfl | rfl)
    · rfl
    · exact List.drop_nil

theorem resumes (h : r.body.Replays head file tail) : c.Resumes link r s head file tail := by
  have hfirst := readsOutAt_of_replays link c r s h 0
  refine
    { first := hfirst
      whole_iff := ⟨fun hwhole => drop_append_eq_iff.mp (hfirst.unique hwhole), fun hat => ?_⟩
      retries := fun i hnot => readsOutAt_succ h (hnot i (Nat.le_refl i)) }
  rw [← drop_append_eq_iff.mpr hat]
  exact hfirst

/-- **Sending again.** A request whose body replays resumes it when it is sent again, whatever came
of the sendings before. A body without a medium that has a position is sent whole every time. -/
theorem resumes_of_resent {times : Nat} (h : r.body.Replays head file tail)
    (hresent : Request.Resent times r r') :
    c.Resumes link r' s head file tail ∧
      (r.body.isSeekable = false → c.ReadsOutAt link r' s 0 (head ++ file ++ tail)) := by
  have hresumes := resumes link c r' s (h.of_becomes hresent.becomes)
  refine ⟨hresumes, fun hseek => hresumes.whole_iff.mpr (.inl ?_)⟩
  exact Body.position_of_not_isSeekable (hresent.becomes.isSeekable_eq.trans hseek)

/-! ### Five letters, sent twice -/

/-- The letters. -/
def fiveLetters : Bytes := [0x61, 0x62, 0x63, 0x64, 0x65]

/-- A multipart body with the letters as its file, on a medium that hands over all that fits. -/
def promptEncoder : MultipartEncoder where
  file :=
    { partName := "file"
      filename := "letters.txt"
      source := .seekable { source := .ofBytes fiveLetters } }
  chunkSize_pos := Multipart.defaultChunkSize_pos

/-- A request with the letters as a file. -/
def sendingLetters : Request := carrying (.multipart promptEncoder)

/-- A session with a server that cannot be reached. -/
def offline : Session Unit := ⟨.empty, (), []⟩

/-- A request after it has been sent without a retry. -/
def sentOffline (r : Request) : Request := ((retrying 0).send Link.unreachable r offline).2.1

theorem resent_sentOffline (r : Request) : Request.Resent 1 r (sentOffline r) :=
  .again Link.unreachable (retrying 0) offline (.unsent r)

theorem replays_sendingLetters :
    sendingLetters.body.Replays promptEncoder.head fiveLetters Multipart.tail :=
  .multipart (.seekable fun _ p _ => ⟨5 - p, rfl, fun hp => Nat.sub_pos_of_lt hp⟩)

/-- The letters resume behind the first sending, and bytes are sent whole once more. -/
theorem resumes_of_resent_letters :
    (sendingLetters.body.Replays promptEncoder.head fiveLetters Multipart.tail ∧
        Request.Resent 1 sendingLetters (sentOffline sendingLetters) ∧
        (retrying 0).Resumes Link.unreachable (sentOffline sendingLetters) offline
          promptEncoder.head fiveLetters Multipart.tail) ∧
      (carrying (.bytes fiveLetters)).body.isSeekable = false ∧
      (retrying 0).ReadsOutAt Link.unreachable (sentOffline (carrying (.bytes fiveLetters))) offline
        0 fiveLetters := by
  refine ⟨⟨replays_sendingLetters, resent_sentOffline _,
    (resumes_of_resent _ _ _ _ replays_sendingLetters (resent_sentOffline _)).1⟩, rfl, ?_⟩
  have hwhole := (resumes_of_resent Link.unreachable (retrying 0) _ offline (.bytes fiveLetters)
    (resent_sentOffline (carrying (.bytes fiveLetters)))).2 rfl
  rwa [List.append_nil] at hwhole

/-- The attempt over a link that breaks off reads the letters to their end. -/
theorem position_sentOffline : (sentOffline sendingLetters).body.position = 5 := by
  have hfinal : (retrying 0).IsFinalFor Link.unreachable sendingLetters offline 0 :=
    ((retrying 0).attempting Link.unreachable).isFinal_limit _ 0
  rw [sentOffline, send_of_isFinal_zero hfinal]
  decide +kernel

/-- The letters are left out when they are sent again: the body that the first sending has to send
contains them, and the body that the second has to send does not. -/
theorem not_readsOutAt_sentOffline :
    sendingLetters.body.Replays promptEncoder.head fiveLetters Multipart.tail ∧
      sendingLetters.body.position = 0 ∧
      Request.Resent 1 sendingLetters (sentOffline sendingLetters) ∧
      (retrying 0).ReadsOutAt Link.unreachable sendingLetters offline 0
        (promptEncoder.head ++ fiveLetters ++ Multipart.tail) ∧
      (retrying 0).ReadsOutAt Link.unreachable (sentOffline sendingLetters) offline 0
        (promptEncoder.head ++ Multipart.tail) ∧
      ¬(retrying 0).ReadsOutAt Link.unreachable (sentOffline sendingLetters) offline 0
        (promptEncoder.head ++ fiveLetters ++ Multipart.tail) := by
  have hbefore := resumes Link.unreachable (retrying 0) sendingLetters offline
    replays_sendingLetters
  have hbehind := resumes Link.unreachable (retrying 0) (sentOffline sendingLetters) offline
    (replays_sendingLetters.of_becomes (resent_sentOffline sendingLetters).becomes)
  have hfirst := hbehind.first
  rw [position_sentOffline, show fiveLetters.drop 5 = [] from rfl, List.append_nil] at hfirst
  refine ⟨replays_sendingLetters, rfl, resent_sentOffline _, hbefore.first, hfirst, fun hwhole => ?_⟩
  rcases hbehind.whole_iff.mp hwhole with hposition | hfile
  · rw [position_sentOffline] at hposition
    cases hposition
  · cases hfile

end Client

end ContentClient
