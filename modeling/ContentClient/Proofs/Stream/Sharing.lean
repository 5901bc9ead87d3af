import ContentClient.Stream.Source
import Mathlib.Data.List.Basic

/-!
# Sharing a source

Any number of handles read a shared source in any order, while it is rewound now and then. Each of
these steps holds the lock of the source, so that a run is a list of steps, whoever makes them. What
the steps come to is kept as a history.

Two things hold after every run. A handle can read exactly if the source has not been restarted
since the handle was made (`Sharing.Stands.handle`). And what all handles together have read since
the source was restarted is what the source holds up to its position (`Sharing.Stands.delivered`).
The main statement is `Sharing.sharesOut_run`.
-/

namespace ContentClient

/-! ### Steps of a source -/

namespace ByteSource

variable {s : ByteSource} {size : Nat} {e : IoError}

theorem position_read_of_ok {bytes : Bytes} (h : (s.read size).1 = .ok bytes) :
    (s.read size).2.position = s.position + bytes.length := by
  unfold read at h ⊢
  split at h
  · cases h
  · obtain rfl := Except.ok.inj h
    rfl

/-- A read that fails does not move the position. -/
theorem read_of_error (h : (s.read size).1 = .error e) :
    (s.read size).2 = { s with reads := s.reads + 1 } := by
  unfold read at h ⊢
  split at h
  · rfl
  · cases h

end ByteSource

namespace SharedSource

variable {s : SharedSource} {e : IoError}

theorem read_of_current {h : Handle} (hcurrent : h = s.generation) (size : Nat) :
    s.read h size = ((s.source.read size).1, { s with source := (s.source.read size).2 }) := by
  rw [read, if_pos hcurrent]

theorem rewind_of_ok (h : s.rewind.1 = .ok ()) :
    s.rewind.2 =
      ⟨{ s.source with seeks := s.source.seeks + 1, position := 0 }, s.generation + 1⟩ := by
  unfold rewind ByteSource.rewind at h ⊢
  cases hfault : s.source.seekFault s.source.seeks with
  | none => rfl
  | some e =>
    simp only [hfault] at h
    cases h

/-- A rewind that is refused begins no new generation. -/
theorem rewind_of_error (h : s.rewind.1 = .error e) :
    s.rewind.2 = { s with source := { s.source with seeks := s.source.seeks + 1 } } := by
  unfold rewind ByteSource.rewind at h ⊢
  cases hfault : s.source.seekFault s.source.seeks with
  | none =>
    simp only [hfault] at h
    cases h
  | some e => rfl

end SharedSource

/-! ### Runs of steps -/

/-- A step on a shared source. Handles are numbered in the order in which they are made. -/
inductive SharedSource.Step where
  | handle
  | rewind
  | read (number size : Nat)

/-- What a step on a shared source comes to. -/
inductive SharedSource.Event where
  | made
  | rewound (result : Except IoError Unit)
  | read (number : Nat) (result : Except IoError Bytes)

/-- A shared source with the handles that have been made of it. -/
structure Sharing where
  shared : SharedSource
  handles : List SharedSource.Handle := []
  /-- What the steps have come to, newest first. -/
  history : List SharedSource.Event := []

open SharedSource (Step Event Handle)

namespace SharedSource.Event

/-- Whether the source goes back to its start. -/
def isRestart : Event → Bool
  | .rewound (.ok ()) => true
  | _ => false

def isMade : Event → Bool
  | .made => true
  | _ => false

/-- The bytes that a step hands over. -/
def bytes : Event → Bytes
  | .read _ (.ok bytes) => bytes
  | _ => []

theorem bytes_made : bytes .made = [] := rfl

/-! ### Histories -/

/-- What has happened since the source was restarted, newest first. -/
def current (history : List Event) : List Event := history.takeWhile fun event => !event.isRestart

/-- What happened until then. -/
def earlier (history : List Event) : List Event := history.dropWhile fun event => !event.isRestart

/-- What all handles together have read since the source was restarted. -/
def delivered (history : List Event) : Bytes := (current history).reverse.flatMap bytes

/-- A handle is **superseded** if the source has been restarted since the handle was made. -/
def Superseded (history : List Event) (number : Nat) : Prop :=
  number < (earlier history).countP isMade

/-- Whether the source has been restarted at all. -/
def isRestarted (history : List Event) : Bool := history.any isRestart

section

variable {event : Event} {history : List Event} {number : Nat}

theorem delivered_cons (h : event.isRestart = false) :
    delivered (event :: history) = delivered history ++ event.bytes := by
  simp [delivered, current, h]

theorem delivered_restart (h : event.isRestart = true) : delivered (event :: history) = [] := by
  simp [delivered, current, h]

theorem superseded_cons (h : event.isRestart = false) :
    Superseded (event :: history) number ↔ Superseded history number := by
  simp [Superseded, earlier, h]

theorem superseded_restart (h : event.isRestart = true) :
    Superseded (event :: history) number ↔ number < (event :: history).countP isMade := by
  simp [Superseded, earlier, h]

/-- Only a handle that has been made can be superseded. -/
theorem Superseded.lt (h : Superseded history number) : number < history.countP isMade :=
  Nat.lt_of_lt_of_le h (List.dropWhile_sublist _).countP_le

end

end SharedSource.Event

namespace Sharing

open SharedSource.Event

/-- The source after a step. A handle that has not been made reads nothing. -/
def step (s : Sharing) : Step → Sharing
  | .handle => { s with handles := s.handles ++ [s.shared.handle], history := .made :: s.history }
  | .rewind =>
    { s with
      shared := s.shared.rewind.2
      history := .rewound s.shared.rewind.1 :: s.history }
  | .read number size =>
    match s.handles[number]? with
    | none => s
    | some handle =>
      { s with
        shared := (s.shared.read handle size).2
        history := .read number (s.shared.read handle size).1 :: s.history }

/-- The source after a run of steps. -/
def run (source : ByteSource) (steps : List Step) : Sharing :=
  steps.foldl step { shared := { source := source } }

/-- The position from which the source has been read since it was restarted. -/
def start (source : ByteSource) (s : Sharing) : Nat :=
  if isRestarted s.history then 0 else source.position

/-- How a shared source stands after any run: handles are those that the history tells of, and the
bytes that they were handed over lead from the start to the position. -/
structure Stands (source : ByteSource) (s : Sharing) : Prop where
  data : s.shared.source.data = source.data
  made : s.handles.length = s.history.countP isMade
  le : ∀ handle ∈ s.handles, handle ≤ s.shared.generation
  superseded_iff : ∀ number handle, s.handles[number]? = some handle →
    (Superseded s.history number ↔ handle ≠ s.shared.generation)
  handedOver : source.data.drop (start source s) =
    delivered s.history ++ s.shared.source.remaining
  position : s.shared.source.position = start source s + (delivered s.history).length

variable {source : ByteSource} {s : Sharing}

theorem start_cons {event : Event} (h : event.isRestart = false) (shared : SharedSource)
    (handles : List Handle) :
    start source ⟨shared, handles, event :: s.history⟩ = start source s := by
  simp [start, isRestarted, h]

theorem start_restart {event : Event} (h : event.isRestart = true) (shared : SharedSource)
    (handles : List Handle) :
    start source ⟨shared, handles, event :: s.history⟩ = 0 := by
  simp [start, isRestarted, h]

/-- A new handle can read. -/
theorem Stands.step_handle (h : Stands source s) : Stands source (s.step .handle) where
  data := h.data
  made := by simp [step, isMade, h.made, List.countP_cons]
  le := by
    intro handle hmem
    rcases List.mem_append.mp hmem with hold | hnew
    · exact h.le handle hold
    · rw [List.mem_singleton.mp hnew]
      exact Nat.le_refl _
  superseded_iff := by
    intro number handle hhandle
    refine (superseded_cons rfl).trans ?_
    by_cases hlt : number < s.handles.length
    · exact h.superseded_iff number handle (by rwa [step, List.getElem?_append_left hlt] at hhandle)
    · -- the handle that was made just now
      have hnew : number = s.handles.length := by
        have hbound := (List.getElem?_eq_some_iff.mp hhandle).1
        simp only [step, List.length_append, List.length_singleton] at hbound
        omega
      have hhandle' : s.shared.handle = handle := by
        simpa [step, hnew] using hhandle
      refine iff_of_false (fun hsup => ?_) (fun hne => hne hhandle'.symm)
      have := hsup.lt
      have := h.made
      omega
  handedOver := by
    rw [step, start_cons rfl, delivered_cons rfl]
    exact h.handedOver.trans (by rw [bytes_made, List.append_nil])
  position := by
    rw [step, start_cons rfl, delivered_cons rfl, bytes_made, List.append_nil]
    exact h.position

/-- The source moves on by the bytes that are handed over. -/
theorem Stands.advance (h : Stands source s) {event : Event} {shared : SharedSource}
    (hrestart : event.isRestart = false) (hmade : event.isMade = false)
    (hdata : shared.source.data = s.shared.source.data)
    (hgeneration : shared.generation = s.shared.generation)
    (hremaining : s.shared.source.remaining = event.bytes ++ shared.source.remaining)
    (hposition : shared.source.position = s.shared.source.position + event.bytes.length) :
    Stands source ⟨shared, s.handles, event :: s.history⟩ where
  data := hdata.trans h.data
  made := by
    rw [List.countP_cons_of_neg (by rw [hmade]; exact Bool.false_ne_true)]
    exact h.made
  le := by
    intro handle hmem
    rw [hgeneration]
    exact h.le handle hmem
  superseded_iff := by
    intro number handle hhandle
    rw [superseded_cons hrestart, hgeneration]
    exact h.superseded_iff number handle hhandle
  handedOver := by
    rw [start_cons hrestart, delivered_cons hrestart, List.append_assoc, ← hremaining]
    exact h.handedOver
  position := by
    rw [start_cons hrestart, delivered_cons hrestart, List.length_append, hposition, h.position]
    omega

theorem step_rewind_of_ok (hok : s.shared.rewind.1 = .ok ()) :
    s.step .rewind =
      ⟨⟨{ s.shared.source with seeks := s.shared.source.seeks + 1, position := 0 },
        s.shared.generation + 1⟩, s.handles, .rewound (.ok ()) :: s.history⟩ := by
  rw [step, hok, SharedSource.rewind_of_ok hok]

theorem step_rewind_of_error {e : IoError} (hrefused : s.shared.rewind.1 = .error e) :
    s.step .rewind =
      ⟨⟨{ s.shared.source with seeks := s.shared.source.seeks + 1 }, s.shared.generation⟩,
        s.handles, .rewound (.error e) :: s.history⟩ := by
  rw [step, hrefused, SharedSource.rewind_of_error hrefused]

theorem step_read_of_superseded {number : Nat} {handle : Handle}
    (hhandle : s.handles[number]? = some handle) (hne : handle ≠ s.shared.generation)
    (size : Nat) :
    s.step (.read number size) =
      { s with history := .read number (.error .superseded) :: s.history } := by
  rw [step, hhandle]
  dsimp only
  rw [SharedSource.read_superseded size hne]

theorem step_read_of_current {number : Nat} {handle : Handle}
    (hhandle : s.handles[number]? = some handle) (hcurrent : handle = s.shared.generation)
    (size : Nat) :
    s.step (.read number size) =
      { s with
        shared := { s.shared with source := (s.shared.source.read size).2 }
        history := .read number (s.shared.source.read size).1 :: s.history } := by
  rw [step, hhandle]
  dsimp only
  rw [SharedSource.read_of_current hcurrent]

/-- A rewind that the medium refuses moves nothing. -/
theorem Stands.step_rewind_error (h : Stands source s) {e : IoError}
    (hrefused : s.shared.rewind.1 = .error e) : Stands source (s.step .rewind) := by
  rw [step_rewind_of_error hrefused]
  exact h.advance rfl rfl rfl rfl rfl rfl

/-- A rewind that succeeds supersedes all handles and goes back to the front. -/
theorem Stands.step_rewind_ok (h : Stands source s) (hok : s.shared.rewind.1 = .ok ()) :
    Stands source (s.step .rewind) := by
  rw [step_rewind_of_ok hok]
  refine ⟨h.data, h.made, ?_, ?_, ?_, ?_⟩
  · exact fun handle hmem => Nat.le_succ_of_le (h.le handle hmem)
  · intro number handle hhandle
    have hlt : number < s.handles.length := (List.getElem?_eq_some_iff.mp hhandle).1
    have hle := h.le handle (List.mem_of_getElem? hhandle)
    refine (superseded_restart rfl).trans (iff_of_true ?_ (Nat.ne_of_lt (Nat.lt_succ_of_le hle)))
    rwa [List.countP_cons_of_neg Bool.false_ne_true, ← h.made]
  · rw [start_restart rfl, delivered_restart rfl, ← h.data]
    rfl
  · rw [start_restart rfl, delivered_restart rfl]
    rfl

/-- A read moves the source by the bytes that it hands over, if the handle is not superseded. -/
theorem Stands.step_read (h : Stands source s) (number size : Nat) :
    Stands source (s.step (.read number size)) := by
  cases hhandle : s.handles[number]? with
  | none =>
    rw [step, hhandle]
    exact h
  | some handle =>
    by_cases hcurrent : handle = s.shared.generation
    · rw [step_read_of_current hhandle hcurrent]
      cases hread : (s.shared.source.read size).1 with
      | ok bytes =>
        exact h.advance rfl rfl (ByteSource.data_read _ _) rfl (ByteSource.remaining_read hread)
          (ByteSource.position_read_of_ok hread)
      | error e =>
        rw [ByteSource.read_of_error hread]
        exact h.advance rfl rfl rfl rfl rfl rfl
    · rw [step_read_of_superseded hhandle hcurrent]
      exact h.advance rfl rfl rfl rfl rfl rfl

/-- **Step.** -/
theorem Stands.step (h : Stands source s) (next : Step) : Stands source (s.step next) := by
  cases next with
  | handle => exact h.step_handle
  | rewind =>
    cases hrewind : s.shared.rewind.1 with
    | ok done => exact h.step_rewind_ok hrewind
    | error e => exact h.step_rewind_error hrewind
  | read number size => exact h.step_read number size

theorem stands_init (source : ByteSource) : Stands source { shared := { source := source } } where
  data := rfl
  made := rfl
  le := by simp
  superseded_iff := by simp
  handedOver := rfl
  position := rfl

/-- **Run.** -/
theorem stands_run (source : ByteSource) (steps : List Step) :
    Stands source (run source steps) := by
  have hrun : ∀ s, Stands source s → Stands source (steps.foldl Sharing.step s) := by
    induction steps with
    | nil => exact fun s hs => hs
    | cons next steps ih => exact fun s hs => ih _ (hs.step next)
  exact hrun _ (stands_init source)

/-! ### What handles read -/

/-- A handle that has been superseded stays so. -/
theorem superseded_step {number : Nat} (h : Superseded s.history number) (next : Step) :
    Superseded (s.step next).history number := by
  have hcons : ∀ event, Superseded (event :: s.history) number := by
    intro event
    cases hrestart : event.isRestart with
    | false => exact (superseded_cons hrestart).mpr h
    | true =>
      exact (superseded_restart hrestart).mpr
        (Nat.lt_of_lt_of_le h.lt (List.sublist_cons_self _ _).countP_le)
  cases next with
  | handle => exact hcons _
  | rewind => exact hcons _
  | read other size =>
    rw [step]
    cases s.handles[other]? with
    | none => exact h
    | some handle => exact hcons _

theorem superseded_foldl {number : Nat} (h : Superseded s.history number) (steps : List Step) :
    Superseded (steps.foldl step s).history number := by
  induction steps generalizing s with
  | nil => exact h
  | cons next steps ih => exact ih (superseded_step h next)

/-- A source is **shared out** if its handles read one after the other what it holds: those that
have been superseded nothing, and all others together each byte once and in order. -/
structure SharesOut (source : ByteSource) (s : Sharing) : Prop where
  /-- A read through a superseded handle fails and leaves the source as it is. -/
  superseded : ∀ number size, number < s.handles.length → Superseded s.history number →
    s.step (.read number size) =
      { s with history := .read number (.error .superseded) :: s.history }
  /-- A read through any other handle is a read of the source. -/
  current : ∀ number size, number < s.handles.length → ¬Superseded s.history number →
    s.step (.read number size) =
      { s with
        shared := { s.shared with source := (s.shared.source.read size).2 }
        history := .read number (s.shared.source.read size).1 :: s.history }
  /-- A new handle is not superseded. -/
  made : ¬Superseded (s.step .handle).history s.handles.length
  /-- Since the source was restarted all handles together have read what it holds up to its
  position. -/
  delivered : isRestarted s.history = true →
    Event.delivered s.history = source.data.take s.shared.source.position ∧
      (Event.delivered s.history).length = s.shared.source.position
  /-- Until it is, they have read what it holds from its first position on. -/
  first : isRestarted s.history = false →
    Event.delivered s.history =
      (source.data.take s.shared.source.position).drop source.position
  /-- A rewind that succeeds supersedes every handle, for ever. -/
  restarted : s.shared.rewind.1 = .ok () → ∀ number < s.handles.length, ∀ steps : List Step,
    Superseded (steps.foldl step (s.step .rewind)).history number
  /-- A rewind that is refused leaves generation and position, and with them the handles that can
  read. -/
  refused : ∀ e, s.shared.rewind.1 = .error e →
    (s.step .rewind).shared.generation = s.shared.generation ∧
      (s.step .rewind).shared.source.position = s.shared.source.position ∧
      ∀ number, Superseded (s.step .rewind).history number ↔ Superseded s.history number

theorem Stands.delivered_eq (h : Stands source s) :
    delivered s.history =
      (source.data.take s.shared.source.position).drop (start source s) := by
  rw [List.drop_take, h.position, Nat.add_sub_cancel_left, h.handedOver, List.take_left]

theorem Stands.sharesOut (h : Stands source s) : SharesOut source s where
  superseded := by
    intro number size hlt hsup
    have hhandle : s.handles[number]? = some s.handles[number] := List.getElem?_eq_getElem hlt
    exact step_read_of_superseded hhandle ((h.superseded_iff number _ hhandle).mp hsup) size
  current := by
    intro number size hlt hsup
    have hhandle : s.handles[number]? = some s.handles[number] := List.getElem?_eq_getElem hlt
    have hcurrent := not_ne_iff.mp fun hne => hsup ((h.superseded_iff number _ hhandle).mpr hne)
    exact step_read_of_current hhandle hcurrent size
  made := by
    intro hsup
    have hlt := ((superseded_cons rfl).mp hsup).lt
    rw [h.made] at hlt
    exact Nat.lt_irrefl _ hlt
  delivered := by
    intro hrestarted
    have hstart : start source s = 0 := if_pos hrestarted
    have hdelivered := h.delivered_eq
    have hposition := h.position
    rw [hstart] at hdelivered hposition
    exact ⟨hdelivered, (hposition.trans (Nat.zero_add _)).symm⟩
  first := by
    intro hrestarted
    have hstart : start source s = source.position := by
      rw [start, hrestarted, if_neg Bool.false_ne_true]
    have hdelivered := h.delivered_eq
    rwa [hstart] at hdelivered
  restarted := by
    intro hok number hlt steps
    refine superseded_foldl ?_ steps
    rw [step_rewind_of_ok hok]
    refine (superseded_restart rfl).mpr ?_
    rwa [List.countP_cons_of_neg Bool.false_ne_true, ← h.made]
  refused := by
    intro e hrefused
    rw [step_rewind_of_error hrefused]
    exact ⟨rfl, rfl, fun number => superseded_cons rfl⟩

/-- **Sharing.** -/
theorem sharesOut_run (source : ByteSource) (steps : List Step) :
    SharesOut source (run source steps) :=
  (stands_run source steps).sharesOut

/-- A handle that is left over from before a rewind takes nothing from the one made after it. -/
example :
    delivered (run (.ofBytes [1, 2, 3])
      [.handle, .read 0 2, .rewind, .handle, .read 0 2, .read 1 2]).history = [1, 2] := by
  decide

end Sharing

end ContentClient
