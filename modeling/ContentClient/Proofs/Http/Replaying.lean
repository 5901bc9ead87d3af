import ContentClient.Proofs.Http.Flowing
import ContentClient.Proofs.Http.Usage

/-!
# Bodies that can be sent again

A body **replays** if it hands over the same file in every pass, framed by the same head and the
same tail. A pass begins where the medium of the body stands: the body delivers the head, the file
from that position on, and the tail (`Body.Replays.prepare`). A reset that succeeds goes back to the
start (`Body.position_reset`), so that the pass behind it delivers the whole body.

Whether a body replays, has a medium with a position, or is for single use is settled before it is
first used (`Body.Replays.of_becomes` and its companions).
-/

namespace ContentClient

/-! ### Sources that replay -/

/-- A source **replays** if from now on no read of it fails, and every read before its end hands
over a byte at least, wherever the source is rewound to. -/
def ByteSource.Replays (s : ByteSource) : Prop :=
  ∀ n p, s.reads ≤ n → ∃ most, s.pace n p = .ok most ∧ (p < s.data.length → 0 < most)

theorem ByteSource.Replays.flows {s : ByteSource} (h : s.Replays) : s.Flows :=
  fun n p hn _ => h n p hn

theorem ByteSource.Replays.of_becomes {s s' : ByteSource} (h : s.Replays) (use : s.Becomes s') :
    s'.Replays := by
  intro n p hn
  rw [use.pace, use.data]
  exact h n p (Nat.le_trans use.reads_le hn)

/-- A file source **replays** a file: a medium that replays, or one that gives the same bytes
whenever it is opened from now on. -/
inductive FileSource.Replays : FileSource → Bytes → Prop where
  | seekable {shared : SharedSource} (medium : shared.source.Replays) :
      Replays (.seekable shared) shared.source.data
  | reopened {openAt : Nat → Except IoError ByteSource} {opened : Nat} {file : Bytes}
      (opens : ∀ n, opened ≤ n →
        ∃ source, openAt n = .ok source ∧ source.Flows ∧ source.remaining = file) :
      Replays (.reopened openAt opened) file

namespace FileSource

/-- Where the next pass over a file begins. -/
def position : FileSource → Nat
  | .seekable shared => shared.source.position
  | .reopened _ _ => 0
  | .callback _ => 0

/-- Whether a file is read from a medium that has a position. -/
def isSeekable : FileSource → Bool
  | .seekable _ => true
  | .reopened _ _ => false
  | .callback _ => false

/-- Whether a callback writes a file. -/
def isCallback : FileSource → Bool
  | .seekable _ => false
  | .reopened _ _ => false
  | .callback _ => true

variable {s s' : FileSource} {file : Bytes}

theorem Becomes.isSeekable_eq (use : s.Becomes s') : s'.isSeekable = s.isSeekable := by
  cases use <;> rfl

theorem Becomes.isCallback_eq (use : s.Becomes s') : s'.isCallback = s.isCallback := by
  cases use <;> rfl

theorem position_of_not_isSeekable (h : s.isSeekable = false) : s.position = 0 := by
  cases s with
  | seekable shared => cases h
  | reopened openAt opened => rfl
  | callback script => rfl

/-- A callback runs once. -/
theorem rewind_of_isCallback (h : s.isCallback = true) : s.rewind.1 = .ok false := by
  cases s with
  | seekable shared => cases h
  | reopened openAt opened => cases h
  | callback script => rfl

/-- A rewind that succeeds goes back to the start. -/
theorem position_rewind (h : s.rewind.1 = .ok true) : s.rewind.2.position = 0 := by
  cases s with
  | seekable shared => exact shared.position_rewind h
  | reopened openAt opened => rfl
  | callback script => rfl

theorem Replays.of_becomes (h : s.Replays file) (use : s.Becomes s') : s'.Replays file := by
  cases h with
  | seekable replays =>
    cases use with | @seekable _ shared' medium =>
    have hreplays := Replays.seekable (replays.of_becomes medium)
    rwa [medium.data] at hreplays
  | reopened opens =>
    cases use with | reopened later =>
    exact .reopened fun n hn => opens n (Nat.le_trans later hn)

/-- A source that replays a file delivers it from its position on. -/
theorem Replays.delivers (h : s.Replays file) : s.Delivers (file.drop s.position) := by
  cases h with
  | seekable medium => exact .seekable medium.flows
  | @reopened openAt opened file opens =>
    obtain ⟨source, hopen, hflows, rfl⟩ := opens opened (Nat.le_refl _)
    exact .reopened hopen hflows

end FileSource

/-! ### Bodies that replay -/

/-- A body **replays** a file framed by a head and a tail. -/
inductive Body.Replays : Body → (head file tail : Bytes) → Prop where
  | empty : Replays .empty [] [] []
  | bytes (content : Bytes) : Replays (.bytes content) [] content []
  | stream {shared : SharedSource} (medium : shared.source.Replays) :
      Replays (.stream shared) [] shared.source.data []
  | multipart {encoder : MultipartEncoder} {file : Bytes}
      (source : encoder.file.source.Replays file) :
      Replays (.multipart encoder) encoder.head file Multipart.tail

namespace Body

/-- Where the next pass over a body begins in its file. -/
def position : Body → Nat
  | .stream shared => shared.source.position
  | .multipart encoder => encoder.file.source.position
  | _ => 0

/-- Whether a body is read from a medium that has a position. -/
def isSeekable : Body → Bool
  | .stream _ => true
  | .multipart encoder => encoder.file.source.isSeekable
  | _ => false

/-- Whether a body is for **single use**: it is read once, or a callback writes its file. -/
def isSingleUse : Body → Bool
  | .oneShot _ => true
  | .multipart encoder => encoder.file.source.isCallback
  | _ => false

variable {b b' : Body} {head file tail : Bytes}

theorem Becomes.isSeekable_eq (use : b.Becomes b') : b'.isSeekable = b.isSeekable := by
  cases use with
  | multipart file => exact file.isSeekable_eq
  | _ => rfl

theorem Becomes.isSingleUse_eq (use : b.Becomes b') : b'.isSingleUse = b.isSingleUse := by
  cases use with
  | multipart file => exact file.isCallback_eq
  | _ => rfl

theorem position_of_not_isSeekable (h : b.isSeekable = false) : b.position = 0 := by
  cases b with
  | stream shared => cases h
  | multipart encoder => exact FileSource.position_of_not_isSeekable h
  | _ => rfl

/-- A body for single use cannot be made ready again. -/
theorem reset_of_isSingleUse (h : b.isSingleUse = true) : b.reset.1 = .ok false := by
  cases b with
  | oneShot source => rfl
  | multipart encoder => exact FileSource.rewind_of_isCallback h
  | _ => cases h

/-- A reset that succeeds goes back to the start. -/
theorem position_reset (h : b.reset.1 = .ok true) : b.reset.2.position = 0 := by
  cases b with
  | stream shared => exact shared.position_rewind h
  | multipart encoder => exact FileSource.position_rewind h
  | _ => rfl

theorem Replays.of_becomes (h : b.Replays head file tail) (use : b.Becomes b') :
    b'.Replays head file tail := by
  cases h with
  | empty => cases use with | empty => exact .empty
  | bytes => cases use with | bytes => exact .bytes _
  | stream replays =>
    cases use with | @stream _ shared' medium =>
    have hreplays := Replays.stream (replays.of_becomes medium)
    rwa [medium.data] at hreplays
  | @multipart encoder file source =>
    cases use with | @multipart _ source' medium =>
    exact @Replays.multipart (encoder.withSource source') file (source.of_becomes medium)

/-- **One pass.** A body that replays can be prepared, and then delivers its head, its file from the
position on, and its tail. -/
theorem Replays.prepare (h : b.Replays head file tail) :
    ∃ delivery, b.prepare.1 = .ok delivery ∧
      Flow.Delivers { delivery := delivery, body := b.prepare.2 }
        (head ++ file.drop b.position ++ tail) := by
  cases h with
  | empty => exact ⟨_, rfl, .fixed _ _ _⟩
  | bytes =>
    refine ⟨_, rfl, ?_⟩
    rw [List.append_nil]
    exact .fixed _ _ _
  | @stream shared medium =>
    refine ⟨_, rfl, ?_⟩
    rw [List.append_nil]
    exact .shared _ medium.flows
  | @multipart encoder file source =>
    obtain ⟨reader, hreader, hchunk, hstands⟩ := MultipartEncoder.exists_reader source.delivers
    have hprepare : (Body.multipart encoder).prepare =
        (.ok (.multipart reader), .multipart encoder.reader.2) := by
      simp only [Body.prepare, hreader]
      rfl
    rw [hprepare]
    exact ⟨_, rfl, .multipart _ (hchunk ▸ encoder.chunkSize_pos) hstands (List.nil_append _)⟩

end Body

end ContentClient
