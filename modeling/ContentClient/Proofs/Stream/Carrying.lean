import ContentClient.Proofs.Stream.Chunks
import ContentClient.Proofs.Stream.Pieces

/-!
# Through a pipe

What a producer writes goes through a pipe in chunks, and comes out of it in pieces.

The producer works beside the reader, and is ahead of it by a few chunks at most. Whenever it gets
to send its chunks, a read comes to what it comes to on a pipe that has them all
(`Pipe.AtWork.read_eq_of_reads`), and no read waits for ever (`Pipe.AtWork.exists_reads`).

The main statement is `Script.exists_carriedIn`: for every run of writes and flushes and every size
of the chunks, what is written comes in chunks that are cut at the flushes, nothing that has been
flushed is held back, and reads of any sizes get the same bytes.
-/

namespace ContentClient

/-! ### The producer at work -/

namespace Pipe

/-- A pipe whose producer is **at work**: the chunks that it has still to send, the chunks on their
way, and what is left of the chunk at hand. -/
structure AtWork where
  toSend : List Chunk
  underWay : List Chunk := []
  current : Bytes := []

namespace AtWork

/-- A read while the producer is at work. Until the read ends, the producer may send whenever there
is room. The read waits while nothing is under way and there is something left to send. -/
inductive Reads (size : Nat) : AtWork → Except IoError Bytes → AtWork → Prop where
  | send {chunk : Chunk} {toSend underWay : List Chunk} {current : Bytes}
      {result : Except IoError Bytes} {next : AtWork} (room : underWay.length < capacity)
      (rest : Reads size ⟨toSend, underWay ++ [chunk], current⟩ result next) :
      Reads size ⟨chunk :: toSend, underWay, current⟩ result next
  | hand {toSend underWay : List Chunk} {current : Bytes} (ne_nil : current ≠ []) :
      Reads size ⟨toSend, underWay, current⟩ (.ok (current.take size))
        ⟨toSend, underWay, current.drop size⟩
  | take {chunk : Bytes} {toSend underWay : List Chunk} {result : Except IoError Bytes}
      {next : AtWork} (rest : Reads size ⟨toSend, underWay, chunk⟩ result next) :
      Reads size ⟨toSend, .ok chunk :: underWay, []⟩ result next
  | fail {e : IoError} {toSend underWay : List Chunk} :
      Reads size ⟨toSend, .error e :: underWay, []⟩ (.error e) ⟨toSend, underWay, []⟩
  | ended : Reads size ⟨[], [], []⟩ (.ok []) ⟨[], [], []⟩

/-- Reads with buffers of given sizes, one after another. -/
inductive ReadsEach : AtWork → List Nat → List (Except IoError Bytes) → Prop where
  | nil {a : AtWork} : ReadsEach a [] []
  | cons {a next : AtWork} {size : Nat} {sizes : List Nat} {result : Except IoError Bytes}
      {results : List (Except IoError Bytes)} (first : Reads size a result next)
      (rest : ReadsEach next sizes results) : ReadsEach a (size :: sizes) (result :: results)

/-- A pipe **shows** one whose producer is at work if it has the same chunk at hand, and the chunks
on their way before those that have still to be sent. -/
structure IsShownBy (a : AtWork) (p : Pipe) : Prop where
  current : p.current = a.current
  pending : p.pending = a.underWay ++ a.toSend

variable {a next : AtWork} {p : Pipe} {size : Nat} {sizes : List Nat}
  {result : Except IoError Bytes} {results : List (Except IoError Bytes)}

theorem readFrom_of_reads (h : a.Reads size result next) (p : Pipe) (taken : Nat) :
    (p.readFrom size a.current (a.underWay ++ a.toSend) taken).1 = result ∧
      next.IsShownBy (p.readFrom size a.current (a.underWay ++ a.toSend) taken).2 := by
  induction h generalizing taken with
  | @send chunk toSend underWay current result next room rest ih =>
    have hsame : underWay ++ chunk :: toSend = underWay ++ [chunk] ++ toSend := by
      rw [List.append_assoc, List.singleton_append]
    show (p.readFrom size current (underWay ++ chunk :: toSend) taken).1 = result ∧
      next.IsShownBy (p.readFrom size current (underWay ++ chunk :: toSend) taken).2
    rw [hsame]
    exact ih taken
  | hand ne_nil =>
    obtain ⟨b, left, rfl⟩ := List.exists_cons_of_ne_nil ne_nil
    rw [Pipe.readFrom_cons]
    exact ⟨rfl, rfl, rfl⟩
  | take rest ih => exact ih (taken + 1)
  | fail => exact ⟨rfl, rfl, rfl⟩
  | ended => exact ⟨rfl, rfl, rfl⟩

/-- **The timing does not show.** A read comes to the same, whenever the producer sends. -/
theorem read_eq_of_reads (h : a.Reads size result next) (hp : a.IsShownBy p) :
    (p.read size).1 = result ∧ next.IsShownBy (p.read size).2 := by
  rw [Pipe.read, hp.current, hp.pending]
  exact readFrom_of_reads h p p.taken

/-- **No read waits for ever.** Where nothing is under way the producer has room to send. -/
theorem exists_reads (size : Nat) (a : AtWork) : ∃ result next, a.Reads size result next := by
  obtain ⟨toSend, underWay, current⟩ := a
  induction hlength : (underWay ++ toSend).length generalizing toSend underWay current with
  | zero =>
    obtain ⟨rfl, rfl⟩ := List.append_eq_nil_iff.mp (List.length_eq_zero_iff.mp hlength)
    by_cases hcurrent : current = []
    · obtain rfl := hcurrent
      exact ⟨_, _, .ended⟩
    · exact ⟨_, _, .hand hcurrent⟩
  | succ length ih =>
    by_cases hcurrent : current = []
    · obtain rfl := hcurrent
      -- a chunk that is under way is taken, and then there are fewer to come
      have htake : ∀ (chunk : Chunk) (toSend underWay : List Chunk),
          (underWay ++ toSend).length = length →
          ∃ result next, Reads size ⟨toSend, chunk :: underWay, []⟩ result next := by
        intro chunk toSend underWay hfewer
        cases chunk with
        | error e => exact ⟨_, _, .fail⟩
        | ok chunk =>
          obtain ⟨result, next, hreads⟩ := ih toSend underWay chunk hfewer
          exact ⟨result, next, .take hreads⟩
      cases underWay with
      | cons chunk underWay => exact htake chunk toSend underWay (Nat.succ.inj hlength)
      | nil =>
        cases toSend with
        | nil => cases hlength
        | cons chunk toSend =>
          obtain ⟨result, next, hreads⟩ := htake chunk toSend [] (Nat.succ.inj hlength)
          exact ⟨result, next, .send (by decide) hreads⟩
    · exact ⟨_, _, .hand hcurrent⟩

theorem ReadsEach.eq (h : a.ReadsEach sizes results) (hp : a.IsShownBy p) :
    results = p.readEach sizes := by
  induction h generalizing p with
  | nil => rfl
  | cons first rest ih =>
    obtain ⟨hresult, hnext⟩ := read_eq_of_reads first hp
    rw [Pipe.readEach, hresult, ← ih hnext]

theorem exists_readsEach (sizes : List Nat) (a : AtWork) :
    ∃ results, a.ReadsEach sizes results := by
  induction sizes generalizing a with
  | nil => exact ⟨[], .nil⟩
  | cons size sizes ih =>
    obtain ⟨result, next, hfirst⟩ := exists_reads size a
    obtain ⟨results, hrest⟩ := ih next
    exact ⟨result :: results, .cons hfirst hrest⟩

/-- What reads come to while the producer is at work is what they come to on the pipe. -/
theorem readsEach_iff (hp : a.IsShownBy p) :
    a.ReadsEach sizes results ↔ results = p.readEach sizes := by
  refine ⟨fun h => h.eq hp, fun heq => ?_⟩
  obtain ⟨results', h⟩ := exists_readsEach sizes a
  rw [heq, ← h.eq hp]
  exact h

end AtWork

end Pipe

/-! ### From the writes to the reads -/

namespace Script

/-- What a producer writes is **carried in** chunks of size `n`. -/
structure CarriedIn (script : Script) (n : Nat) (chunks : List Bytes) : Prop where
  /-- The chunks are all that comes through the pipe, with what the end of the script flushes. -/
  sent : script.chunks n = chunks.map .ok
  /-- They make up what is written, in order, -/
  flatten : chunks.flatten = script.written
  /-- and none of them is empty. -/
  ne_nil : ∀ chunk ∈ chunks, chunk ≠ []
  /-- Each stretch has chunks of its own, all of which are full but the last before a flush or
  before the end. -/
  cut : ∃ groups, chunks = groups.flatten ∧ List.Forall₂ (CutsUp n) script.stretches.all groups
  /-- At any point of the script, what has been written has been sent as the first of the chunks,
  except for less than a chunk that is held back, -/
  held : ∀ first rest, script = first ++ rest →
    ∃ w, first.run PipeWriter.writer { chunkSize := n } = (.ok (), w) ∧ w.sent <+: chunks ∧
      w.sent.flatten ++ w.buffered = first.written ∧ w.buffered.length < n
  /-- and behind a flush nothing is held back. -/
  flushed : ∀ first rest, script = first ++ .flush :: rest →
    ∃ w, Script.run PipeWriter.writer (first ++ [.flush]) { chunkSize := n } = (.ok (), w) ∧
      w.sent <+: chunks ∧ w.buffered = [] ∧ w.sent.flatten = Script.written (first ++ [.flush])
  /-- Reads with any room in their buffers get one piece of a chunk after another, and nothing only
  behind the last chunk. Together the pieces are what is written, as far as they go, and all of it
  if there are as many reads as bytes, or if one has got nothing. -/
  read : ∀ sizes, (∀ size ∈ sizes, 0 < size) →
    ∃ pieces, (Pipe.ofScript script n).readEach sizes = pieces.map .ok ∧
      ReadsOff chunks [] sizes pieces ∧ pieces.flatten <+: script.written ∧
      (script.written.length ≤ sizes.length ∨ [] ∈ pieces → pieces.flatten = script.written)
  /-- It is the same whenever the producer gets to send its chunks. -/
  timing : ∀ sizes, (∀ size ∈ sizes, 0 < size) → ∀ results,
    Pipe.AtWork.ReadsEach { toSend := script.chunks n } sizes results ↔
      results = (Pipe.ofScript script n).readEach sizes

variable {script : Script} {n : Nat}

/-- **Through a pipe.** Whatever a producer writes and flushes without giving up is carried in
chunks of any size. -/
theorem exists_carriedIn (hends : script.ending = .ok ()) (hn : 0 < n) :
    ∃ chunks, script.CarriedIn n chunks := by
  obtain ⟨w, hrun, -, hfollows⟩ := (PipeWriter.follows_new hn).run hends
  obtain ⟨last, hflush, hsent, -, hclosed⟩ := hfollows.flush
  obtain ⟨-, groups, hgroups, hcut⟩ := hclosed.of_current_eq_nil rfl
  have hchunks : script.chunks n = last.sent.map .ok := by
    rw [chunks, hrun]
    dsimp only
    rw [hflush]
  have hflatten : last.sent.flatten = script.written := by
    rw [hgroups, flatten_of_cutsUp hcut]
    exact flatten_stretches hends
  have hne : ∀ chunk ∈ last.sent, chunk ≠ [] := hgroups ▸ ne_nil_of_cutsUp hn hcut
  have hpartway : ∀ first rest, script = first ++ rest →
      ∃ v, first.run PipeWriter.writer { chunkSize := n } = (.ok (), v) ∧ v.sent <+: last.sent ∧
        v.sent.flatten ++ v.buffered = first.written ∧ PipeWriter.Follows n first.stretches v := by
    rintro first rest rfl
    obtain ⟨v, w', hfirst, hall, hsome, hwritten, hv⟩ := PipeWriter.run_partway hn hends
    obtain rfl : w = w' := congrArg Prod.snd (hrun.symm.trans hall)
    exact ⟨v, hfirst, hsome.trans hsent, hwritten, hv⟩
  refine ⟨last.sent, hchunks, hflatten, hne, ⟨groups, hgroups, hcut⟩, ?_, ?_, ?_, ?_⟩
  · intro first rest hscript
    obtain ⟨v, hfirst, hsome, hwritten, hv⟩ := hpartway first rest hscript
    exact ⟨v, hfirst, hsome, hwritten, hv.buffered_lt⟩
  · intro first rest hscript
    obtain ⟨v, hfirst, hsome, hwritten, hv⟩ :=
      hpartway (first ++ [.flush]) rest (by rw [hscript, List.append_assoc]; rfl)
    have hnone : (stretches (first ++ [.flush])).current = [] := by
      rw [stretches, List.foldl_append]
      rfl
    obtain ⟨hempty, -⟩ := hv.of_current_eq_nil hnone
    rw [hempty, List.append_nil] at hwritten
    exact ⟨v, hfirst, hsome, hempty, hwritten⟩
  · intro sizes hsizes
    have hstands : (Pipe.ofScript script n).StandsIn last.sent [] :=
      .between [] last.sent rfl rfl rfl hchunks
    obtain ⟨pieces, hread, hpieces⟩ := hstands.readEach hne hsizes
    obtain ⟨hsome, henough, hempty⟩ := hpieces.isPrefix List.nil_prefix
    rw [hflatten] at hsome henough hempty
    refine ⟨pieces, hread, hpieces, hsome, ?_⟩
    rintro (hlength | hmem)
    · exact henough (by rw [List.length_nil, Nat.zero_add]; exact hlength)
    · exact hempty hmem
  · exact fun _ _ _ => Pipe.AtWork.readsEach_iff ⟨rfl, rfl⟩

/-- A producer that flushes in the middle of a chunk and again with nothing written since, and ends
where a chunk is full. -/
def letters : Script :=
  [.write [0x61, 0x62, 0x63, 0x64, 0x65], .flush, .write [], .flush, .write [0x66, 0x67],
    .write [0x68]]

/-- The letters come in three chunks. -/
theorem exists_carriedIn_letters :
    letters.ending = .ok () ∧ 0 < 3 ∧ ∃ chunks, letters.CarriedIn 3 chunks ∧
      chunks = [[0x61, 0x62, 0x63], [0x64, 0x65], [0x66, 0x67, 0x68]] := by
  obtain ⟨chunks, h⟩ : ∃ chunks, letters.CarriedIn 3 chunks := exists_carriedIn rfl (by decide)
  have hchunks : letters.chunks 3 =
      [[0x61, 0x62, 0x63], [0x64, 0x65], [0x66, 0x67, 0x68]].map .ok := rfl
  have hinjective : ∀ chunk other : Bytes, (.ok chunk : Chunk) = .ok other → chunk = other :=
    fun _ _ => Except.ok.inj
  exact ⟨rfl, by decide, chunks, h,
    (List.map_inj_right hinjective).mp (h.sent.symm.trans hchunks)⟩

end Script

end ContentClient
