import ContentClient.Http.Link

/-!
# What use makes of a body

Whatever is done to a body, it stays the same body up to how far its medium has been read and, if
it is for single use, whether it has been used up. That is all that preparing it, reading from it
and resetting it can change (`Body.Becomes`), and so all that a link can change in an exchange
(`Exchange.becomes_run`).
-/

namespace ContentClient

/-! ### What use makes of a source -/

/-- What a byte source may become while it is read and rewound. -/
structure ByteSource.Becomes (s s' : ByteSource) : Prop where
  data : s'.data = s.data
  pace : s'.pace = s.pace
  reads_le : s.reads ≤ s'.reads

namespace ByteSource

variable (s : ByteSource)

theorem Becomes.refl : s.Becomes s := ⟨rfl, rfl, Nat.le_refl _⟩

theorem Becomes.trans {s s' s'' : ByteSource} (h : s.Becomes s') (h' : s'.Becomes s'') :
    s.Becomes s'' :=
  ⟨h'.data.trans h.data, h'.pace.trans h.pace, Nat.le_trans h.reads_le h'.reads_le⟩

theorem becomes_read (size : Nat) : s.Becomes (s.read size).2 where
  data := s.data_read size
  pace := s.pace_read size
  reads_le := by unfold read; split <;> exact Nat.le_succ _

theorem becomes_rewind : s.Becomes s.rewind.2 where
  data := s.data_rewind
  pace := s.pace_rewind
  reads_le := by unfold rewind; split <;> exact Nat.le_refl _

end ByteSource

namespace SharedSource

variable (s : SharedSource)

theorem becomes_read (h : Handle) (size : Nat) : s.source.Becomes (s.read h size).2.source := by
  unfold read
  split
  · exact s.source.becomes_read size
  · exact .refl _

theorem source_rewind : s.rewind.2.source = s.source.rewind.2 := by
  unfold rewind
  split <;> simp_all

theorem becomes_rewind : s.source.Becomes s.rewind.2.source := by
  rw [source_rewind]
  exact s.source.becomes_rewind

/-- A rewind that succeeds goes back to the start. -/
theorem position_rewind {f : Unit → Bool} (h : s.rewind.1.map f = .ok true) :
    s.rewind.2.source.position = 0 := by
  rw [source_rewind]
  cases hfault : s.source.seekFault s.source.seeks with
  | none => simp only [ByteSource.rewind, hfault]
  | some e =>
    simp only [rewind, ByteSource.rewind, hfault] at h
    cases h

end SharedSource

/-- What a file source may become while it is opened, read and rewound. -/
inductive FileSource.Becomes : FileSource → FileSource → Prop where
  | seekable {shared shared' : SharedSource} (medium : shared.source.Becomes shared'.source) :
      Becomes (.seekable shared) (.seekable shared')
  | reopened {openAt : Nat → Except IoError ByteSource} {opened opened' : Nat}
      (later : opened ≤ opened') : Becomes (.reopened openAt opened) (.reopened openAt opened')
  | callback (script script' : Option Script) : Becomes (.callback script) (.callback script')

namespace FileSource

variable (s : FileSource)

theorem Becomes.refl : s.Becomes s := by
  cases s with
  | seekable shared => exact .seekable (.refl _)
  | reopened openAt opened => exact .reopened (Nat.le_refl _)
  | callback script => exact .callback _ _

theorem Becomes.trans {s s' s'' : FileSource} (h : s.Becomes s') (h' : s'.Becomes s'') :
    s.Becomes s'' := by
  cases h with
  | seekable medium => cases h' with | seekable medium' => exact .seekable (medium.trans medium')
  | reopened later => cases h' with | reopened later' => exact .reopened (Nat.le_trans later later')
  | callback => cases h' with | callback => exact .callback _ _

theorem becomes_openStream (chunkSize : Nat) : s.Becomes (s.openStream chunkSize).2 := by
  cases s with
  | seekable shared => exact .refl _
  | reopened openAt opened => exact .reopened (Nat.le_succ _)
  | callback script => cases script <;> exact .callback _ _

theorem becomes_rewind : s.Becomes s.rewind.2 := by
  cases s with
  | seekable shared => exact .seekable shared.becomes_rewind
  | reopened openAt opened => exact .refl _
  | callback script => exact .refl _

theorem becomes_read (stream : FileStream) (size : Nat) :
    s.Becomes (stream.read size s).2.2 := by
  cases stream with
  | shared handle =>
    cases s with
    | seekable medium => exact .seekable (medium.becomes_read handle size)
    | reopened openAt opened => exact .refl _
    | callback script => exact .refl _
  | owned bytes => exact .refl _
  | piped pipe => exact .refl _

end FileSource

namespace MultipartReader

variable (r : MultipartReader) (size : Nat) (source : FileSource)

theorem becomes_readFile : source.Becomes (r.readFile size source).source := by
  have h := source.becomes_read r.file (min size r.chunkSize)
  unfold readFile
  split <;> simp_all [readTail]

theorem becomes_read : source.Becomes (r.read size source).source := by
  unfold read
  split
  · exact .refl _
  · split
    · split
      · exact r.becomes_readFile size source
      · exact .refl _
    · exact r.becomes_readFile size source
    · exact .refl _

end MultipartReader

/-! ### What use makes of a body -/

/-- What a body may become while it is prepared, read and reset. -/
inductive Body.Becomes : Body → Body → Prop where
  | empty : Becomes .empty .empty
  | bytes (content : Bytes) : Becomes (.bytes content) (.bytes content)
  | stream {shared shared' : SharedSource} (medium : shared.source.Becomes shared'.source) :
      Becomes (.stream shared) (.stream shared')
  | oneShot (source source' : Option ByteSource) : Becomes (.oneShot source) (.oneShot source')
  | multipart {encoder : MultipartEncoder} {source : FileSource}
      (file : encoder.file.source.Becomes source) :
      Becomes (.multipart encoder) (.multipart (encoder.withSource source))

namespace Body

variable (b : Body)

theorem Becomes.refl : b.Becomes b := by
  cases b with
  | empty => exact .empty
  | bytes content => exact .bytes _
  | stream shared => exact .stream (.refl _)
  | oneShot source => exact .oneShot _ _
  | multipart encoder => exact Becomes.multipart (.refl _)

theorem Becomes.trans {b b' b'' : Body} (h : b.Becomes b') (h' : b'.Becomes b'') :
    b.Becomes b'' := by
  cases h with
  | empty => exact h'
  | bytes => exact h'
  | stream medium => cases h' with | stream medium' => exact .stream (medium.trans medium')
  | oneShot => cases h' with | oneShot => exact .oneShot _ _
  | multipart file => cases h' with | multipart file' => exact Becomes.multipart (file.trans file')

theorem becomes_prepare : b.Becomes b.prepare.2 := by
  cases b with
  | empty => exact .empty
  | bytes content => exact .bytes _
  | stream shared => exact .refl _
  | oneShot source => cases source <;> exact .oneShot _ _
  | multipart encoder => exact Becomes.multipart (encoder.file.source.becomes_openStream _)

theorem becomes_reset : b.Becomes b.reset.2 := by
  cases b with
  | empty => exact .empty
  | bytes content => exact .bytes _
  | stream shared => exact .stream shared.becomes_rewind
  | oneShot source => exact .oneShot _ _
  | multipart encoder => exact Becomes.multipart encoder.file.source.becomes_rewind

end Body

namespace Flow

variable (f : Flow) (size : Nat)

theorem becomes_read : f.body.Becomes (f.read size).2.body := by
  obtain ⟨delivery, body, reports⟩ := f
  cases delivery with
  | fixed rest => exact .refl _
  | owned source => exact .refl _
  | shared handle =>
    cases body with
    | stream shared => exact .stream (shared.becomes_read handle size)
    | _ => exact .refl _
  | multipart reader =>
    cases body with
    | multipart encoder => exact Body.Becomes.multipart (reader.becomes_read size _)
    | _ => exact .refl _

theorem becomes_readRounds (rounds : Nat) : f.body.Becomes (f.readRounds size rounds).2.body := by
  induction rounds generalizing f with
  | zero => exact .refl _
  | succ rounds ih =>
    have hread := f.becomes_read size
    rw [readRounds]
    split
    · simp_all
    · simp_all
    · rename_i next heq
      rw [heq] at hread
      exact hread.trans (ih next)

theorem becomes_readAll : f.body.Becomes (f.readAll size).2.body := f.becomes_readRounds size _

end Flow

/-- Whatever a link does with a request, its body only becomes what use makes of it. -/
theorem Exchange.becomes_run {σ : Type} (x : Exchange σ) (f : Flow) :
    f.body.Becomes (x.run f).2.2.body := by
  induction x generalizing f with
  | finish reply state => exact .refl _
  | read size next ih => exact (f.becomes_read size).trans (ih _ _)
  | drain next ih => exact (f.becomes_readAll linkBufferSize).trans (ih _ _)

end ContentClient
