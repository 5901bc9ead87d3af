import ContentClient.Proofs.Multipart.Operations
import ContentClient.Proofs.Multipart.Refusals
import ContentClient.Proofs.Text.Utf8

/-!
# What is logged of a body

A body may be logged with a placeholder in place of its file. The head and the tail around the file
are octets that are read back as text, without regard to whether they are text. They always are:
what a head is put together from is rendered in UTF-8 piece by piece, whatever characters there are
in it. So the logged body has exactly the octets of the head, the placeholder and the tail, which
makes it the body that is written with one segment replaced.

All that a head is rendered from is the **outline** of an encoder. The file, where it comes from and
how far it has been read are no part of it, nor does any operation change it but the setting of a
field (`EncoderUse.outline_run`). The main statement is `MultipartEncoder.logsAllButFile`.
-/

namespace ContentClient

namespace Multipart

/-- The parts of the fields are text. -/
theorem exists_text_fieldParts (isFirst : Bool) (fields : Fields) :
    ∃ text, fieldParts isFirst fields = Text.utf8 text := by
  induction fields generalizing isFirst with
  | nil => exact ⟨"", rfl⟩
  | cons field rest ih =>
    obtain ⟨text, htext⟩ := ih false
    rw [fieldParts, htext, partHeader, ← Text.utf8_append, ← Text.utf8_append]
    exact ⟨_, rfl⟩

/-- What the head of a body is rendered from. -/
structure Outline where
  fields : Fields
  partName : String
  filename : String
  mediaType : String

end Multipart

namespace MultipartEncoder

variable {e e' : MultipartEncoder}

/-- The outline of an encoder. -/
def outline (e : MultipartEncoder) : Multipart.Outline :=
  ⟨e.fields, e.file.partName, e.file.filename, e.file.mediaType⟩

theorem outline_withSource (e : MultipartEncoder) (source : FileSource) :
    (e.withSource source).outline = e.outline := rfl

theorem head_eq_of_outline (h : e'.outline = e.outline) : e'.head = e.head := by
  obtain ⟨hfields, hpart, hname, htype⟩ := Multipart.Outline.mk.inj h
  rw [head, head, hfields, hpart, hname, htype]

theorem loggedBody_eq_of_outline (h : e'.outline = e.outline) : e'.loggedBody = e.loggedBody := by
  rw [loggedBody, loggedBody, head_eq_of_outline h]

/-- The head is text. -/
theorem exists_text_head (e : MultipartEncoder) : ∃ text, e.head = Text.utf8 text := by
  obtain ⟨text, htext⟩ := Multipart.exists_text_fieldParts true e.fields
  rw [head, htext, Multipart.partHeader, ← Text.utf8_append]
  exact ⟨_, rfl⟩

/-- The octets of the logged body, none of which has been replaced on the way to text. -/
theorem utf8_loggedBody (e : MultipartEncoder) :
    Text.utf8 e.loggedBody = e.head ++ Text.utf8 Multipart.omittedFile ++ Multipart.tail := by
  obtain ⟨text, htext⟩ := e.exists_text_head
  rw [loggedBody, htext, Multipart.tail, Text.decodeLossy_utf8, Text.decodeLossy_utf8,
    Text.utf8_append, Text.utf8_append]

/-- Nothing of the head is left out. -/
theorem head_eq_of_loggedBody (h : e'.loggedBody = e.loggedBody) : e'.head = e.head := by
  have hoctets := congrArg Text.utf8 h
  rw [utf8_loggedBody, utf8_loggedBody, List.append_assoc, List.append_assoc] at hoctets
  exact List.append_cancel_right hoctets

end MultipartEncoder

/-! ### Operations -/

/-- The field that an operation sets. -/
def EncoderOperation.field? : EncoderOperation → Option (String × String)
  | .putField key value => some (key, value)
  | _ => none

namespace EncoderUse

/-- An operation changes the outline by the field that it sets. -/
theorem outline_step (u : EncoderUse) (operation : EncoderOperation) :
    (u.step operation).encoder.outline =
      { u.encoder.outline with
        fields := Multipart.Fields.putAll u.encoder.fields operation.field?.toList } := by
  cases operation with
  | putField key value => rfl
  | setContentSha1 digest => rfl
  | rewind => rfl
  | writeTo sink =>
    obtain ⟨source, hencoder, -⟩ := FileSource.framed_becomes.writeTo u.encoder sink
    rw [step, hencoder]
    rfl
  | openReader => rw [u.step_openReader.1]; rfl
  | read number size =>
    rw [step]
    cases u.reader? number <;> rfl
  | dropReader number => rfl

/-- A run of operations changes it by all the fields that it sets. -/
theorem outline_run (u : EncoderUse) (operations : List EncoderOperation) :
    (u.run operations).encoder.outline =
      { u.encoder.outline with
        fields := Multipart.Fields.putAll u.encoder.fields (operations.filterMap (·.field?)) } := by
  induction operations generalizing u with
  | nil => rfl
  | cons operation operations ih =>
    have hstep := u.outline_step operation
    obtain ⟨hfields, hpart, hname, htype⟩ := Multipart.Outline.mk.inj hstep
    have hrun : u.run (operation :: operations) = (u.step operation).run operations := rfl
    rw [hrun, ih, hstep, hfields]
    cases hfield : operation.field? with
    | none => simp [hfield, Multipart.Fields.putAll]
    | some field => simp [hfield, Multipart.Fields.putAll]

end EncoderUse

/-! ### The logged body -/

namespace MultipartEncoder

/-- The logged body of an encoder is **all but the file**. -/
structure LogsAllButFile (e : MultipartEncoder) : Prop where
  /-- It is the head, the placeholder and the tail, octet by octet. -/
  octets : Text.utf8 e.loggedBody = e.head ++ Text.utf8 Multipart.omittedFile ++ Multipart.tail
  /-- A body that is written is the same head and tail around what the file comes as. -/
  written : ∀ (sink : Sink) n, (e.writeTo sink).result = .ok n → ∃ script, FileComesAs e script ∧
    (e.writeTo sink).sink.received =
      sink.received ++ (e.head ++ script.written ++ Multipart.tail)
  /-- That is the file itself, if the source delivers one. -/
  delivered : ∀ (sink : Sink) n file, e.file.source.Delivers file →
    (e.writeTo sink).result = .ok n →
    (e.writeTo sink).sink.received = sink.received ++ (e.head ++ file ++ Multipart.tail)
  /-- It says nothing of the file: encoders with one outline have one logged body. -/
  hides : ∀ e' : MultipartEncoder, e'.outline = e.outline → e'.loggedBody = e.loggedBody
  /-- Such are the encoders that differ in their file alone. -/
  sources : ∀ source, (e.withSource source).loggedBody = e.loggedBody
  /-- It says everything else: encoders with one logged body write one head. -/
  shows : ∀ e' : MultipartEncoder, e'.loggedBody = e.loggedBody → e'.head = e.head

/-- **The logged body.** After every run of operations on an encoder, its logged body is all but the
file. It depends on the outline that the encoder had and on the fields that have been set since, and
not on what else has been done to it. -/
theorem logsAllButFile (u : EncoderUse) (operations : List EncoderOperation) :
    LogsAllButFile (u.run operations).encoder ∧
      ∀ (u' : EncoderUse) (operations' : List EncoderOperation),
        u'.encoder.outline = u.encoder.outline →
        operations'.filterMap (·.field?) = operations.filterMap (·.field?) →
        (u'.run operations').encoder.loggedBody = (u.run operations).encoder.loggedBody := by
  refine ⟨?_, fun u' operations' houtline hfields => loggedBody_eq_of_outline ?_⟩
  · generalize (u.run operations).encoder = e
    refine
      { octets := e.utf8_loggedBody
        written := fun sink n hok => ?_
        delivered := fun sink n file hfile hok => received_of_writeTo hfile hok
        hides := fun e' => loggedBody_eq_of_outline
        sources := fun source => loggedBody_eq_of_outline (e.outline_withSource source)
        shows := fun e' => head_eq_of_loggedBody }
    obtain ⟨script, hscript⟩ := e.exists_fileComesAs
    exact ⟨script, hscript, ((hscript.isPushedBy sink).stops.counts n hok).2⟩
  · have hsame : u'.encoder.fields = u.encoder.fields := congrArg (·.fields) houtline
    rw [u'.outline_run, u.outline_run, houtline, hsame, hfields]

end MultipartEncoder

end ContentClient
