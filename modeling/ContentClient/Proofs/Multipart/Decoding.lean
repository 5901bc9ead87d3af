import ContentClient.Proofs.Multipart.Body
import ContentClient.Proofs.Multipart.Parts
import ContentClient.Proofs.Multipart.Received

/-!
# A body reads back as its parts

What an encoder writes is a row of sections between boundaries, one for each text field and a last
one for the file. So a body that has been written reads back as those parts, in order and with
nothing left over: `readsBack_of_writeTo`. Field names, the name of the part and the name of the
file can be any text; a value, the file and its media type only must not contain what would end
them.
-/

namespace ContentClient

namespace Multipart

open Text

/-! ### Sections -/

/-- The section of a text field. -/
def fieldSection (f : String × String) : Section where
  disposition := [("name", f.1)]
  content := utf8 f.2

/-- The part that a text field is read back as. -/
def fieldPart (f : String × String) : Part := { name := f.1, content := utf8 f.2 }

namespace FilePart

/-- The section of a file with its bytes. -/
def toSection (p : FilePart) (file : Bytes) : Section where
  disposition := [("name", p.partName), ("filename", p.filename)]
  contentType := some p.mediaType
  content := file

/-- The part that a file is read back as. -/
def toPart (p : FilePart) (file : Bytes) : Part where
  name := p.partName
  filename := some p.filename
  contentType := some p.mediaType
  content := file

end FilePart

theorem fieldSection_fits {f : String × String} (h : ¬delimiter <:+: utf8 f.2) :
    (fieldSection f).Fits where
  name := rfl
  keys := by
    intro d hd
    obtain rfl := List.mem_singleton.mp hd
    show '=' ∉ "name".toList ∧ '\r' ∉ "name".toList
    decide
  contentType := fun _ htype => by cases htype
  content := h

theorem FilePart.toSection_fits {p : FilePart} {file : Bytes} (htype : '\r' ∉ p.mediaType.toList)
    (h : ¬delimiter <:+: file) : (p.toSection file).Fits where
  name := rfl
  keys := by
    intro d hd
    rcases List.mem_cons.mp hd with rfl | hd
    · show '=' ∉ "name".toList ∧ '\r' ∉ "name".toList
      decide
    · obtain rfl := List.mem_singleton.mp hd
      show '=' ∉ "filename".toList ∧ '\r' ∉ "filename".toList
      decide
  contentType := by
    intro type hmem
    obtain rfl := Option.some.inj (Option.mem_def.mp hmem)
    exact htype
  content := h

/-- The header of a part: a boundary, its lines, and a blank line. -/
theorem partHeader_eq (isFirst : Bool) (ds : List (String × String)) (contentType : Option String) :
    partHeader isFirst ds contentType =
      (if isFirst then dashBoundary else delimiter) ++
        (lineBreak ++ (fieldLines (headersOf ds contentType) ++ lineBreak)) := by
  have hbreak : utf8 "\r\n" = lineBreak := by decide
  have hdashes : utf8 "--" = dashes := by decide
  have hend : utf8 "\r\n\r\n" = lineBreak ++ lineBreak := by decide
  have hdisposition : utf8 "\r\nContent-Disposition: form-data" =
      lineBreak ++ (utf8 "Content-Disposition" ++ (utf8 ": " ++ utf8 "form-data")) := by
    decide +kernel
  have htype : utf8 "\r\nContent-Type: " = lineBreak ++ (utf8 "Content-Type" ++ utf8 ": ") := by
    decide +kernel
  have hopening : utf8 (if isFirst then "" else "\r\n") ++ (utf8 "--" ++ utf8 boundary) =
      if isFirst then dashBoundary else delimiter := by
    cases isFirst
    · rw [hdashes]
      exact congrArg (· ++ dashBoundary) hbreak
    · rw [hdashes]
      rfl
  have hparameters : (ds.map fun d => "; " ++ d.1 ++ "=\"" ++ Form.encode d.2 ++ "\"") =
      ds.map parameterText := rfl
  rw [← hopening]
  unfold partHeader
  cases contentType with
  | none =>
    simp [headersOf, fieldLines, fieldText, dispositionText, utf8_append, hparameters, hdisposition,
      hend]
  | some type =>
    simp [headersOf, fieldLines, fieldText, dispositionText, utf8_append, hparameters, hdisposition,
      htype, hend]

theorem tail_eq : tail = delimiter ++ dashes := by decide +kernel

/-- Text fields and what is written behind them are a row of sections. -/
theorem fieldParts_append (fields : Fields) (isFirst : Bool) (p : Section) :
    fieldParts isFirst fields ++
        (partHeader (isFirst && fields.isEmpty) p.disposition p.contentType ++
          (p.content ++ delimiter)) =
      (if isFirst then dashBoundary else delimiter) ++
        (fields.map fieldSection ++ [p]).flatMap Section.bytes := by
  induction fields generalizing isFirst with
  | nil =>
    rw [List.isEmpty_nil, Bool.and_true, partHeader_eq]
    simp [fieldParts, Section.bytes]
  | cons f fields ih =>
    have hrest := ih false
    rw [Bool.false_and, if_neg Bool.false_ne_true] at hrest
    rw [List.isEmpty_cons, Bool.and_false, fieldParts, partHeader_eq, List.append_assoc,
      List.append_assoc, hrest]
    simp [fieldSection, Section.bytes]

end Multipart

namespace MultipartEncoder

open Multipart

variable (e : MultipartEncoder) (file : Bytes)

/-- The sections of a body, the one of the file last. -/
def sections : List Section := e.fields.map fieldSection ++ [e.file.toSection file]

/-- A body is its sections behind the first boundary, and two dashes behind the last. -/
theorem body_eq_sections :
    e.head ++ file ++ tail = dashBoundary ++ ((e.sections file).flatMap Section.bytes ++ dashes) := by
  have hrow := fieldParts_append e.fields true (e.file.toSection file)
  rw [Bool.true_and, if_pos rfl] at hrow
  rw [sections, ← List.append_assoc, ← hrow, tail_eq, head]
  simp [FilePart.toSection]

variable {e file}

/-- **Reading back.** A body that has been written reads back, as a whole, as a part for every text
field and a last one for the file. Writing it succeeds on every sink that takes and does not fail at
a flush. -/
theorem readsBack_of_writeTo (h : e.file.source.Delivers file)
    (hfields : ∀ f ∈ e.fields, ¬delimiter <:+: Text.utf8 f.2) (hfile : ¬delimiter <:+: file)
    (htype : '\r' ∉ e.file.mediaType.toList) (sink : Sink) :
    (∀ n, (e.writeTo sink).result = .ok n →
        ∃ body, (e.writeTo sink).sink.received = sink.received ++ body ∧
          parts? body = some (e.fields.map fieldPart ++ [e.file.toPart file])) ∧
      (sink.Takes → (∀ error, ¬sink.MayFailAtFlush error) →
        ∃ n, (e.writeTo sink).result = .ok n) := by
  refine ⟨fun n hok => ⟨_, received_of_writeTo h hok, ?_⟩, fun htakes hflush => ?_⟩
  · have hfits : ∀ p ∈ e.sections file, p.Fits := by
      intro p hp
      rcases List.mem_append.mp hp with hp | hp
      · obtain ⟨f, hf, rfl⟩ := List.mem_map.mp hp
        exact fieldSection_fits (hfields f hf)
      · obtain rfl := List.mem_singleton.mp hp
        exact FilePart.toSection_fits htype hfile
    have hne : e.sections file ≠ [] :=
      List.append_ne_nil_of_right_ne_nil _ (List.cons_ne_nil _ _)
    rw [body_eq_sections, parts?_sections hne hfits, sections, List.map_append, List.map_map]
    rfl
  · rcases (writesOut h htakes).result with ⟨hok, -⟩ | ⟨error, hfault, -⟩
    · exact ⟨_, hok⟩
    · exact absurd hfault (hflush error)

/-! ### A tricky body -/

/-- A file that begins like a boundary, has a blank line in it, and ends in the middle of a
delimiter. -/
def trickyFile : Bytes := dashBoundary ++ lineBreak ++ lineBreak ++ delimiter.take 30

/-- A body with quotes and line breaks in its names, and with values that look like boundaries. -/
def tricky : MultipartEncoder where
  fields :=
    [("", "--" ++ boundary ++ "--"), ("k\u00e9y \"; name=\"x\"\r\n", "\r\n\r\n--\r\n")]
  file :=
    { partName := "\"\r\n"
      filename := "a\"; filename=\"b.txt\r\n"
      contentType := some "text/plain; charset=utf-8"
      source := .seekable { source := { data := trickyFile, pace := fun _ _ => .ok 7 } } }
  chunkSize := 5

/-- The tricky body reads back. -/
theorem readsBack_of_writeTo_tricky :
    tricky.file.source.Delivers trickyFile ∧
      (∀ f ∈ tricky.fields, ¬delimiter <:+: Text.utf8 f.2) ∧ ¬delimiter <:+: trickyFile ∧
      '\r' ∉ tricky.file.mediaType.toList ∧ bytewise.Takes ∧
      (∀ error, ¬bytewise.MayFailAtFlush error) ∧
      ∃ n body, (tricky.writeTo bytewise).result = .ok n ∧
        (tricky.writeTo bytewise).sink.received = bytewise.received ++ body ∧
        parts? body =
          some (tricky.fields.map fieldPart ++ [tricky.file.toPart trickyFile]) := by
  have hdelivers : tricky.file.source.Delivers trickyFile :=
    .seekable fun _ _ _ _ => ⟨7, rfl, fun _ => by decide⟩
  have hfields : ∀ f ∈ tricky.fields, ¬delimiter <:+: Text.utf8 f.2 := by decide +kernel
  have hfile : ¬delimiter <:+: trickyFile := by decide +kernel
  have htype : '\r' ∉ tricky.file.mediaType.toList := by decide +kernel
  have hflush : ∀ error, ¬bytewise.MayFailAtFlush error := fun _ ⟨_, hfault⟩ => by cases hfault
  obtain ⟨hreads, hwrites⟩ := readsBack_of_writeTo hdelivers hfields hfile htype bytewise
  obtain ⟨n, hok⟩ := hwrites bytewise_takes hflush
  obtain ⟨body, hreceived, hparts⟩ := hreads n hok
  exact ⟨hdelivers, hfields, hfile, htype, bytewise_takes, hflush, n, body, hok, hreceived, hparts⟩

end MultipartEncoder

end ContentClient
