import ContentClient.Multipart.FileSource
import ContentClient.Multipart.MediaType
import ContentClient.Url.Form

/-!
# Multipart bodies

A body of type `multipart/form-data` consists of a part for every text field and a last part for a
file. It is the **head**, which holds all fields and the header of the file part, the bytes of the
file, and the **tail**, which closes the last part. The head is rendered from the encoder alone, so
what may be logged of a body is everything but the file.
-/

namespace ContentClient

namespace Multipart

/-- The token between the parts of a body. -/
def boundary : String := "da39a3ee5e6b4b0d3255bfef95601890afd80709"

/-- The size of the chunks in which a file is read unless another is set. -/
def defaultChunkSize : Nat := 8192

theorem defaultChunkSize_pos : 0 < defaultChunkSize := by decide

/-- What a log shows in place of a file. -/
def omittedFile : String := "<File Contents Omitted>"

/-- The value of the header field for the type of a body. -/
def contentTypeHeader : String := "multipart/form-data; boundary=" ++ boundary

/-! ### Fields -/

/-- Text fields, each name once, in the order in which they were first set. -/
abbrev Fields := List (String × String)

namespace Fields

/-- Sets a field, in its place if it has one. -/
def put (key value : String) : Fields → Fields
  | [] => [(key, value)]
  | (k, v) :: rest => if k = key then (k, value) :: rest else (k, v) :: put key value rest

/-- Sets one field after another. -/
def putAll (fields : Fields) (entries : List (String × String)) : Fields :=
  entries.foldl (fun fields e => put e.1 e.2 fields) fields

theorem map_fst_put (key value : String) (fields : Fields) :
    (put key value fields).map (·.1) =
      if key ∈ fields.map (·.1) then fields.map (·.1) else fields.map (·.1) ++ [key] := by
  induction fields with
  | nil => simp [put]
  | cons f rest ih =>
    obtain ⟨k, v⟩ := f
    by_cases h : k = key
    · simp [put, h]
    · have h' : ¬key = k := fun e => h e.symm
      simp only [put, h, if_false, List.map_cons, ih, List.mem_cons, h', false_or]
      split <;> simp

end Fields

/-! ### Parts -/

/-- The file of a body. -/
structure FilePart where
  partName : String
  filename : String
  /-- The media type; without one it is guessed from the file name. -/
  contentType : Option String := none
  /-- The size that progress is measured against, 0 if it is not known. -/
  size : Nat := 0
  source : FileSource

namespace FilePart

/-- The media type of the file. -/
def mediaType (p : FilePart) : String := p.contentType.getD (MediaType.guess p.filename)

/-- A file on disk, with its name and size filled in. Opening a path again gives the same bytes. -/
def ofPath (partName path : String) (content : Except IoError Bytes) : Except IoError FilePart :=
  content.map fun data =>
    { partName := partName
      filename := (MediaType.fileName? path).getD ""
      size := data.length
      source := .reopened (fun _ => .ok (.ofBytes data)) 0 }

/-- The file part in diagnostics. -/
def describe (p : FilePart) : String :=
  Text.Notation.record "FilePart"
    [("part_name", Text.quoted p.partName), ("filename", Text.quoted p.filename),
      ("content_type", Text.Notation.optional (p.contentType.map Text.quoted)),
      ("size", toString p.size), ("source", p.source.describe)]

end FilePart

/-- The header of one part: what separates it from the part before it, its names in form encoding,
and its media type if it has one. -/
def partHeader (isFirst : Bool) (disposition : List (String × String))
    (contentType : Option String) : Bytes :=
  Text.utf8 <|
    (if isFirst then "" else "\r\n") ++ "--" ++ boundary ++
      "\r\nContent-Disposition: form-data" ++
      String.join (disposition.map fun d => "; " ++ d.1 ++ "=\"" ++ Form.encode d.2 ++ "\"") ++
      (match contentType with
        | none => ""
        | some type => "\r\nContent-Type: " ++ type) ++
      "\r\n\r\n"

/-- The parts of the text fields. -/
def fieldParts (isFirst : Bool) : Fields → Bytes
  | [] => []
  | (key, value) :: rest =>
    partHeader isFirst [("name", key)] none ++ Text.utf8 value ++ fieldParts false rest

/-- What closes a body behind its file. -/
def tail : Bytes := Text.utf8 ("\r\n--" ++ boundary ++ "--")

end Multipart

/-- A report of progress: the bytes of the file so far, and its declared size. -/
abbrev Report := Nat × Nat

/-- A body of text fields and a file. -/
structure MultipartEncoder where
  fields : Multipart.Fields := []
  file : Multipart.FilePart
  /-- The most bytes of the file that are read at once. -/
  chunkSize : Nat := Multipart.defaultChunkSize
  /-- Whether progress is reported. -/
  observed : Bool := false
  /-- The digest of the file that the server may check. -/
  contentSha1 : Option String := none
  chunkSize_pos : 0 < chunkSize := by decide

namespace MultipartEncoder

/-- Sets a text field. -/
def putField (e : MultipartEncoder) (key value : String) : MultipartEncoder :=
  { e with fields := Multipart.Fields.put key value e.fields }

/-- Sets the size of the chunks; it is one byte at least. -/
def withChunkSize (e : MultipartEncoder) (n : Nat) : MultipartEncoder :=
  { e with chunkSize := max n 1, chunkSize_pos := Nat.le_max_right n 1 }

/-- Everything before the bytes of the file. -/
def head (e : MultipartEncoder) : Bytes :=
  Multipart.fieldParts true e.fields ++
    Multipart.partHeader e.fields.isEmpty
      [("name", e.file.partName), ("filename", e.file.filename)] (some e.file.mediaType)

/-- The body as it may be logged: a placeholder stands for the file. -/
def loggedBody (e : MultipartEncoder) : String :=
  Text.decodeLossy e.head ++ Multipart.omittedFile ++ Text.decodeLossy Multipart.tail

/-- The reports that progress to the given counts makes. -/
def reports (e : MultipartEncoder) (counts : List Nat) : List Report :=
  if e.observed then counts.map fun n => (n, e.file.size) else []

/-- The encoder with another state of its file source. -/
def withSource (e : MultipartEncoder) (source : FileSource) : MultipartEncoder :=
  { e with file := { e.file with source := source } }

/-- Makes the source ready for another pass. The result tells whether it can be read again. -/
def rewind (e : MultipartEncoder) : Except IoError Bool × MultipartEncoder :=
  let (result, source) := e.file.source.rewind
  (result, e.withSource source)

/-- The encoder in diagnostics. -/
def describe (e : MultipartEncoder) : String :=
  Text.Notation.record "MultipartEncoder"
    [("fields", Text.Notation.list (e.fields.map fun f =>
        Text.Notation.pair (Text.quoted f.1) (Text.quoted f.2))),
      ("file", e.file.describe), ("chunk_size", toString e.chunkSize),
      ("content_sha1", Text.Notation.optional (e.contentSha1.map Text.quoted))]

@[simp] theorem head_withSource (e : MultipartEncoder) (source : FileSource) :
    (e.withSource source).head = e.head := rfl

end MultipartEncoder

end ContentClient
