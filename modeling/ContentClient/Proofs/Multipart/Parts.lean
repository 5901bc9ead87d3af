import ContentClient.Http.Headers
import ContentClient.Multipart.Encoder
import ContentClient.Proofs.Text.Cutting
import ContentClient.Proofs.Url.Form

/-!
# The parts of a body

A reader for bodies of type `multipart/form-data`, after RFC 2046: behind the first boundary every
part has a header block, which ends at the first blank line, and a content, which ends at the first
**delimiter**, a line break with two dashes and the boundary. The body ends with two more dashes
behind a delimiter.

What is written for one part, a **section**, is read back as that part (`Section.Fits.readPart`),
whatever the octets of its content, as long as they hold no delimiter; and so is a row of sections
(`parts?_sections`). Names and file names stand in form encoding, which has no quotes and no line
breaks, so they can be any text.
-/

namespace ContentClient.Multipart

open Text

/-- What ends a line. -/
def lineBreak : Bytes := [0x0D, 0x0A]

/-- What stands behind the last delimiter. -/
def dashes : Bytes := [0x2D, 0x2D]

/-- What a body begins with. -/
def dashBoundary : Bytes := dashes ++ utf8 boundary

/-- What stands between the content of a part and what follows it. -/
def delimiter : Bytes := lineBreak ++ dashBoundary

/-! ### Reading -/

/-- A part of a body as a server sees it. -/
structure Part where
  name : String
  filename : Option String := none
  contentType : Option String := none
  content : Bytes
  deriving DecidableEq, Repr

/-- Reads a parameter: its name, and its value in quotes and form encoding. -/
def readParameter (text : List Char) : Option ((String × String) × List Char) := do
  let text ← leave [';', ' '] text
  let (name, text) ← cutAt ['=', '"'] text
  let (value, text) ← cutAt ['"'] text
  return ((String.ofList name, Form.decode (utf8 (String.ofList value))), text)

/-- Reads the parameters of a disposition. -/
def readDisposition (value : String) : Option (List (String × String)) := do
  let text ← leave "form-data".toList value.toList
  readItems readParameter [] text

/-- Reads a header field from its line. -/
def readField (line : Bytes) : Option (String × String) := do
  let text ← decode? line
  let (name, value) ← cutAt [':', ' '] text.toList
  return (String.ofList name, String.ofList value)

/-- Reads the header fields of a block, one to a line. -/
def readHeaders (block : Bytes) : Option Headers := do
  let lines ← readItems (cutAt lineBreak) [] (block ++ lineBreak)
  lines.mapM readField

/-- A part with its header fields and its content. -/
def Part.ofHeaders? (headers : Headers) (content : Bytes) : Option Part := do
  let disposition ← headers.first? "Content-Disposition"
  let parameters ← readDisposition disposition
  let name ← parameters.lookup "name"
  return { name := name
           filename := parameters.lookup "filename"
           contentType := headers.first? "Content-Type"
           content := content }

/-- Reads a part, and the delimiter behind it. -/
def readPart (bytes : Bytes) : Option (Part × Bytes) := do
  let bytes ← leave lineBreak bytes
  let (block, bytes) ← cutAt (lineBreak ++ lineBreak) bytes
  let (content, bytes) ← cutAt delimiter bytes
  let headers ← readHeaders block
  let part ← Part.ofHeaders? headers content
  return (part, bytes)

/-- The parts of a whole body. -/
def parts? (body : Bytes) : Option (List Part) := do
  let bytes ← leave dashBoundary body
  readItems readPart dashes bytes

/-! ### Parameters -/

/-- A parameter as it is written. -/
def parameterText (d : String × String) : String := "; " ++ d.1 ++ "=\"" ++ Form.encode d.2 ++ "\""

theorem readParameter_write {d : String × String} (h : '=' ∉ d.1.toList) (rest : List Char) :
    readParameter ((parameterText d).toList ++ rest) = some (d, rest) := by
  have hquote : '"' ∉ (Form.encode d.2).toList := fun hmem => by
    have hchar := Form.mem_encode hmem
    revert hchar
    decide
  have htext : (parameterText d).toList ++ rest =
      [';', ' '] ++ (d.1.toList ++
        (['=', '"'] ++ ((Form.encode d.2).toList ++ (['"'] ++ rest)))) := by
    simp [parameterText]
  rw [htext, readParameter, leave_append]
  simp only [Option.bind_eq_bind, Option.bind_some, cutAt_of_not_mem h, cutAt_of_not_mem hquote,
    String.ofList_toList, Form.decode_encode]
  rfl

/-- A disposition as it is written. -/
def dispositionText (ds : List (String × String)) : String :=
  "form-data" ++ String.join (ds.map parameterText)

theorem readDisposition_write {ds : List (String × String)} (hne : ds ≠ [])
    (h : ∀ d ∈ ds, '=' ∉ d.1.toList) : readDisposition (dispositionText ds) = some ds := by
  have htext : (dispositionText ds).toList =
      "form-data".toList ++ ds.flatMap fun d => (parameterText d).toList := by
    rw [dispositionText, String.toList_append, String.toList_join, List.flatMap_map]
  have hitems : readItems readParameter [] ((ds.flatMap fun d => (parameterText d).toList) ++ []) =
      some (ds.map id) :=
    readItems_flatMap hne (fun d _ => by simp [parameterText]) fun d hd rest =>
      readParameter_write (h d hd) rest
  rw [List.append_nil, List.map_id] at hitems
  rw [readDisposition, htext, leave_append, Option.bind_eq_bind, Option.bind_some, hitems]

/-! ### Header blocks -/

/-- A header field as it is written. -/
def fieldText (f : String × String) : String := f.1 ++ ": " ++ f.2

/-- A header field **fits** a line: its name has no colon, and it has no line break. -/
structure FitsLine (f : String × String) : Prop where
  name : ':' ∉ f.1.toList
  text : '\r' ∉ (fieldText f).toList

variable {f : String × String} {fs : Headers}

theorem readField_write (h : ':' ∉ f.1.toList) : readField (utf8 (fieldText f)) = some f := by
  have htext : (fieldText f).toList = f.1.toList ++ ([':', ' '] ++ f.2.toList) := by
    simp [fieldText]
  rw [readField, decode?_utf8]
  simp only [Option.bind_eq_bind, Option.bind_some, htext, cutAt_of_not_mem h, String.ofList_toList]
  rfl

/-- The octets of the lines of header fields. -/
def fieldLines (fs : Headers) : Bytes := fs.flatMap fun f => utf8 (fieldText f) ++ lineBreak

theorem utf8_fieldText_ne_nil (f : String × String) : utf8 (fieldText f) ≠ [] := by
  rw [fieldText, utf8_append, utf8_append, List.append_assoc]
  exact List.append_ne_nil_of_right_ne_nil _ (List.cons_ne_nil _ _)

theorem not_mem_utf8_of_not_mem {s : String} (h : '\r' ∉ s.toList) : (0x0D : UInt8) ∉ utf8 s := by
  rw [mem_utf8_iff (by decide)]
  rintro ⟨c, hmem, hc⟩
  have hbreak : c = '\r' := Char.toNat_inj.mp hc
  exact h (hbreak ▸ hmem)

theorem readHeaders_write (hne : fs ≠ []) (h : ∀ f ∈ fs, FitsLine f) {block : Bytes}
    (hblock : block ++ lineBreak = fieldLines fs) : readHeaders block = some fs := by
  have hlines : readItems (cutAt lineBreak) [] (fieldLines fs ++ []) =
      some (fs.map fun f => utf8 (fieldText f)) := by
    refine readItems_flatMap hne (fun _ _ => ?_) fun f hf rest => ?_
    · exact List.append_ne_nil_of_right_ne_nil _ (List.cons_ne_nil _ _)
    · rw [List.append_assoc]
      exact cutAt_of_not_mem (not_mem_utf8_of_not_mem (h f hf).text)
  rw [List.append_nil] at hlines
  rw [readHeaders, hblock, hlines, Option.bind_eq_bind, Option.bind_some]
  clear hne hblock hlines
  induction fs with
  | nil => rfl
  | cons f fs ih =>
    rw [List.map_cons, List.mapM_cons, readField_write (h f List.mem_cons_self).name,
      ih fun f' hf => h f' (List.mem_cons_of_mem _ hf)]
    rfl

/-- A line that does not begin with a line break leaves the one before it behind. -/
theorem cutAt_lineBreak {b : UInt8} (h : b ≠ 0x0D) (l : Bytes) :
    cutAt (lineBreak ++ lineBreak) (lineBreak ++ b :: l) =
      (cutAt (lineBreak ++ lineBreak) (b :: l)).map fun cut => (lineBreak ++ cut.1, cut.2) := by
  have hblank : ¬lineBreak ++ lineBreak <+: 0x0D :: ([0x0A] ++ b :: l) := fun hbegins =>
    h (List.cons_prefix_cons.mp ((List.prefix_append_right_inj lineBreak).mp hbegins)).1.symm
  have hfeed : cutAt (lineBreak ++ lineBreak) ([0x0A] ++ b :: l) =
      (cutAt (lineBreak ++ lineBreak) (b :: l)).map fun cut => ([0x0A] ++ cut.1, cut.2) :=
    cutAt_append_of_not_mem (by decide) _
  show cutAt _ (0x0D :: ([0x0A] ++ b :: l)) = _
  rw [cutAt, if_neg hblank, hfeed, Option.map_map]
  rfl

/-- A block of header fields ends at the blank line behind them. -/
theorem cutAt_blankLine (hne : fs ≠ []) (h : ∀ f ∈ fs, FitsLine f) (rest : Bytes) :
    ∃ block, block ++ lineBreak = fieldLines fs ∧
      cutAt (lineBreak ++ lineBreak) (fieldLines fs ++ (lineBreak ++ rest)) = some (block, rest) := by
  induction fs with
  | nil => exact absurd rfl hne
  | cons f fs ih =>
    have hline := not_mem_utf8_of_not_mem (h f List.mem_cons_self).text
    cases fs with
    | nil =>
      refine ⟨utf8 (fieldText f), (List.append_nil _).symm, ?_⟩
      have hall : fieldLines [f] ++ (lineBreak ++ rest) =
          utf8 (fieldText f) ++ (lineBreak ++ lineBreak ++ rest) := by
        simp [fieldLines]
      rw [hall]
      exact cutAt_of_not_mem hline
    | cons f' fs =>
      obtain ⟨block, hblock, hcut⟩ :=
        ih (List.cons_ne_nil _ _) fun f hf => h f (List.mem_cons_of_mem _ hf)
      -- the line that follows begins with something other than a line break
      obtain ⟨b, l, hb, hnext⟩ : ∃ b l, b ≠ (0x0D : UInt8) ∧
          fieldLines (f' :: fs) ++ (lineBreak ++ rest) = b :: l := by
        have hnext := not_mem_utf8_of_not_mem
          (h f' (List.mem_cons_of_mem _ List.mem_cons_self)).text
        cases hoctets : utf8 (fieldText f') with
        | nil => exact absurd hoctets (utf8_fieldText_ne_nil f')
        | cons b l =>
          rw [hoctets] at hnext
          refine ⟨b, l ++ (lineBreak ++ fieldLines fs ++ (lineBreak ++ rest)), ?_, ?_⟩
          · rintro rfl
            exact hnext List.mem_cons_self
          · simp [fieldLines, hoctets]
      refine ⟨utf8 (fieldText f) ++ (lineBreak ++ block), ?_, ?_⟩
      · rw [List.append_assoc, List.append_assoc, hblock]
        exact (List.append_assoc _ _ _).symm
      · have hall : fieldLines (f :: f' :: fs) ++ (lineBreak ++ rest) =
            utf8 (fieldText f) ++ (lineBreak ++ (fieldLines (f' :: fs) ++ (lineBreak ++ rest))) := by
          simp [fieldLines]
        rw [hall]
        refine (cutAt_append_of_not_mem hline _).trans ?_
        rw [hnext] at hcut ⊢
        show Option.map _ (cutAt (lineBreak ++ lineBreak) _) = _
        rw [cutAt_lineBreak hb, hcut]
        rfl

/-! ### Parts -/

/-- The header fields of a part. -/
def headersOf (ds : List (String × String)) (contentType : Option String) : Headers :=
  ("Content-Disposition", dispositionText ds) ::
    (contentType.map fun type => ("Content-Type", type)).toList

variable {ds : List (String × String)} {contentType : Option String} {content : Bytes}

theorem not_mem_dispositionText (h : ∀ d ∈ ds, '\r' ∉ d.1.toList) :
    '\r' ∉ (dispositionText ds).toList := by
  have hquoted : ∀ d : String × String, '\r' ∉ (Form.encode d.2).toList := fun d hmem => by
    have hchar := Form.mem_encode hmem
    revert hchar
    decide
  rw [dispositionText, String.toList_append, String.toList_join, List.flatMap_map, List.mem_append,
    List.mem_flatMap]
  rintro (hmem | ⟨d, hd, hmem⟩)
  · revert hmem
    decide
  · simp only [parameterText, String.toList_append, List.mem_append] at hmem
    rcases hmem with (((hmem | hmem) | hmem) | hmem) | hmem
    · revert hmem
      decide
    · exact h d hd hmem
    · revert hmem
      decide
    · exact hquoted d hmem
    · revert hmem
      decide

theorem fitsLine_of_mem_headersOf (hkeys : ∀ d ∈ ds, '\r' ∉ d.1.toList)
    (htype : ∀ type ∈ contentType, '\r' ∉ type.toList) {f : String × String}
    (hf : f ∈ headersOf ds contentType) : FitsLine f := by
  have hfits : ∀ name value : String, ':' ∉ name.toList → '\r' ∉ name.toList →
      '\r' ∉ value.toList → FitsLine (name, value) := fun name value hcolon hname hvalue => by
    refine ⟨hcolon, ?_⟩
    simp only [fieldText, String.toList_append, List.mem_append]
    rintro ((hmem | hmem) | hmem)
    · exact hname hmem
    · revert hmem
      decide
    · exact hvalue hmem
  rcases List.mem_cons.mp hf with rfl | hf
  · exact hfits _ _ (by decide) (by decide) (not_mem_dispositionText hkeys)
  · obtain ⟨type, hmem, rfl⟩ := Option.map_eq_some_iff.mp (Option.mem_toList.mp hf)
    exact hfits _ _ (by decide) (by decide) (htype type hmem)

theorem first?_cons_self (name value : String) (fs : Headers) :
    Headers.first? ((name, value) :: fs) name = some value := by
  simp [Headers.first?, sameHeader_self]

theorem first?_cons_of_ne {name other : String} (h : sameHeader other name = false)
    (value : String) (fs : Headers) :
    Headers.first? ((other, value) :: fs) name = fs.first? name := by
  simp [Headers.first?, h]

theorem ofHeaders?_headersOf {name : String} (hname : ds.lookup "name" = some name)
    (hkeys : ∀ d ∈ ds, '=' ∉ d.1.toList) :
    Part.ofHeaders? (headersOf ds contentType) content =
      some ⟨name, ds.lookup "filename", contentType, content⟩ := by
  have hne : ds ≠ [] := by
    rintro rfl
    cases hname
  have hdisposition : (headersOf ds contentType).first? "Content-Disposition" =
      some (dispositionText ds) := first?_cons_self _ _ _
  have htype : (headersOf ds contentType).first? "Content-Type" = contentType := by
    rw [headersOf, first?_cons_of_ne (by decide)]
    cases contentType with
    | none => rfl
    | some type => exact first?_cons_self _ _ _
  rw [Part.ofHeaders?, hdisposition]
  simp only [Option.bind_eq_bind, Option.bind_some, readDisposition_write hne hkeys, hname, htype]
  rfl

/-- What is written for one part. -/
structure Section where
  disposition : List (String × String)
  contentType : Option String := none
  content : Bytes

namespace Section

/-- The octets of a section behind a boundary, up to the next one. -/
def bytes (p : Section) : Bytes :=
  lineBreak ++ (fieldLines (headersOf p.disposition p.contentType) ++
    (lineBreak ++ (p.content ++ delimiter)))

/-- The part that a section is read back as. -/
def part (p : Section) : Part where
  name := (p.disposition.lookup "name").getD ""
  filename := p.disposition.lookup "filename"
  contentType := p.contentType
  content := p.content

/-- A section **fits** between boundaries: it has a name, its header fields fit their lines, and its
content has no delimiter in it. -/
structure Fits (p : Section) : Prop where
  name : (p.disposition.lookup "name").isSome = true
  keys : ∀ d ∈ p.disposition, '=' ∉ d.1.toList ∧ '\r' ∉ d.1.toList
  contentType : ∀ type ∈ p.contentType, '\r' ∉ type.toList
  content : ¬delimiter <:+: p.content

variable {p : Section}

/-- **One part.** What is written for a part is read back as that part. -/
theorem Fits.readPart (h : p.Fits) (rest : Bytes) :
    readPart (p.bytes ++ rest) = some (p.part, rest) := by
  have hfits : ∀ f ∈ headersOf p.disposition p.contentType, FitsLine f := fun f hf =>
    fitsLine_of_mem_headersOf (fun d hd => (h.keys d hd).2) h.contentType hf
  have hne : headersOf p.disposition p.contentType ≠ [] := List.cons_ne_nil _ _
  have hbytes : p.bytes ++ rest =
      lineBreak ++ (fieldLines (headersOf p.disposition p.contentType) ++
        (lineBreak ++ (p.content ++ (delimiter ++ rest)))) := by
    simp [bytes]
  obtain ⟨block, hblock, hcut⟩ := cutAt_blankLine hne hfits (p.content ++ (delimiter ++ rest))
  have hdelimiter : cutAt delimiter (p.content ++ (delimiter ++ rest)) = some (p.content, rest) :=
    cutAt_first (by decide +kernel) h.content
  have hpart : Part.ofHeaders? (headersOf p.disposition p.contentType) p.content = some p.part := by
    obtain ⟨name, hname⟩ := Option.isSome_iff_exists.mp h.name
    rw [ofHeaders?_headersOf hname fun d hd => (h.keys d hd).1, part, hname, Option.getD_some]
  rw [hbytes, Multipart.readPart, leave_append]
  simp only [Option.bind_eq_bind, Option.bind_some, hcut, hdelimiter,
    readHeaders_write hne hfits hblock, hpart]
  rfl

end Section

/-- **A whole body.** Sections that fit, one behind the other, are read back as their parts. -/
theorem parts?_sections {ps : List Section} (hne : ps ≠ []) (h : ∀ p ∈ ps, p.Fits) :
    parts? (dashBoundary ++ (ps.flatMap Section.bytes ++ dashes)) = some (ps.map Section.part) := by
  have hitems : readItems readPart dashes (ps.flatMap Section.bytes ++ dashes) =
      some (ps.map Section.part) :=
    readItems_flatMap hne
      (fun p _ => List.append_ne_nil_of_left_ne_nil (List.cons_ne_nil _ _) _)
      fun p hp rest => (h p hp).readPart rest
  rw [parts?, leave_append, Option.bind_eq_bind, Option.bind_some, hitems]

end ContentClient.Multipart
