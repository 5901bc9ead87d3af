import ContentClient.Client.Upload
import ContentClient.Proofs.Multipart.Decoding
import ContentClient.Proofs.Multipart.Logging

/-!
# The text fields of a body

Fields are a map that remembers in which order its keys came. A key that is put again keeps its
place and gets the new value, and a new key goes to the end. So whatever is put, in whatever order
and how often, the fields **hold** the puts: each key once, in the order of the first puts, with the
value of the last (`Fields.Holds`). One more put keeps that (`Fields.Holds.put`), and so does every
run of puts (`Fields.Holds.putAll`).

The head of a body is rendered from the fields one by one. It has one section for each of them, in
their order, and the opening of the file's section behind them all
(`MultipartEncoder.head_eq_sections`).

The main statement, `MultipartEncoder.showsPuts`, says both of an encoder after any use of it,
whether its first fields come from an endpoint or not.
-/

namespace ContentClient

namespace Multipart

/-! ### What fields hold -/

namespace Fields

/-- Fields **hold** a run of puts. -/
structure Holds (fields : Fields) (puts : List (String × String)) : Prop where
  /-- No key is there twice. -/
  nodup : (fields.map (·.1)).Nodup
  /-- The keys are those that have been put, -/
  mem_iff : ∀ key, key ∈ fields.map (·.1) ↔ key ∈ puts.map (·.1)
  /-- in the order in which they were first put. -/
  ordered : (fields.map (·.1)).Pairwise fun key other =>
    (puts.map (·.1)).idxOf key < (puts.map (·.1)).idxOf other
  /-- Each has the value that was put last. -/
  last : ∀ f ∈ fields, ∃ before after, puts = before ++ f :: after ∧ f.1 ∉ after.map (·.1)

variable {fields : Fields} {puts : List (String × String)}

theorem holds_nil : Holds [] [] where
  nodup := List.nodup_nil
  mem_iff := fun _ => Iff.rfl
  ordered := .nil
  last := fun _ hf => absurd hf List.not_mem_nil

/-- What is there behind a put: the new value, and the fields with other keys. -/
theorem mem_put (hnodup : (fields.map (·.1)).Nodup) {key value : String} {f : String × String}
    (hf : f ∈ put key value fields) : f = (key, value) ∨ f ∈ fields ∧ f.1 ≠ key := by
  induction fields with
  | nil => exact .inl (List.mem_singleton.mp hf)
  | cons g rest ih =>
    obtain ⟨hnew, hrest⟩ := List.nodup_cons.mp hnodup
    by_cases hkey : g.1 = key
    · rw [put, if_pos hkey, hkey] at hf
      rcases List.mem_cons.mp hf with rfl | hmem
      · exact .inl rfl
      · -- the key of the field that is replaced does not come again
        have hne : f.1 ≠ key := fun hagain =>
          hnew (List.mem_map.mpr ⟨f, hmem, hagain.trans hkey.symm⟩)
        exact .inr ⟨List.mem_cons_of_mem _ hmem, hne⟩
    · rw [put, if_neg hkey] at hf
      rcases List.mem_cons.mp hf with rfl | hmem
      · exact .inr ⟨List.mem_cons_self, hkey⟩
      · exact (ih hrest hmem).imp id fun hkept => ⟨List.mem_cons_of_mem _ hkept.1, hkept.2⟩

/-- A put is held with all puts before it. -/
theorem Holds.put (h : Holds fields puts) (key value : String) :
    Holds (put key value fields) (puts ++ [(key, value)]) := by
  have hnames : (puts ++ [(key, value)]).map (·.1) = puts.map (·.1) ++ [key] := List.map_append
  -- where a key was first put does not change by what is put later
  have hidx : ∀ name ∈ fields.map (·.1),
      (puts.map (·.1) ++ [key]).idxOf name = (puts.map (·.1)).idxOf name := fun name hname =>
    List.idxOf_append_of_mem ((h.mem_iff name).mp hname)
  have hkept : (fields.map (·.1)).Pairwise fun name other =>
      (puts.map (·.1) ++ [key]).idxOf name < (puts.map (·.1) ++ [key]).idxOf other :=
    h.ordered.imp_of_mem fun hname hother hlt => by rwa [hidx _ hname, hidx _ hother]
  have hordered : ((Fields.put key value fields).map (·.1)).Pairwise fun name other =>
      (puts.map (·.1) ++ [key]).idxOf name < (puts.map (·.1) ++ [key]).idxOf other := by
    rw [map_fst_put]
    split
    · exact hkept
    · rename_i hnew
      refine List.pairwise_append.mpr ⟨hkept, List.pairwise_singleton _ _, ?_⟩
      intro name hname other hother
      obtain rfl := List.mem_singleton.mp hother
      have hput := (h.mem_iff name).mp hname
      have hnot : other ∉ puts.map (·.1) := fun hmem => hnew ((h.mem_iff other).mpr hmem)
      rw [hidx name hname, List.idxOf_append_of_notMem hnot]
      exact Nat.lt_of_lt_of_le (List.idxOf_lt_length_of_mem hput) (Nat.le_add_right _ _)
  refine ⟨hordered.imp fun hlt heq => ?_, fun name => ?_, hnames ▸ hordered, fun f hf => ?_⟩
  · rw [heq] at hlt
    exact Nat.lt_irrefl _ hlt
  · rw [map_fst_put, hnames, List.mem_append, List.mem_singleton, ← h.mem_iff]
    split
    · rename_i hold
      exact ⟨.inl, fun hmem => hmem.elim id fun heq => heq ▸ hold⟩
    · rw [List.mem_append, List.mem_singleton]
  · rcases mem_put h.nodup hf with rfl | ⟨hmem, hne⟩
    · exact ⟨puts, [], rfl, List.not_mem_nil⟩
    · obtain ⟨before, after, hputs, hlast⟩ := h.last f hmem
      refine ⟨before, after ++ [(key, value)], by rw [hputs, List.append_assoc]; rfl, ?_⟩
      rw [List.map_append, List.mem_append]
      rintro (hlater | hlater)
      · exact hlast hlater
      · exact hne (List.mem_singleton.mp hlater)

/-- **Every run of puts** is held, behind what was held before. -/
theorem Holds.putAll (h : Holds fields puts) (entries : List (String × String)) :
    Holds (putAll fields entries) (puts ++ entries) := by
  induction entries generalizing fields puts with
  | nil => rwa [List.append_nil]
  | cons f entries ih =>
    have hnext := ih (h.put f.1 f.2)
    rwa [List.append_assoc] at hnext

example :
    putAll [] [("attributes", "first"), ("name", "x"), ("attributes", "second")] =
      [("attributes", "second"), ("name", "x")] := by
  decide

end Fields

/-! ### What a head shows -/

/-- The octets of a section before its content. -/
def Section.opening (p : Section) : Bytes :=
  lineBreak ++ (fieldLines (headersOf p.disposition p.contentType) ++ lineBreak)

theorem Section.bytes_eq (p : Section) : p.bytes = p.opening ++ (p.content ++ delimiter) := by
  simp only [bytes, opening, List.append_assoc]

end Multipart

namespace MultipartEncoder

open Multipart

variable (e : MultipartEncoder)

/-- A head is the sections of the fields behind the first boundary, and the opening of the section
of the file. -/
theorem head_eq_sections :
    e.head = dashBoundary ++ (e.fields.map fieldSection).flatMap Section.bytes ++
      (e.file.toSection []).opening := by
  have hnil : (e.file.toSection []).content = [] := rfl
  -- a row of sections ends with a delimiter, which stands behind the empty file on both sides
  have hrow := fieldParts_append e.fields true (e.file.toSection [])
  rw [Bool.true_and, if_pos rfl, List.flatMap_append, List.flatMap_singleton, Section.bytes_eq,
    hnil, List.nil_append] at hrow
  simp only [← List.append_assoc] at hrow
  exact List.append_cancel_right hrow

/-- The sections of a body fit between boundaries, unless a value, the file or its media type has
in it what would end it. -/
theorem sections_fit {file : Bytes} (hfields : ∀ f ∈ e.fields, ¬delimiter <:+: Text.utf8 f.2)
    (hfile : ¬delimiter <:+: file) (htype : '\r' ∉ e.file.mediaType.toList) :
    ∀ p ∈ e.sections file, p.Fits := by
  intro p hp
  rcases List.mem_append.mp hp with hfield | hlast
  · obtain ⟨f, hf, rfl⟩ := List.mem_map.mp hfield
    exact fieldSection_fits (hfields f hf)
  · obtain rfl := List.mem_singleton.mp hlast
    exact FilePart.toSection_fits htype hfile

/-- An encoder **shows** the puts of its fields. -/
structure ShowsPuts (e : MultipartEncoder) (puts : List (String × String)) : Prop where
  /-- Its fields hold the puts: each key once, in the order of the first puts, with the last
  value. -/
  fields : Fields.Holds e.fields puts
  /-- Its head has one section for each field, in their order, and behind them all nothing but what
  opens the section of the file. -/
  head : e.head = dashBoundary ++ (e.fields.map fieldSection).flatMap Section.bytes ++
    (e.file.toSection []).opening
  /-- So a reader of the body finds one part for each field, in their order, and the file behind
  them, unless a content has in it what would end it. -/
  parts : ∀ file : Bytes, (∀ f ∈ e.fields, ¬delimiter <:+: Text.utf8 f.2) → ¬delimiter <:+: file →
    '\r' ∉ e.file.mediaType.toList →
    parts? (e.head ++ file ++ tail) = some (e.fields.map fieldPart ++ [e.file.toPart file])

variable {e}

theorem showsPuts_of_holds {puts : List (String × String)} (h : Fields.Holds e.fields puts) :
    e.ShowsPuts puts where
  fields := h
  head := e.head_eq_sections
  parts := by
    intro file hfields hfile htype
    have hne : e.sections file ≠ [] :=
      List.append_ne_nil_of_right_ne_nil _ (List.cons_ne_nil _ _)
    have hparts := parts?_sections hne (e.sections_fit hfields hfile htype)
    rw [body_eq_sections, hparts, sections, List.map_append, List.map_map]
    rfl

/-- **Fields in order.** After every run of operations, an encoder that began without fields shows
exactly what has been put since. One that began with the fields of an endpoint, in whose list a key
may come again, shows these as puts before all others. -/
theorem showsPuts (e : MultipartEncoder) (target : UploadTarget) (filename : String)
    (source : FileSource) (operations : List EncoderOperation) :
    (EncoderUse.run { encoder := { e with fields := [] } } operations).encoder.ShowsPuts
        (operations.filterMap (·.field?)) ∧
      (EncoderUse.run { encoder := target.encoder filename source } operations).encoder.ShowsPuts
        (target.fields ++ operations.filterMap (·.field?)) := by
  have hrun : ∀ (u : EncoderUse) (puts : List (String × String)),
      Fields.Holds u.encoder.fields puts →
      (u.run operations).encoder.ShowsPuts (puts ++ operations.filterMap (·.field?)) := by
    intro u puts h
    have hfields : (u.run operations).encoder.fields =
        Fields.putAll u.encoder.fields (operations.filterMap (·.field?)) :=
      congrArg (·.fields) (u.outline_run operations)
    refine showsPuts_of_holds ?_
    rw [hfields]
    exact h.putAll _
  refine ⟨hrun _ [] Fields.holds_nil, hrun _ target.fields ?_⟩
  exact Fields.holds_nil.putAll target.fields

end MultipartEncoder

end ContentClient
