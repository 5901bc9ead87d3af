import ContentClient.Proofs.Client.Paths
import ContentClient.Proofs.Url.Reading

/-!
# Paths below a base

A base is **plain** if it has a scheme of the web, a host that is shown as it is written, a port at
most, and plain segments that are not empty. A client reads it with or without a slash at its end
and with any blanks around it, and resolves every path of plain segments below it: the path stands
behind all of the base, however many slashes open it. The main statement is `joinsBelow`.

A resolver takes away what follows the last slash of a base, and everything if a slash opens the
path. So the slash that a base gets and the slashes that a path loses are both needed for that.

The base is shown as it is written but for one thing: the zeros in front of its port are not shown
(`not_joinsBelow_zeros`).
-/

namespace ContentClient

/-- A base URL that is made of plain parts. -/
structure PlainBase extends PlainOrigin where
  segments : List String := []
  segments_plain : ∀ segment ∈ segments, segment ≠ "" ∧ UrlPath.IsPlain segment

namespace PlainBase

/-- The base as it is written, without a slash at its end. -/
def text (b : PlainBase) : String := b.toPlainOrigin.text ++ Url.segmentsText b.segments

/-- The base as a URL shows it, without a slash at its end. -/
def shown (b : PlainBase) : String := b.toPlainOrigin.shown ++ Url.segmentsText b.segments

/-- An option **writes** a base if it is its text, with a slash at the end or without one and with
any blanks around it. -/
def IsWrittenAs (b : PlainBase) (raw : String) : Prop :=
  ∃ before ending behind : String, raw = before ++ (b.text ++ ending) ++ behind ∧
    (ending = "" ∨ ending = "/") ∧
    (∀ c ∈ before.toList, Text.isBlank c = true) ∧ (∀ c ∈ behind.toList, Text.isBlank c = true)

variable (b : PlainBase)

/-- Without zeros in front of its port, a base is shown as it is written. -/
theorem shown_eq_text (h : ∀ p ∈ b.port, p.zeros = 0) : b.shown = b.text := by
  have hport : b.shownPort = b.portText := by
    unfold PlainOrigin.shownPort PlainOrigin.portText
    cases hport : b.port with
    | none => rfl
    | some p =>
      simp [PortNumeral.text, h p hport]
  rw [shown, text, PlainOrigin.shown, PlainOrigin.text, hport]

/-- The URL for which the base stands. -/
def url : Url := b.toPlainOrigin.url (b.segments ++ [""])

theorem isPlain_segments_concat : ∀ segment ∈ b.segments ++ [""], UrlPath.IsPlain segment := by
  intro segment hsegment
  obtain hsegment | hsegment := List.mem_append.mp hsegment
  · exact (b.segments_plain segment hsegment).2
  · rw [List.mem_singleton.mp hsegment]
    decide

theorem segments_concat_ne_nil : b.segments ++ [""] ≠ [] :=
  List.append_ne_nil_of_right_ne_nil _ (List.cons_ne_nil _ _)

/-- With a slash at its end, the base is a plain URL whose last segment is empty. -/
theorem text_slash :
    b.text ++ "/" = b.toPlainOrigin.text ++ "/" ++ "/".intercalate (b.segments ++ [""]) := by
  calc b.text ++ "/"
      = b.toPlainOrigin.text ++ (Url.segmentsText b.segments ++ Url.segmentsText [""]) :=
        String.append_assoc
    _ = b.toPlainOrigin.text ++ Url.segmentsText (b.segments ++ [""]) := by
        rw [Url.segmentsText_append]
    _ = b.toPlainOrigin.text ++ "/" ++ "/".intercalate (b.segments ++ [""]) := by
        rw [Url.segmentsText_eq b.segments_concat_ne_nil, String.append_assoc]

theorem text_url : b.url.text = b.shown ++ "/" := by
  rw [url, Url.text_url, Url.segmentsText_append, ← String.append_assoc]
  rfl

/-- Below the base, segments are shown behind it. -/
theorem text_url_append {path : List String} (hne : path ≠ []) :
    (b.toPlainOrigin.url (b.segments ++ path)).text = b.shown ++ "/" ++ "/".intercalate path := by
  rw [Url.text_url, Url.segmentsText_append, Url.segmentsText_eq hne, ← String.append_assoc,
    ← String.append_assoc]
  rfl

/-! ### Reading -/

theorem isVisible_of_mem_text_slash {c : Char} (h : c ∈ (b.text ++ "/").toList) :
    Text.IsVisible c :=
  Url.isVisible_of_mem_plain b.isPlain_segments_concat (b.text_slash ▸ h)

theorem getLast?_append_ne {c : Char} {front back : List Char} (hne : back ≠ [])
    (h : ∀ d ∈ back, d ≠ c) : (front ++ back).getLast? ≠ some c := by
  rw [List.getLast?_append_of_ne_nil _ hne]
  exact fun hlast => h c (List.mem_of_getLast? hlast) rfl

/-- The last character of the base is one of a host, a port or a segment. -/
theorem getLast?_text : b.text.toList.getLast? ≠ some '/' := by
  obtain hnil | ⟨init, last, hconcat⟩ := List.eq_nil_or_concat b.segments
  · have htext : b.text.toList = (b.scheme ++ "://").toList ++
        (b.host.text.toList ++ b.portText.toList) := by
      rw [text, hnil]
      simp [PlainOrigin.text, Url.segmentsText]
    rw [htext]
    refine getLast?_append_ne (List.append_ne_nil_of_left_ne_nil b.isShown_host.ne_nil _) ?_
    rintro c hc rfl
    exact absurd (Url.isOfAuthority_of_mem hc).inside (by decide)
  · obtain ⟨hne, hplain⟩ := b.segments_plain last (by simp [hconcat])
    have htext : b.text.toList = (b.toPlainOrigin.text ++ Url.segmentsText init ++ "/").toList ++
        last.toList := by
      rw [text, hconcat, List.concat_eq_append, Url.segmentsText_append]
      simp [Url.segmentsText]
    rw [htext]
    refine getLast?_append_ne (fun hnil => hne (String.toList_eq_nil_iff.mp hnil)) ?_
    rintro c hc rfl
    exact absurd (hplain.unreserved _ hc) (by decide)

/-- The blanks around the base are trimmed off. -/
theorem trim_of_isWrittenAs {raw : String} (h : b.IsWrittenAs raw) :
    Text.trim raw = b.text ∨ Text.trim raw = b.text ++ "/" := by
  obtain ⟨before, ending, behind, rfl, hending, hbefore, hbehind⟩ := h
  have hne : (b.text ++ ending).toList ≠ [] := by
    simp [text, PlainOrigin.text]
  have htext : ∀ c ∈ (b.text ++ ending).toList, Text.isBlank c = false := by
    intro c hc
    refine Text.isBlank_of_isVisible (b.isVisible_of_mem_text_slash ?_)
    obtain rfl | rfl := hending
    · rw [String.append_empty] at hc
      rw [String.toList_append]
      exact List.mem_append_left _ hc
    · exact hc
  have htrim : Text.trim (before ++ (b.text ++ ending) ++ behind) = b.text ++ ending := by
    rw [Text.trim, String.toList_append, String.toList_append,
      Text.trimWhere_append hne hbefore hbehind htext, String.ofList_toList]
  rw [htrim]
  obtain rfl | rfl := hending
  · exact .inl String.append_empty
  · exact .inr rfl

/-- However it is written, the base gets one slash at its end. -/
theorem baseText_of_isWrittenAs {raw : String} (h : b.IsWrittenAs raw) :
    Client.baseText raw = b.text ++ "/" := by
  unfold Client.baseText
  obtain htrim | htrim := b.trim_of_isWrittenAs h
  · rw [htrim]
    exact if_neg b.getLast?_text
  · have hslash : (b.text ++ "/").toList.getLast? = some '/' := by simp
    rw [htrim]
    exact if_pos hslash

theorem readBase_of_isWrittenAs {raw : String} (h : b.IsWrittenAs raw) (option : String) :
    Client.readBase option raw = .ok b.url := by
  have hparse := Url.parse_plain b.toPlainOrigin b.segments_concat_ne_nil b.isPlain_segments_concat
  rw [← b.text_slash] at hparse
  unfold Client.readBase
  dsimp only
  rw [b.baseText_of_isWrittenAs h, hparse]
  rfl

end PlainBase

namespace Client

/-- Paths lead **below** a base if plain segments between slashes, behind any number of slashes, are
added to what the base shows. -/
def JoinsBelow (shown : String) (urlOf : String → Except ApiError Url) : Prop :=
  ∀ (slashes : Nat) (path : List String), path ≠ [] →
    (∀ segment ∈ path, segment ≠ "" ∧ UrlPath.IsPlain segment) →
      ∃ u, urlOf (String.ofList (List.replicate slashes '/') ++ "/".intercalate path) = .ok u ∧
        u.text = shown ++ "/" ++ "/".intercalate path

/-- What becomes of an option for a base. -/
structure Keeps (raw shown : String) : Prop where
  /-- It is read as a base that ends in a slash. -/
  reads : ∀ option, ∃ u, readBase option raw = .ok u ∧ u.text = shown ++ "/"
  /-- The paths of a client lead below its base. -/
  api : ∀ a o clock c, build a o clock = .ok c → o.baseUrl = raw → JoinsBelow shown c.apiUrl
  /-- So do its paths for uploads. -/
  upload : ∀ a o clock c, build a o clock = .ok c → o.baseUploadUrl = raw →
    JoinsBelow shown c.uploadUrl

/-! ### Paths -/

/-- The slashes that open a path are not part of the reference that is resolved for it. -/
theorem reference_of_isPlain (slashes : Nat) {first : String} {others : List String}
    (hne : first ≠ "") (h : ∀ segment ∈ first :: others, UrlPath.IsPlain segment) :
    reference (String.ofList (List.replicate slashes '/') ++ "/".intercalate (first :: others)) =
      ("/".intercalate (first :: others)).toList := by
  have hslashes : ∀ c ∈ List.replicate slashes '/', decide (c = '/') = true := fun c hc =>
    decide_eq_true (List.eq_of_mem_replicate hc)
  obtain ⟨c, rest, hopens, hc⟩ := UrlPath.exists_intercalate_cons hne h
  have hslash : c ≠ '/' := by
    rintro rfl
    exact absurd hc (by decide)
  rw [reference, String.toList_append, String.toList_ofList,
    List.dropWhile_append_of_pos hslashes, hopens,
    List.dropWhile_cons_of_neg (by simpa using hslash), ← hopens]
  exact Url.clean_eq_self fun d hd => (UrlPath.isVisible_of_mem_intercalate h hd).1

theorem joinsBelow_url (b : PlainBase) : JoinsBelow b.shown (resolve b.url) := by
  intro slashes path hne hpath
  cases path with
  | nil => exact absurd rfl hne
  | cons first others =>
    have hfirst := (hpath first List.mem_cons_self).1
    have hplain : ∀ segment ∈ first :: others, UrlPath.IsPlain segment := fun s hs => (hpath s hs).2
    have hreference := reference_of_isPlain slashes hfirst hplain
    have hresolve := Url.resolve_plain b.toPlainOrigin hfirst hplain (b.segments ++ [""])
    rw [List.dropLast_concat] at hresolve
    refine ⟨b.toPlainOrigin.url (b.segments ++ first :: others), ?_, b.text_url_append hne⟩
    have hkind : b.url.kind = .web := b.toPlainOrigin.kind_url _
    refine (resolve_eq_ok_iff hkind rfl ?_).mpr ?_ <;> rw [hreference]
    · exact Url.splitScheme?_of_isPlain hplain
    · exact hresolve

/-- **Bases.** However a plain base is written, it is read, and every path of plain segments leads
below it, for the API and for uploads alike. It is shown as it is written if no zeros stand in front
of its port. -/
theorem joinsBelow (b : PlainBase) {raw : String} (h : b.IsWrittenAs raw) :
    Keeps raw b.shown ∧ ((∀ p ∈ b.port, p.zeros = 0) → b.shown = b.text) := by
  have hread : ∀ {option : String} {base : Url}, readBase option raw = .ok base → base = b.url := by
    intro option base hbase
    rw [b.readBase_of_isWrittenAs h] at hbase
    exact (Except.ok.inj hbase).symm
  refine ⟨⟨fun option => ⟨b.url, b.readBase_of_isWrittenAs h option, b.text_url⟩, ?_, ?_⟩,
    b.shown_eq_text⟩
  · rintro a o clock c hbuild rfl
    have hbase := hread (readBase_of_build hbuild).1
    show JoinsBelow b.shown (resolve c.baseUrl)
    rw [hbase]
    exact joinsBelow_url b
  · rintro a o clock c hbuild rfl
    have hbase := hread (readBase_of_build hbuild).2
    show JoinsBelow b.shown (resolve c.baseUploadUrl)
    rw [hbase]
    exact joinsBelow_url b

/-! ### A base with a port -/

/-- A base with a port behind some zeros. -/
def portBase (zeros : Nat) : PlainBase where
  scheme := "http"
  host := .name "api.test"
  port := some { zeros := zeros, number := 8080 }
  segments := ["2.0"]
  scheme_web := .inl rfl
  host_reads := by decide +kernel
  port_shown := by
    intro p hp
    obtain rfl := Option.some.inj hp
    show 8080 ≤ 65535 ∧ defaultPort? "http" ≠ some 8080
    decide
  segments_plain := by decide

/-- A client is built on such a base, and resolves its paths below what is shown of it. -/
theorem exists_build_portBase {zeros : Nat} {raw : String} (h : (portBase zeros).IsWrittenAs raw) :
    ∃ c, build "Bearer token" { baseUrl := raw } .system = .ok c ∧
      JoinsBelow (portBase zeros).shown c.apiUrl := by
  have hread := (portBase zeros).readBase_of_isWrittenAs h
  have hupload : (readBase "base_upload_url" defaultBaseUploadUrl).isOk = true := by
    decide +kernel
  obtain ⟨c, hbuild⟩ : ∃ c, build "Bearer token" { baseUrl := raw } .system = .ok c := by
    refine exists_build _ _ (fun field hfield => by cases hfield) ?_ hupload
    show (readBase "base_url" raw).isOk = true
    rw [hread]
    rfl
  have hbase := (readBase_of_build hbuild).1
  rw [hread] at hbase
  refine ⟨c, hbuild, ?_⟩
  show JoinsBelow _ (resolve c.baseUrl)
  rw [← Except.ok.inj hbase]
  exact joinsBelow_url _

/-- A port without zeros in front of it is shown as it is written. -/
theorem joinsBelow_port : ∃ c,
    (portBase 0).IsWrittenAs "\thttp://api.test:8080/2.0/ " ∧
      build "Bearer token" { baseUrl := "\thttp://api.test:8080/2.0/ " } .system = .ok c ∧
      JoinsBelow "http://api.test:8080/2.0" c.apiUrl := by
  have hwritten : (portBase 0).IsWrittenAs "\thttp://api.test:8080/2.0/ " :=
    ⟨"\t", "/", " ", by decide +kernel, .inr rfl, List.all_eq_true.mp (by decide),
      List.all_eq_true.mp (by decide)⟩
  obtain ⟨c, hbuild, -⟩ := exists_build_portBase hwritten
  obtain ⟨hkeeps, hshown⟩ := joinsBelow (portBase 0) hwritten
  have hzeros : ∀ p ∈ (portBase 0).port, p.zeros = 0 := by
    intro p hp
    obtain rfl := Option.some.inj hp
    rfl
  have htext : (portBase 0).text = "http://api.test:8080/2.0" := by decide +kernel
  rw [hshown hzeros, htext] at hkeeps
  exact ⟨c, hwritten, hbuild, hkeeps.api _ _ _ c hbuild rfl⟩

/-- Behind a port with a zero in front of it, no path leads below the base as it is written. -/
theorem not_joinsBelow_zeros : ∃ c u,
    (portBase 1).IsWrittenAs "http://api.test:08080/2.0/" ∧
      build "Bearer token" { baseUrl := "http://api.test:08080/2.0/" } .system = .ok c ∧
      c.apiUrl "users/me" = .ok u ∧ u.text = "http://api.test:8080/2.0/users/me" ∧
      (portBase 1).text = "http://api.test:08080/2.0" ∧
      ¬JoinsBelow (portBase 1).text c.apiUrl := by
  have hwritten : (portBase 1).IsWrittenAs "http://api.test:08080/2.0/" :=
    ⟨"", "/", "", by decide +kernel, .inr rfl, List.all_eq_true.mp (by decide),
      List.all_eq_true.mp (by decide)⟩
  have htext : (portBase 1).text = "http://api.test:08080/2.0" := by decide +kernel
  have hshown : (portBase 1).shown = "http://api.test:8080/2.0" := by decide +kernel
  obtain ⟨c, hbuild, hjoins⟩ := exists_build_portBase hwritten
  have hpath : ∀ segment ∈ ["users", "me"], segment ≠ "" ∧ UrlPath.IsPlain segment := by decide
  obtain ⟨u, hurl, hu⟩ := hjoins 0 ["users", "me"] (List.cons_ne_nil _ _) hpath
  refine ⟨c, u, hwritten, hbuild, hurl, by rw [hu, hshown]; decide +kernel, htext, fun hbelow => ?_⟩
  obtain ⟨v, hother, hv⟩ := hbelow 0 ["users", "me"] (List.cons_ne_nil _ _) hpath
  rw [hurl] at hother
  obtain rfl := Except.ok.inj hother
  rw [hu, hshown, htext] at hv
  exact absurd hv (by decide +kernel)

end Client

end ContentClient
