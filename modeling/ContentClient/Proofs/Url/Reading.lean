import Mathlib.Data.List.TakeWhile
import ContentClient.Proofs.Url.Hosts
import ContentClient.Proofs.Url.Segments

/-!
# Reading plain URLs

A URL of the web is **plain** if it is made of a host that is shown as it is written, a port at
most, and plain segments. It is read as what it is made of (`parse_plain`); of its port, which may
have zeros in front, the number is kept. Plain segments between slashes are a reference that takes
the place of the last segment of the base (`resolve_plain`).
-/

namespace ContentClient

/-- A port as it is written: its number in decimal digits, behind any number of zeros. -/
structure PortNumeral where
  zeros : Nat := 0
  number : Nat
  deriving DecidableEq, Repr

namespace PortNumeral

/-- The digits of the port. -/
def text (p : PortNumeral) : String :=
  String.ofList (List.replicate p.zeros '0') ++ toString p.number

theorem toList_text (p : PortNumeral) :
    p.text.toList = List.replicate p.zeros '0' ++ Nat.toDigits 10 p.number := by
  rw [text, String.toList_append, String.toList_ofList, Nat.toString_eq_ofList_toDigits,
    String.toList_ofList]

theorem isDigit_of_mem_text {p : PortNumeral} {c : Char} (h : c ∈ p.text.toList) :
    c.isDigit = true := by
  rw [toList_text] at h
  obtain h | h := List.mem_append.mp h
  · rw [List.eq_of_mem_replicate h]
    rfl
  · exact Nat.isDigit_of_mem_toDigits (by decide) (by decide) h

/-- Zeros in front of a number do not change it. -/
theorem digitsValue?_text (p : PortNumeral) :
    Text.digitsValue? 10 0 p.text.toList = some p.number := by
  have hzeros : ∀ n, Nat.ofDigitChars 10 (List.replicate n '0') 0 = 0 := by
    intro n
    induction n with
    | zero => rfl
    | succ n ih => rw [List.replicate_succ, Nat.ofDigitChars_cons, Nat.mul_zero]; exact ih
  rw [Text.digitsValue?_of_isDigit fun c hc => isDigit_of_mem_text hc, toList_text,
    Nat.ofDigitChars_append, hzeros, Nat.ofDigitChars_toDigits (by decide) (by decide)]

theorem text_ne_nil (p : PortNumeral) : p.text.toList ≠ [] := by
  rw [toList_text]
  exact fun h => Nat.toDigits_ne_nil (List.append_eq_nil_iff.mp h).2

end PortNumeral

/-- A scheme of the web, a host that is shown as it is written, and a port at most. -/
structure PlainOrigin where
  scheme : String
  host : Host
  port : Option PortNumeral := none
  scheme_web : scheme = "http" ∨ scheme = "https"
  host_reads : Host.parse host.text.toList = .ok host
  /-- A port that is shown is not that of the scheme. -/
  port_shown : ∀ p ∈ port, p.number ≤ 65535 ∧ defaultPort? scheme ≠ some p.number

namespace PlainOrigin

/-- The port as it is written behind the host, if there is one. -/
def portText (o : PlainOrigin) : String :=
  match o.port with
  | none => ""
  | some p => ":" ++ p.text

/-- The origin as it is written. -/
def text (o : PlainOrigin) : String := o.scheme ++ "://" ++ o.host.text ++ o.portText

/-- The port as a URL shows it, without the zeros in front of it. -/
def shownPort (o : PlainOrigin) : String :=
  match o.port with
  | none => ""
  | some p => ":" ++ toString p.number

/-- The origin as a URL shows it. -/
def shown (o : PlainOrigin) : String := o.scheme ++ "://" ++ o.host.text ++ o.shownPort

/-- The authority for which it stands. -/
def authority (o : PlainOrigin) : Authority :=
  { host := o.host, port := o.port.map (·.number) }

/-- The URL of a path below it. -/
def url (o : PlainOrigin) (segments : List String) : Url :=
  { scheme := o.scheme, authority := some o.authority, path := .segments segments }

variable (o : PlainOrigin)

theorem ofScheme_scheme : SchemeKind.ofScheme o.scheme = .web := by
  rcases o.scheme_web with h | h <;> rw [h] <;> decide

theorem kind_url (segments : List String) : (o.url segments).kind = .web := o.ofScheme_scheme

theorem isShown_host : Host.IsShown o.host.text.toList := Host.isShown_of_parse o.host_reads

end PlainOrigin

namespace Url

variable {o : PlainOrigin} {segments : List String}

/-! ### Characters of an authority -/

/-- A character that is part of a host or a port wherever it stands in an authority. -/
structure IsOfAuthority (c : Char) : Prop where
  visible : Text.IsVisible c
  inside : endsAuthority .web c = false
  plain : c ≠ '@'

instance (c : Char) : Decidable (IsOfAuthority c) :=
  decidable_of_iff (Text.IsVisible c ∧ endsAuthority .web c = false ∧ c ≠ '@')
    ⟨fun h => ⟨h.1, h.2.1, h.2.2⟩, fun h => ⟨h.visible, h.inside, h.plain⟩⟩

theorem isOfAuthority_of_isNameChar {c : Char} (h : Domain.IsNameChar c) : IsOfAuthority c :=
  Text.forall_ascii (p := fun c => Domain.IsNameChar c → IsOfAuthority c) (of_decide_eq_true h.1)
    (by decide) h

theorem isOfAuthority_of_isShown {cs : List Char} (h : Host.IsShown cs) :
    ∀ c ∈ cs, IsOfAuthority c := by
  intro c hc
  cases h with
  | name hne h => exact isOfAuthority_of_isNameChar (h c hc)
  | groups h =>
    simp only [List.cons_append, List.mem_cons, List.mem_append, List.not_mem_nil, or_false] at hc
    obtain rfl | hc | rfl := hc
    · decide
    · obtain rfl | hc := h c hc
      · decide
      · have hall : ∀ d ∈ "0123456789abcdef".toList, IsOfAuthority d :=
          Text.forall_mem_of_all (by decide)
        exact hall c hc
    · decide

theorem isOfAuthority_of_mem_portText {c : Char} (h : c ∈ o.portText.toList) :
    IsOfAuthority c := by
  rw [PlainOrigin.portText] at h
  split at h
  · cases h
  · obtain h | h := List.mem_append.mp (String.toList_append ▸ h)
    · rw [List.mem_singleton.mp h]
      decide
    · exact isOfAuthority_of_isNameChar
        (Domain.isNameChar_of_isDigit (PortNumeral.isDigit_of_mem_text h))

/-- The origin as it is written is visible throughout. -/
theorem isVisible_of_mem_text {c : Char} (h : c ∈ o.text.toList) : Text.IsVisible c := by
  have hscheme : ∀ c ∈ o.scheme.toList, Text.IsVisible c := by
    rcases o.scheme_web with h | h <;> rw [h] <;> exact Text.forall_mem_of_all (by decide)
  have hcolon : ∀ c ∈ "://".toList, Text.IsVisible c := Text.forall_mem_of_all (by decide)
  simp only [PlainOrigin.text, String.toList_append, List.mem_append] at h
  obtain ((h | h) | h) | h := h
  · exact hscheme c h
  · exact hcolon c h
  · exact (isOfAuthority_of_isShown o.isShown_host c h).visible
  · exact (isOfAuthority_of_mem_portText h).visible

theorem isOfAuthority_of_mem {c : Char} (h : c ∈ o.host.text.toList ++ o.portText.toList) :
    IsOfAuthority c := by
  obtain h | h := List.mem_append.mp h
  · exact isOfAuthority_of_isShown o.isShown_host c h
  · exact isOfAuthority_of_mem_portText h

/-! ### Host and port -/

theorem hostPart_outside {cs : List Char} (h : ∀ c ∈ cs, c ≠ ':' ∧ c ≠ '[') (rest : List Char) :
    hostPart false (cs ++ rest) = cs ++ hostPart false rest := by
  induction cs with
  | nil => rfl
  | cons c cs ih =>
    obtain ⟨hcolon, hopen⟩ := h c List.mem_cons_self
    have hrest := ih fun d hd => h d (List.mem_cons_of_mem c hd)
    simp [hostPart, hcolon, hopen, hrest]

theorem hostPart_inside {cs : List Char} (h : ∀ c ∈ cs, c ≠ '[' ∧ c ≠ ']') (rest : List Char) :
    hostPart true (cs ++ rest) = cs ++ hostPart true rest := by
  induction cs with
  | nil => rfl
  | cons c cs ih =>
    obtain ⟨hopen, hclose⟩ := h c List.mem_cons_self
    have hrest := ih fun d hd => h d (List.mem_cons_of_mem c hd)
    simp [hostPart, hopen, hclose, hrest]

/-- A host ends where its text does if nothing or a colon stands behind it. -/
theorem hostPart_append {cs : List Char} (h : Host.IsShown cs) {rest : List Char}
    (hrest : hostPart false rest = []) : hostPart false (cs ++ rest) = cs := by
  cases h with
  | name hne h =>
    have hnames : ∀ c ∈ cs, c ≠ ':' ∧ c ≠ '[' := by
      refine fun c hc => ⟨?_, ?_⟩ <;> rintro rfl <;> exact absurd (h _ hc) (by decide)
    rw [hostPart_outside hnames, hrest, List.append_nil]
  | groups h =>
    rename_i cs
    have hgroups : ∀ c ∈ cs, c ≠ '[' ∧ c ≠ ']' := by
      refine fun c hc => ⟨?_, ?_⟩ <;> rintro rfl <;> exact absurd (h _ hc) (by decide)
    calc hostPart false ('[' :: cs ++ [']'] ++ rest)
        = '[' :: hostPart true (cs ++ ']' :: rest) := by simp [hostPart]
      _ = '[' :: cs ++ ']' :: hostPart false rest := by
        rw [hostPart_inside hgroups]
        simp [hostPart]
      _ = '[' :: cs ++ [']'] := by rw [hrest]

theorem hostPart_portText (o : PlainOrigin) : hostPart false o.portText.toList = [] := by
  rw [PlainOrigin.portText]
  split
  · rfl
  · rw [String.toList_append]
    rfl

/-- The digits of a port are read as its number. -/
theorem readPort_text {scheme : String} {p : PortNumeral} (hmax : p.number ≤ 65535)
    (hdefault : defaultPort? scheme ≠ some p.number) :
    readPort scheme p.text.toList = .ok (some p.number, []) := by
  have hdigits : p.text.toList.takeWhile Char.isDigit = p.text.toList :=
    List.takeWhile_eq_self_iff.mpr fun c hc => PortNumeral.isDigit_of_mem_text hc
  have hempty : p.text.toList.isEmpty = false := List.isEmpty_eq_false_iff.mpr p.text_ne_nil
  unfold readPort
  dsimp only
  rw [hdigits, List.drop_length, p.digitsValue?_text, Option.getD_some]
  simp [Nat.not_lt.mpr hmax, hdefault, hempty]

theorem readHostAndPort_plain (o : PlainOrigin) :
    readHostAndPort o.scheme (o.host.text.toList ++ o.portText.toList) =
      .ok (o.host, o.port.map (·.number), []) := by
  have hpart := hostPart_append o.isShown_host (hostPart_portText o)
  have hread : readHost .web o.host.text.toList = .ok o.host := by
    have hne : o.host.text.toList.isEmpty = false :=
      List.isEmpty_eq_false_iff.mpr o.isShown_host.ne_nil
    rw [readHost, if_pos (by rfl), hne, if_neg Bool.false_ne_true, o.host_reads]
  have hempty : o.host ≠ .empty := by
    intro hempty
    refine o.isShown_host.ne_nil ?_
    rw [hempty]
    rfl
  unfold readHostAndPort
  dsimp only
  rw [hpart, o.ofScheme_scheme, hread, List.drop_left, PlainOrigin.portText]
  cases hport : o.port with
  | none => rfl
  | some p =>
    obtain ⟨hmax, hdefault⟩ := o.port_shown p hport
    have htext : (":" ++ p.text).toList = ':' :: p.text.toList := String.toList_append
    dsimp only
    rw [htext]
    show (if o.host = .empty then _ else _) = _
    rw [if_neg hempty, readPort_text hmax hdefault]
    rfl

theorem splitLast?_of_not_mem {sep : Char} {s : List Char} (h : sep ∉ s) :
    splitLast? sep s = none := by
  have hall : s.reverse.takeWhile (· ≠ sep) = s.reverse := by
    refine List.takeWhile_eq_self_iff.mpr fun c hc => decide_eq_true ?_
    rintro rfl
    exact h (List.mem_reverse.mp hc)
  unfold splitLast?
  rw [hall, List.reverse_reverse]
  exact if_pos rfl

/-- An authority is read up to the slash behind it. -/
theorem readAuthority_plain (o : PlainOrigin) (rest : List Char) :
    readAuthority o.scheme (o.host.text.toList ++ o.portText.toList ++ '/' :: rest) =
      .ok (o.authority, '/' :: rest) := by
  have hinside : ∀ c ∈ o.host.text.toList ++ o.portText.toList,
      (!endsAuthority .web c) = true := fun c hc => by rw [(isOfAuthority_of_mem hc).inside]; rfl
  have hplain : '@' ∉ o.host.text.toList ++ o.portText.toList := fun hmem =>
    (isOfAuthority_of_mem hmem).plain rfl
  have hread := readHostAndPort_plain o
  -- from here on, all that counts of the authority is that it holds neither its end nor a user
  generalize o.host.text.toList ++ o.portText.toList = text at hinside hplain hread
  have htake : ('/' :: rest).takeWhile (!endsAuthority .web ·) = [] := rfl
  have hdrop : ('/' :: rest).dropWhile (!endsAuthority .web ·) = '/' :: rest := rfl
  unfold readAuthority
  dsimp only
  rw [o.ofScheme_scheme, List.takeWhile_append_of_pos hinside,
    List.dropWhile_append_of_pos hinside, htake, hdrop, List.append_nil,
    splitLast?_of_not_mem hplain]
  dsimp only
  rw [hread]
  rfl

/-! ### Paths -/

/-- A text without a question mark and a number sign is a path and nothing else. -/
theorem pathPart_of_not_endsPath {s : List Char} (h : ∀ c ∈ s, endsPath c = false) :
    pathPart s = s ∧ endingPart s = [] := by
  have hinside : ∀ c ∈ s, (!endsPath c) = true := fun c hc => by rw [h c hc]; rfl
  exact ⟨List.takeWhile_eq_self_iff.mpr hinside, List.dropWhile_eq_nil_iff.mpr hinside⟩

theorem endsPath_of_mem_segments (h : ∀ segment ∈ segments, UrlPath.IsPlain segment) :
    ∀ c ∈ ("/".intercalate segments).toList, endsPath c = false := by
  intro c hc
  obtain rfl | hc := UrlPath.mem_intercalate_of_isPlain h hc
  · rfl
  · exact UrlPath.endsPath_of_isUnreserved hc

/-- What stands behind the two slashes of a plain URL is read as an authority and a path. -/
theorem readBehindSlashes_plain (o : PlainOrigin) (hne : segments ≠ [])
    (hsegments : ∀ segment ∈ segments, UrlPath.IsPlain segment) :
    readBehindSlashes o.scheme (o.host.text.toList ++ o.portText.toList ++
        '/' :: ("/".intercalate segments).toList) =
      .ok (o.url segments) := by
  have hslash : ∀ c ∈ '/' :: ("/".intercalate segments).toList, endsPath c = false :=
    List.forall_mem_cons.mpr ⟨rfl, endsPath_of_mem_segments hsegments⟩
  obtain ⟨hpath, hending⟩ := pathPart_of_not_endsPath hslash
  have hroot : UrlPath.ofRoot .web ('/' :: ("/".intercalate segments).toList) = segments := by
    have happend := UrlPath.append_intercalate hne hsegments []
    rw [List.nil_append] at happend
    exact happend
  unfold readBehindSlashes
  rw [readAuthority_plain]
  show Except.ok _ = _
  rw [hpath, hending, o.ofScheme_scheme, hroot]
  rfl

/-! ### Whole URLs -/

/-- A text without blanks is clean. -/
theorem clean_eq_self {s : List Char} (h : ∀ c ∈ s, 0x20 < c.toNat) : clean s = s := by
  have htrim : Text.trimWhere (·.toNat ≤ 0x20) s = s := by
    cases s with
    | nil => rfl
    | cons c s =>
      have hkept := Text.trimWhere_append (p := (·.toNat ≤ 0x20)) (List.cons_ne_nil c s)
        (List.forall_mem_nil _) (List.forall_mem_nil _)
        (fun d hd => decide_eq_false (Nat.not_le.mpr (h d hd)))
      rwa [List.nil_append, List.append_nil] at hkept
  rw [clean, htrim, List.filter_eq_self]
  intro c hc
  have hvisible := h c hc
  refine decide_eq_true ⟨?_, ?_, ?_⟩ <;> rintro rfl <;> exact absurd hvisible (by decide)

theorem splitScheme?_of_web {scheme : String} (h : scheme = "http" ∨ scheme = "https")
    (rest : List Char) : splitScheme? (scheme.toList ++ ':' :: rest) = some (scheme, rest) := by
  rcases h with rfl | rfl <;> rfl

/-- Two slashes behind a scheme of the web open an authority. -/
theorem readScheme_plain (o : PlainOrigin) (rest : List Char) :
    readScheme none o.scheme ('/' :: '/' :: (o.host.text.toList ++ rest)) =
      readBehindSlashes o.scheme (o.host.text.toList ++ rest) := by
  have hhost : (o.host.text.toList ++ rest).takeWhile isAnySlash = [] := by
    cases htext : o.host.text.toList with
    | nil => exact absurd htext o.isShown_host.ne_nil
    | cons c cs =>
      have hc := isOfAuthority_of_isShown o.isShown_host c (htext ▸ List.mem_cons_self)
      have hslash : isAnySlash c = false := (Bool.or_eq_false_iff.mp hc.inside).1
      rw [List.cons_append, List.takeWhile_cons_of_neg (by rw [hslash]; exact Bool.false_ne_true)]
  have hslashes : ('/' :: '/' :: (o.host.text.toList ++ rest)).takeWhile isAnySlash =
      ['/', '/'] := by
    rw [List.takeWhile_cons_of_pos rfl, List.takeWhile_cons_of_pos rfl, hhost]
  unfold readScheme
  rw [o.ofScheme_scheme, hslashes]
  rfl

/-- A plain URL as it is written is visible throughout. -/
theorem isVisible_of_mem_plain {c : Char}
    (hsegments : ∀ segment ∈ segments, UrlPath.IsPlain segment)
    (h : c ∈ (o.text ++ "/" ++ "/".intercalate segments).toList) : Text.IsVisible c := by
  rw [String.toList_append, String.toList_append, List.mem_append, List.mem_append] at h
  obtain (h | h) | h := h
  · exact isVisible_of_mem_text h
  · rw [List.mem_singleton.mp h]
    decide
  · exact UrlPath.isVisible_of_mem_intercalate hsegments h

/-- A plain URL is read as what it is made of. -/
theorem parse_plain (o : PlainOrigin) (hne : segments ≠ [])
    (hsegments : ∀ segment ∈ segments, UrlPath.IsPlain segment) :
    parse (o.text ++ "/" ++ "/".intercalate segments) = .ok (o.url segments) := by
  have hclean : ∀ c ∈ (o.text ++ "/" ++ "/".intercalate segments).toList, 0x20 < c.toNat :=
    fun c hc => (isVisible_of_mem_plain hsegments hc).1
  have htext : (o.text ++ "/" ++ "/".intercalate segments).toList =
      o.scheme.toList ++ ':' :: '/' :: '/' ::
        (o.host.text.toList ++ (o.portText.toList ++ '/' :: ("/".intercalate segments).toList)) := by
    simp only [PlainOrigin.text, String.toList_append, List.append_assoc]
    rfl
  rw [parse, clean_eq_self hclean, htext, readClean, splitScheme?_of_web o.scheme_web]
  dsimp only
  rw [readScheme_plain, ← List.append_assoc, readBehindSlashes_plain o hne hsegments]

/-- A plain URL shows what it is made of. -/
theorem text_url (o : PlainOrigin) (segments : List String) :
    (o.url segments).text = o.shown ++ segmentsText segments := by
  have hauthority : o.authority.text = o.host.text ++ o.shownPort := by
    unfold Authority.text PlainOrigin.shownPort
    cases hport : o.port <;> simp [PlainOrigin.authority, Authority.hasCredentials, hport]
  have hpath : (o.url segments).pathText = segmentsText segments := by
    simp [pathText, PlainOrigin.url]
  calc (o.url segments).text
      = o.scheme ++ ":" ++ ("//" ++ o.authority.text) ++ (o.url segments).pathText ++ "" ++ "" :=
        rfl
    _ = o.scheme ++ (":" ++ "//") ++ o.host.text ++ o.shownPort ++ segmentsText segments := by
        rw [hauthority, hpath]
        simp only [String.append_assoc, String.append_empty]
    _ = o.shown ++ segmentsText segments := rfl

/-! ### References -/

/-- Plain segments between slashes take the place of the last segment of a base. -/
theorem resolve_plain (o : PlainOrigin) {first : String} {others : List String}
    (hne : first ≠ "") (h : ∀ segment ∈ first :: others, UrlPath.IsPlain segment)
    (segments : List String) :
    resolve (o.url segments) ("/".intercalate (first :: others)).toList =
      .ok (o.url (segments.dropLast ++ first :: others)) := by
  obtain ⟨c, rest, hopens, hc⟩ := UrlPath.exists_intercalate_cons hne h
  have hslash : isAnySlash c = false := UrlPath.isSlash_of_isUnreserved hc
  have hends : endsPath c = false := UrlPath.endsPath_of_isUnreserved hc
  obtain ⟨hpath, hending⟩ := pathPart_of_not_endsPath (endsPath_of_mem_segments h)
  have happend := UrlPath.append_intercalate (List.cons_ne_nil _ _) h segments.dropLast
  rw [hopens] at hpath hending happend ⊢
  unfold resolve
  rw [List.takeWhile_cons_of_neg (by rw [hslash]; exact Bool.false_ne_true)]
  dsimp only
  split
  · rename_i hnil
    cases hnil
  · rename_i heq
    rw [(List.cons.inj heq).1] at hends
    exact absurd hends (by decide)
  · rename_i heq
    rw [(List.cons.inj heq).1] at hends
    exact absurd hends (by decide)
  · have hsegments : (o.url segments).segments = segments := rfl
    rw [hpath, hending, o.kind_url, hsegments, happend]
    rfl

/-- Plain segments between slashes do not open with a scheme. -/
theorem splitScheme?_of_isPlain (h : ∀ segment ∈ segments, UrlPath.IsPlain segment) :
    splitScheme? ("/".intercalate segments).toList = none := by
  have hcolon : ':' ∉ ("/".intercalate segments).toList := by
    intro hmem
    obtain hslash | hmem := UrlPath.mem_intercalate_of_isPlain h hmem
    · exact absurd hslash (by decide)
    · exact absurd hmem (by decide)
  unfold splitScheme?
  split
  · rfl
  · split
    · rename_i hdrop
      -- what is left of a text is part of it
      have hsuffix := List.dropWhile_suffix isSchemeChar (l := ("/".intercalate segments).toList)
      rw [hdrop] at hsuffix
      exact absurd (hsuffix.mem List.mem_cons_self) hcolon
    · rfl

end Url

end ContentClient
