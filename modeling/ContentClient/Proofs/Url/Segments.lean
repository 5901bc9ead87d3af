import ContentClient.Proofs.Text.Ascii
import ContentClient.Proofs.Text.Parts
import ContentClient.Url.Parse

/-!
# Plain segments

A segment of unreserved characters that is not made of dots alone stands in a path as it is written.
So plain segments between slashes are added to a path of the web as they are (`append_intercalate`),
and its text shows them so (`segmentsText_eq`).
-/

namespace ContentClient

namespace UrlPath

/-- Whether a character has no meaning of its own in any part of a URL. -/
def isUnreserved (c : Char) : Bool := c.isAlphanum || ['-', '.', '_', '~'].contains c

/-- A segment that stands for itself. It may be empty. -/
structure IsPlain (segment : String) : Prop where
  unreserved : ∀ c ∈ segment.toList, isUnreserved c = true
  single : segment ≠ "."
  double : segment ≠ ".."

instance (segment : String) : Decidable (IsPlain segment) :=
  decidable_of_iff (segment.toList.all isUnreserved = true ∧ segment ≠ "." ∧ segment ≠ "..")
    ⟨fun h => ⟨List.all_eq_true.mp h.1, h.2.1, h.2.2⟩,
      fun h => ⟨List.all_eq_true.mpr h.unreserved, h.single, h.double⟩⟩

variable {c : Char} {segment : String} {segments path : List String}

/-! ### Unreserved characters -/

theorem toNat_lt_of_isUnreserved (h : isUnreserved c = true) : c.toNat < 0x80 := by
  rw [isUnreserved, Bool.or_eq_true] at h
  obtain h | h := h
  · exact Text.toNat_lt_of_isAlphanum h
  · have hmarks : ∀ d ∈ ['-', '.', '_', '~'], d.toNat < 0x80 := Text.forall_mem_of_all (by decide)
    exact hmarks c (List.contains_iff_mem.mp h)

/-- What holds of the unreserved characters of ASCII holds of all unreserved characters. -/
theorem forall_unreserved {p : Char → Prop} (h : isUnreserved c = true)
    (hall : ∀ n < 0x80, isUnreserved (Char.ofNat n) = true → p (Char.ofNat n)) : p c :=
  Text.forall_ascii (p := fun c => isUnreserved c = true → p c) (toNat_lt_of_isUnreserved h) hall h

theorem isVisible_of_isUnreserved (h : isUnreserved c = true) : Text.IsVisible c :=
  forall_unreserved (p := Text.IsVisible) h (by decide)

theorem inPath_of_isUnreserved (h : isUnreserved c = true) : Escape.inPath c = false :=
  forall_unreserved (p := fun c => Escape.inPath c = false) h (by decide)

theorem isSlash_of_isUnreserved (h : isUnreserved c = true) :
    SchemeKind.web.isSlash c = false :=
  forall_unreserved (p := fun c => SchemeKind.web.isSlash c = false) h (by decide)

theorem endsPath_of_isUnreserved (h : isUnreserved c = true) : Url.endsPath c = false :=
  forall_unreserved (p := fun c => Url.endsPath c = false) h (by decide)

/-- No unreserved character is folded to a percent sign, and only a dot is folded to a dot. -/
theorem toLower_of_isUnreserved (h : isUnreserved c = true) :
    c.toLower ≠ '%' ∧ (c.toLower = '.' → c = '.') :=
  forall_unreserved (p := fun c => c.toLower ≠ '%' ∧ (c.toLower = '.' → c = '.')) h (by decide)

/-! ### Segments in a path -/

theorem IsPlain.encode (h : IsPlain segment) :
    String.ofList (Escape.encode Escape.inPath segment.toList) = segment := by
  rw [Escape.encode_eq_self fun c hc => inPath_of_isUnreserved (h.unreserved c hc),
    String.ofList_toList]

theorem IsPlain.lower_ne_of_percent (h : IsPlain segment) (cs : List Char) (hcs : '%' ∈ cs) :
    Text.lower segment.toList ≠ cs := by
  rintro rfl
  obtain ⟨c, hc, hpercent⟩ := List.mem_map.mp hcs
  exact (toLower_of_isUnreserved (h.unreserved c hc)).1 hpercent

theorem IsPlain.eq_of_lower_eq_dots (h : IsPlain segment) {n : Nat}
    (hlower : Text.lower segment.toList = List.replicate n '.') :
    segment.toList = List.replicate n '.' := by
  obtain ⟨hlength, hdots⟩ := List.eq_replicate_iff.mp hlower
  refine List.eq_replicate_iff.mpr ⟨by rwa [Text.length_lower] at hlength, fun c hc => ?_⟩
  exact (toLower_of_isUnreserved (h.unreserved c hc)).2 (hdots _ (List.mem_map_of_mem hc))

theorem IsPlain.isSingleDot (h : IsPlain segment) : isSingleDot segment.toList = false := by
  have hdot : Text.lower segment.toList ≠ ['.'] := fun hlower =>
    h.single (String.toList_inj.mp (h.eq_of_lower_eq_dots (n := 1) hlower))
  have hescape : Text.lower segment.toList ≠ ['%', '2', 'e'] :=
    h.lower_ne_of_percent _ (by decide)
  simp [UrlPath.isSingleDot, hdot, hescape]

theorem IsPlain.isDoubleDot (h : IsPlain segment) : isDoubleDot segment.toList = false := by
  have hdots : Text.lower segment.toList ≠ ['.', '.'] := fun hlower =>
    h.double (String.toList_inj.mp (h.eq_of_lower_eq_dots (n := 2) hlower))
  have hback := h.lower_ne_of_percent ['.', '%', '2', 'e'] (by decide)
  have hfront := h.lower_ne_of_percent ['%', '2', 'e', '.'] (by decide)
  have hboth := h.lower_ne_of_percent ['%', '2', 'e', '%', '2', 'e'] (by decide)
  simp [UrlPath.isDoubleDot, hdots, hback, hfront, hboth]

theorem IsPlain.push (h : IsPlain segment) (isLast : Bool) (path : List String) :
    push .web isLast path segment.toList = path ++ [segment] := by
  unfold UrlPath.push
  rw [h.isDoubleDot, h.isSingleDot]
  simp [keep, h.encode]

theorem pushAll_of_isPlain (h : ∀ segment ∈ segments, IsPlain segment) (path : List String) :
    pushAll .web path (segments.map String.toList) = path ++ segments := by
  induction segments generalizing path with
  | nil => simp [pushAll]
  | cons segment segments ih =>
    have hsegment := h segment List.mem_cons_self
    cases segments with
    | nil => rw [List.map_singleton, pushAll, hsegment.push]
    | cons next segments =>
      rw [List.map_cons, List.map_cons, pushAll, hsegment.push, ← List.map_cons,
        ih fun s hs => h s (List.mem_cons_of_mem segment hs)]
      · simp
      · simp

/-! ### Segments between slashes -/

theorem split_append_slash {kind : SchemeKind} {s : List Char}
    (h : ∀ c ∈ s, kind.isSlash c = false) (rest : List Char) :
    split kind (s ++ '/' :: rest) = s :: split kind rest := by
  induction s with
  | nil => rfl
  | cons c s ih =>
    rw [List.cons_append, split, ih fun d hd => h d (List.mem_cons_of_mem c hd)]
    rw [h c List.mem_cons_self]
    rfl

theorem split_of_not_slash {kind : SchemeKind} {s : List Char}
    (h : ∀ c ∈ s, kind.isSlash c = false) : split kind s = [s] := by
  induction s with
  | nil => rfl
  | cons c s ih =>
    rw [split, ih fun d hd => h d (List.mem_cons_of_mem c hd), h c List.mem_cons_self]
    rfl

theorem split_intercalate (hne : segments ≠ []) (h : ∀ segment ∈ segments, IsPlain segment) :
    split .web ("/".intercalate segments).toList = segments.map String.toList := by
  induction segments with
  | nil => exact absurd rfl hne
  | cons segment segments ih =>
    have hslash : ∀ c ∈ segment.toList, SchemeKind.web.isSlash c = false := fun c hc =>
      isSlash_of_isUnreserved ((h segment List.mem_cons_self).unreserved c hc)
    cases segments with
    | nil => rw [String.intercalate_singleton, split_of_not_slash hslash, List.map_singleton]
    | cons next segments =>
      have hrest := ih (List.cons_ne_nil _ _) fun s hs => h s (List.mem_cons_of_mem segment hs)
      rw [String.intercalate_cons_cons, String.append_assoc, String.toList_append,
        String.toList_append, List.map_cons, ← hrest]
      exact split_append_slash hslash _

/-- Plain segments between slashes are added to a path of the web. -/
theorem append_intercalate (hne : segments ≠ []) (h : ∀ segment ∈ segments, IsPlain segment)
    (path : List String) :
    append .web path ("/".intercalate segments).toList = path ++ segments := by
  rw [append, split_intercalate hne h, pushAll_of_isPlain h]
  rfl

/-- Plain segments between slashes are written in unreserved characters and slashes. -/
theorem mem_intercalate_of_isPlain (h : ∀ segment ∈ segments, IsPlain segment)
    (hc : c ∈ ("/".intercalate segments).toList) : c = '/' ∨ isUnreserved c = true := by
  obtain hc | ⟨segment, hmem, hc⟩ := Text.mem_intercalate hc
  · exact .inl (List.mem_singleton.mp hc)
  · exact .inr ((h segment hmem).unreserved c hc)

/-- A segment that is not empty opens its path with an unreserved character. -/
theorem exists_intercalate_cons {others : List String} (hne : segment ≠ "")
    (h : ∀ s ∈ segment :: others, IsPlain s) :
    ∃ c rest, ("/".intercalate (segment :: others)).toList = c :: rest ∧
      isUnreserved c = true := by
  have hopens : ∃ rest, ("/".intercalate (segment :: others)).toList = segment.toList ++ rest := by
    cases others with
    | nil => exact ⟨[], by rw [String.intercalate_singleton, List.append_nil]⟩
    | cons next others =>
      exact ⟨_, by rw [String.intercalate_cons_cons, String.append_assoc, String.toList_append]⟩
  obtain ⟨rest, hopens⟩ := hopens
  cases hsegment : segment.toList with
  | nil => exact absurd (String.toList_eq_nil_iff.mp hsegment) hne
  | cons c cs =>
    refine ⟨c, cs ++ rest, by rw [hopens, hsegment, List.cons_append], ?_⟩
    exact (h segment List.mem_cons_self).unreserved c (hsegment ▸ List.mem_cons_self)

theorem isVisible_of_mem_intercalate (h : ∀ segment ∈ segments, IsPlain segment)
    (hc : c ∈ ("/".intercalate segments).toList) : Text.IsVisible c := by
  obtain rfl | hc := mem_intercalate_of_isPlain h hc
  · decide
  · exact isVisible_of_isUnreserved hc

end UrlPath

namespace Url

theorem segmentsText_append (segments others : List String) :
    segmentsText (segments ++ others) = segmentsText segments ++ segmentsText others := by
  rw [segmentsText, List.map_append, String.join_append]
  rfl

/-- A path shows its segments between slashes, behind one. -/
theorem segmentsText_eq {segments : List String} (hne : segments ≠ []) :
    segmentsText segments = "/" ++ "/".intercalate segments := by
  induction segments with
  | nil => exact absurd rfl hne
  | cons segment segments ih =>
    cases segments with
    | nil => simp [segmentsText]
    | cons next segments =>
      have hrest := ih (List.cons_ne_nil _ _)
      rw [segmentsText] at hrest ⊢
      rw [List.map_cons, String.join_cons, hrest, String.intercalate_cons_cons]
      simp [String.append_assoc]

end Url

end ContentClient
