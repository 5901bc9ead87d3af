import ContentClient.Url.Parse

/-!
# References without a scheme

A reference that has no scheme takes that of its base. What else it takes from the base is decided
by its first two characters: two slashes of either sort open an authority, and the reference then
**names a server** of its own. Every other reference stays on the **same server** as the base
(`resolve_of_not_namesServer`), and one that names a server leads to that one
(`authority_of_readBehindSlashes`). For bases of the web, that is all that resolving comes to
(`join_of_no_scheme`).
-/

namespace ContentClient.Url

/-- Two URLs are on the **same server** if they agree in scheme, host and port. -/
structure SameServer (u v : Url) : Prop where
  scheme : u.scheme = v.scheme
  host : u.host? = v.host?
  port : u.port? = v.port?

/-- A reference **names a server** if two slashes of either sort open it. -/
def NamesServer (s : List Char) : Prop :=
  ∃ a b rest, s = a :: b :: rest ∧ isAnySlash a = true ∧ isAnySlash b = true

/-- A reference that names a server, without the slashes that open it. -/
def behindSlashes (s : List Char) : List Char :=
  if ['/', '/'].isPrefixOf s then s.drop 2 else s.dropWhile isAnySlash

variable {base u : Url} {s : List Char}

theorem sameServer_of_authority (hscheme : u.scheme = base.scheme)
    (hauthority : u.authority = base.authority) : u.SameServer base :=
  ⟨hscheme, by rw [host?, host?, hauthority], by rw [port?, port?, hauthority]⟩

/-! ### Query and fragment -/

@[simp] theorem scheme_withFragment (u : Url) (s : List Char) :
    (u.withFragment s).scheme = u.scheme := by
  unfold withFragment
  split <;> rfl

@[simp] theorem authority_withFragment (u : Url) (s : List Char) :
    (u.withFragment s).authority = u.authority := by
  unfold withFragment
  split <;> rfl

@[simp] theorem scheme_withEnding (u : Url) (s : List Char) :
    (u.withEnding s).scheme = u.scheme := by
  unfold withEnding
  split <;> exact scheme_withFragment _ _

@[simp] theorem authority_withEnding (u : Url) (s : List Char) :
    (u.withEnding s).authority = u.authority := by
  unfold withEnding
  split <;> exact authority_withFragment _ _

/-! ### Resolving -/

/-- A reference that names no server is resolved, and its authority is that of the base. -/
theorem resolve_of_not_namesServer (base : Url) (h : ¬NamesServer s) :
    ∃ u, resolve base s = .ok u ∧ u.SameServer base := by
  unfold resolve
  split
  · rename_i a b slashes hslashes
    -- slashes that are taken off a text stand in front of it
    have hsplit := List.takeWhile_append_dropWhile (p := isAnySlash) (l := s)
    have hall := List.all_takeWhile (p := isAnySlash) (l := s)
    rw [hslashes] at hsplit hall
    rw [List.all_cons, List.all_cons, Bool.and_eq_true, Bool.and_eq_true] at hall
    exact absurd ⟨a, b, _, hsplit.symm, hall.1, hall.2.1⟩ h
  · exact ⟨_, rfl, sameServer_of_authority (scheme_withEnding _ _) (authority_withEnding _ _)⟩
  · split
    · exact ⟨_, rfl, sameServer_of_authority rfl rfl⟩
    · exact ⟨_, rfl, sameServer_of_authority (scheme_withEnding _ _) (authority_withEnding _ _)⟩
    · exact ⟨_, rfl, sameServer_of_authority (scheme_withFragment _ _) (authority_withFragment _ _)⟩
    · exact ⟨_, rfl, sameServer_of_authority (scheme_withEnding _ _) (authority_withEnding _ _)⟩

/-- A reference that names a server is read from there on. -/
theorem resolve_of_namesServer (base : Url) (h : NamesServer s) :
    resolve base s = readBehindSlashes base.scheme (behindSlashes s) := by
  obtain ⟨a, b, rest, rfl, ha, hb⟩ := h
  have hslashes : (a :: b :: rest).takeWhile isAnySlash = a :: b :: rest.takeWhile isAnySlash := by
    rw [List.takeWhile_cons_of_pos ha, List.takeWhile_cons_of_pos hb]
  unfold resolve
  rw [hslashes]
  rfl

/-- What is read behind slashes has the authority that stands there. -/
theorem authority_of_readBehindSlashes {scheme : String}
    (h : readBehindSlashes scheme s = .ok u) :
    u.scheme = scheme ∧
      ∃ authority rest, readAuthority scheme s = .ok (authority, rest) ∧
        u.authority = some authority := by
  unfold readBehindSlashes at h
  cases hread : readAuthority scheme s with
  | error e =>
    rw [hread] at h
    cases h
  | ok read =>
    obtain ⟨authority, rest⟩ := read
    rw [hread] at h
    obtain rfl := Except.ok.inj h
    exact ⟨scheme_withEnding _ _, authority, rest, rfl, authority_withEnding _ _⟩

/-- Against a base of the web, a reference without a scheme is resolved by its slashes alone. -/
theorem readReference_of_web (hkind : base.kind = .web) (hpath : base.hasTextPath = false)
    (s : List Char) : readReference (some base) s = resolve base s := by
  have hfile : base.kind ≠ .file := by
    rw [hkind]
    exact SchemeKind.noConfusion
  cases s with
  | nil => simp [readReference, hpath, hfile]
  | cons c rest =>
    by_cases hfragment : c = '#'
    · subst hfragment
      rfl
    · simp [readReference, hpath, hfile, hfragment]

theorem join_of_no_scheme (hkind : base.kind = .web) (hpath : base.hasTextPath = false)
    {text : String} (h : splitScheme? (clean text.toList) = none) :
    base.join text = resolve base (clean text.toList) := by
  rw [join, readClean, h]
  exact readReference_of_web hkind hpath _

/-! ### What can open a reference -/

/-- Characters that are trimmed off a text do not hide one that is not. -/
theorem exists_trimWhere_cons {p : Char → Bool} {c : Char} (h : p c = false) (s : List Char) :
    ∃ rest, Text.trimWhere p (c :: s) = c :: rest := by
  have hlast : [c].dropWhile p = [c] := List.dropWhile_cons_of_neg (by simp [h])
  rw [Text.trimWhere, List.dropWhile_cons_of_neg (by simp [h]), List.reverse_cons,
    List.dropWhile_append, hlast]
  split
  · exact ⟨[], rfl⟩
  · exact ⟨_, by rw [List.reverse_append, List.reverse_singleton, List.singleton_append]⟩

/-- A text that names a server once it is clean is opened by a slash of either sort, or by something
that is not part of a URL. -/
theorem opening_of_namesServer (h : NamesServer (clean s)) :
    ∃ c rest, s = c :: rest ∧ (isAnySlash c = true ∨ c.toNat ≤ 0x20) := by
  cases s with
  | nil =>
    obtain ⟨a, b, rest, hempty, -⟩ := h
    cases hempty
  | cons c s =>
    refine ⟨c, s, rfl, ?_⟩
    by_cases hcontrol : c.toNat ≤ 0x20
    · exact .inr hcontrol
    · -- the first character stays, so it is the first of the slashes
      obtain ⟨rest, htrim⟩ :=
        exists_trimWhere_cons (p := (·.toNat ≤ 0x20)) (by simpa using hcontrol) s
      have hkeep : c ≠ '\t' ∧ c ≠ '\n' ∧ c ≠ '\r' := by
        refine ⟨?_, ?_, ?_⟩ <;> rintro rfl <;> exact hcontrol (by decide)
      obtain ⟨a, b, rest', hclean, ha, -⟩ := h
      rw [clean, htrim, List.filter_cons_of_pos (by simpa using hkeep)] at hclean
      obtain rfl := (List.cons.inj hclean).1
      exact .inl ha

end ContentClient.Url
