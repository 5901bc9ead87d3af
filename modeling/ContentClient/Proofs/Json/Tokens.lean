import ContentClient.Json.Token

/-!
# The tokens of JSON text

What a token of JSON text is, is said here without a reader, as a relation between the text that
begins with it and the text behind it; a relation for a token that is kept also names its value. For
every reader of a token there is then one lemma: it succeeds exactly on the texts that begin with
the token, and leaves what is behind it.

A string is written in two forms. The characters of a **string** that is kept are those that its
escapes stand for, so that half a surrogate pair has no place in it. A **quotation** only has the
form of a string, and any four hexadecimal digits make an escape in it.
-/

namespace ContentClient.Json

/-- What a function makes of a value that a reader gives. -/
theorem map_eq_ok_iff {ε α β : Type} {x : Except ε α} {f : α → β} {b : β} :
    x.map f = .ok b ↔ ∃ a, x = .ok a ∧ f a = b := by
  cases x with
  | error e => exact ⟨nofun, fun ⟨_, h, _⟩ => nomatch h⟩
  | ok a =>
    refine ⟨fun h => ⟨a, rfl, Except.ok.inj h⟩, ?_⟩
    rintro ⟨_, ⟨⟩, rfl⟩
    rfl

/-- What a reader that goes on behind another one gives. -/
theorem bind_eq_ok_iff {ε α β : Type} {x : Except ε α} {f : α → Except ε β} {b : β} :
    (x >>= f) = .ok b ↔ ∃ a, x = .ok a ∧ f a = .ok b := by
  cases x with
  | error e => exact ⟨nofun, fun ⟨_, h, _⟩ => nomatch h⟩
  | ok a =>
    refine ⟨fun h => ⟨a, rfl, h⟩, ?_⟩
    rintro ⟨_, ⟨⟩, h⟩
    exact h

/-! ### Blanks -/

/-- Text **begins** with a character behind any blanks. -/
inductive Begins (c : Char) : List Char → List Char → Prop
  | here (rest : List Char) : Begins c (c :: rest) rest
  | blank {b : Char} {cs rest : List Char} (hb : isBlank b = true) (more : Begins c cs rest) :
    Begins c (b :: cs) rest

theorem skipBlank_cons_of_blank {b : Char} (hb : isBlank b = true) (cs : List Char) :
    skipBlank (b :: cs) = skipBlank cs := List.dropWhile_cons_of_pos hb

theorem skipBlank_cons_of_not_blank {c : Char} (hc : isBlank c = false) (cs : List Char) :
    skipBlank (c :: cs) = c :: cs :=
  List.dropWhile_cons_of_neg (Bool.eq_false_iff.mp hc)

theorem begins_iff {c : Char} (hc : isBlank c = false) {cs rest : List Char} :
    Begins c cs rest ↔ skipBlank cs = c :: rest := by
  constructor
  · intro h
    induction h with
    | here rest => exact skipBlank_cons_of_not_blank hc rest
    | blank hb more ih => rw [skipBlank_cons_of_blank hb, ih]
  · intro h
    induction cs with
    | nil => cases h
    | cons b cs ih =>
      cases hb : isBlank b with
      | true =>
        rw [skipBlank_cons_of_blank hb] at h
        exact .blank hb (ih h)
      | false =>
        rw [skipBlank_cons_of_not_blank hb] at h
        obtain ⟨rfl, rfl⟩ := List.cons.inj h
        exact .here _

theorem skipBlank_skipBlank (cs : List Char) : skipBlank (skipBlank cs) = skipBlank cs := by
  induction cs with
  | nil => rfl
  | cons c cs ih =>
    cases hc : isBlank c with
    | true => rw [skipBlank_cons_of_blank hc, ih]
    | false => rw [skipBlank_cons_of_not_blank hc, skipBlank_cons_of_not_blank hc]

/-- Text that is blank has nothing in it but blanks. -/
def IsBlankText (cs : List Char) : Prop := ∀ c ∈ cs, isBlank c = true

theorem isBlankText_iff {cs : List Char} : IsBlankText cs ↔ skipBlank cs = [] := by
  induction cs with
  | nil => exact ⟨fun _ => rfl, fun _ _ hc => absurd hc List.not_mem_nil⟩
  | cons c cs ih =>
    rw [IsBlankText, List.forall_mem_cons]
    cases hc : isBlank c with
    | true =>
      rw [skipBlank_cons_of_blank hc, ← ih]
      exact ⟨fun h => h.2, fun h => ⟨rfl, h⟩⟩
    | false =>
      rw [skipBlank_cons_of_not_blank hc]
      exact ⟨fun h => absurd h.1 Bool.false_ne_true, fun h => absurd h (List.cons_ne_nil _ _)⟩

/-! ### Words -/

theorem readWord_eq_ok_iff {word cs rest : List Char} {u : Unit} :
    readWord word cs = .ok (u, rest) ↔ cs = word ++ rest := by
  induction word generalizing cs with
  | nil =>
    rw [readWord, List.nil_append, Except.ok.injEq, Prod.mk.injEq]
    exact ⟨fun h => h.2, fun h => ⟨rfl, h⟩⟩
  | cons e word ih =>
    cases cs with
    | nil => exact ⟨nofun, nofun⟩
    | cons c cs =>
      rw [readWord, List.cons_append, List.cons.injEq]
      split
      · rename_i hc
        rw [ih]
        exact ⟨fun h => ⟨hc, h⟩, fun h => h.2⟩
      · rename_i hc
        exact ⟨nofun, fun h => absurd h.1 hc⟩

/-! ### Escapes -/

/-- Text begins with four hexadecimal digits for a code. -/
inductive Hex4 : List Char → Nat → List Char → Prop
  | digits {a b c d : Char} {n : Nat} (rest : List Char)
    (value : Text.digitsValue? 16 0 [a, b, c, d] = some n) :
    Hex4 (a :: b :: c :: d :: rest) n rest

theorem readHex4_eq_ok_iff {cs rest : List Char} {n : Nat} :
    readHex4 cs = .ok (n, rest) ↔ Hex4 cs n rest := by
  constructor
  · intro h
    unfold readHex4 at h
    split at h
    · split at h
      · rename_i hvalue
        obtain ⟨rfl, rfl⟩ := Prod.mk.inj (Except.ok.inj h)
        exact .digits _ hvalue
      · cases h
    · dsimp only at h
      split at h <;> cases h
  · rintro ⟨_, hvalue⟩
    simp only [readHex4, hvalue]

theorem Hex4.length_lt {cs rest : List Char} {n : Nat} (h : Hex4 cs n rest) :
    rest.length < cs.length := by
  cases h
  simp only [List.length_cons]
  omega

/-- Text begins with an escape for a character, after its backslash. A code beyond sixteen bits is
written as two halves. -/
inductive EscapeText : List Char → Char → List Char → Prop
  | short {c d : Char} (rest : List Char) (stands : shortEscape? c = some d) :
    EscapeText (c :: rest) d rest
  | code {cs rest : List Char} {n : Nat} (hex : Hex4 cs n rest) (lead : isLeadSurrogate n = false)
    (trail : isTrailSurrogate n = false) : EscapeText ('u' :: cs) (Text.charOf n) rest
  | pair {cs mid rest : List Char} {n m : Nat} (first : Hex4 cs n ('\\' :: 'u' :: mid))
    (lead : isLeadSurrogate n = true) (second : Hex4 mid m rest)
    (trail : isTrailSurrogate m = true) :
    EscapeText ('u' :: cs) (Text.charOf (0x10000 + (n - 0xD800) * 0x400 + (m - 0xDC00))) rest

theorem isTrailSurrogate_of_lead {n : Nat} (h : isLeadSurrogate n = true) :
    isTrailSurrogate n = false := by
  simp only [isLeadSurrogate, isTrailSurrogate, Bool.and_eq_true, decide_eq_true_eq,
    Bool.and_eq_false_iff, decide_eq_false_iff_not] at h ⊢
  omega

theorem readCodeEscape_eq_ok_iff {cs rest : List Char} {d : Char} :
    readCodeEscape cs = .ok (d, rest) ↔ EscapeText ('u' :: cs) d rest := by
  unfold readCodeEscape
  rw [bind_eq_ok_iff]
  constructor
  · rintro ⟨⟨n, mid⟩, hread, h⟩
    have hex := readHex4_eq_ok_iff.mp hread
    dsimp only at h
    split at h
    · cases h
    · rename_i htrail
      split at h
      · rename_i hlead
        split at h
        · cases h
        · obtain ⟨⟨m, rest'⟩, hread', h⟩ := bind_eq_ok_iff.mp h
          dsimp only at h
          split at h
          · rename_i htrail'
            obtain ⟨rfl, rfl⟩ := Prod.mk.inj (Except.ok.inj h)
            exact .pair hex hlead (readHex4_eq_ok_iff.mp hread') htrail'
          · cases h
        · cases h
        · cases h
      · rename_i hlead
        obtain ⟨rfl, rfl⟩ := Prod.mk.inj (Except.ok.inj h)
        exact .code hex (Bool.eq_false_iff.mpr hlead) (Bool.eq_false_iff.mpr htrail)
  · intro h
    cases h with
    | short rest stands =>
      have hnone : shortEscape? 'u' = none := by decide
      rw [hnone] at stands
      cases stands
    | @code cs rest n hex lead trail =>
      refine ⟨(n, rest), readHex4_eq_ok_iff.mpr hex, ?_⟩
      simp only [lead, trail, Bool.false_eq_true, if_false]
    | @pair cs mid rest n m first lead second trail =>
      refine ⟨(n, _), readHex4_eq_ok_iff.mpr first, ?_⟩
      simp only [lead, isTrailSurrogate_of_lead lead, Bool.false_eq_true, if_false, if_true]
      refine bind_eq_ok_iff.mpr ⟨(m, rest), readHex4_eq_ok_iff.mpr second, ?_⟩
      simp only [trail, if_true]

theorem readEscape_eq_ok_iff {cs rest : List Char} {d : Char} :
    readEscape cs = .ok (d, rest) ↔ EscapeText cs d rest := by
  cases cs with
  | nil => exact ⟨nofun, nofun⟩
  | cons c cs =>
    by_cases hu : c = 'u'
    · rw [hu, readEscape, if_pos rfl]
      exact readCodeEscape_eq_ok_iff
    · rw [readEscape, if_neg hu]
      constructor
      · intro h
        split at h
        · rename_i hstands
          obtain ⟨rfl, rfl⟩ := Prod.mk.inj (Except.ok.inj h)
          exact .short _ hstands
        · cases h
      · intro h
        cases h with
        | short rest stands => rw [stands]
        | code => exact absurd rfl hu
        | pair => exact absurd rfl hu

theorem EscapeText.length_lt {cs rest : List Char} {d : Char} (h : EscapeText cs d rest) :
    rest.length < cs.length := by
  cases h with
  | short rest stands => exact Nat.lt_succ_self _
  | code hex lead trail => exact Nat.lt_succ_of_lt hex.length_lt
  | pair first lead second trail =>
    have hfirst := first.length_lt
    have hsecond := second.length_lt
    simp only [List.length_cons] at hfirst ⊢
    omega

/-! ### Strings -/

/-- Text begins with the characters of a string and its closing quote. -/
inductive StringText : List Char → List Char → List Char → Prop
  | close (rest : List Char) : StringText ('"' :: rest) [] rest
  | plain {c : Char} {cs s rest : List Char} (quote : c ≠ '"') (backslash : c ≠ '\\')
    (control : 0x20 ≤ c.toNat) (more : StringText cs s rest) : StringText (c :: cs) (c :: s) rest
  | escape {d : Char} {cs mid s rest : List Char} (escape : EscapeText cs d mid)
    (more : StringText mid s rest) : StringText ('\\' :: cs) (d :: s) rest

theorem StringText.of_readStringBody {rounds : Nat} {acc cs rest : List Char} {text : String}
    (h : readStringBody rounds acc cs = .ok (text, rest)) :
    ∃ s, StringText cs s rest ∧ text = String.ofList (acc.reverse ++ s) := by
  induction rounds generalizing acc cs with
  | zero => cases h
  | succ rounds ih =>
    cases cs with
    | nil => cases h
    | cons c cs =>
      rw [readStringBody] at h
      split at h
      · rename_i hquote
        obtain ⟨rfl, rfl⟩ := Prod.mk.inj (Except.ok.inj h)
        rw [hquote]
        exact ⟨[], .close _, by rw [List.append_nil]⟩
      · rename_i hquote
        split at h
        · rename_i hbackslash
          split at h
          · rename_i d mid hescape
            obtain ⟨s, hs, rfl⟩ := ih h
            rw [hbackslash]
            refine ⟨d :: s, .escape (readEscape_eq_ok_iff.mp hescape) hs, ?_⟩
            rw [List.reverse_cons, List.append_assoc, List.singleton_append]
          · cases h
        · rename_i hbackslash
          split at h
          · cases h
          · rename_i hcontrol
            obtain ⟨s, hs, rfl⟩ := ih h
            refine ⟨c :: s, .plain hquote hbackslash (Nat.le_of_not_lt hcontrol) hs, ?_⟩
            rw [List.reverse_cons, List.append_assoc, List.singleton_append]

theorem StringText.readStringBody {cs s rest : List Char} (h : StringText cs s rest)
    {rounds : Nat} (hrounds : cs.length < rounds) (acc : List Char) :
    readStringBody rounds acc cs = .ok (String.ofList (acc.reverse ++ s), rest) := by
  induction h generalizing rounds acc with
  | close rest =>
    obtain ⟨n, rfl⟩ := Nat.exists_eq_add_one.mpr (Nat.zero_lt_of_lt hrounds)
    rw [Json.readStringBody, if_pos rfl, List.append_nil]
  | plain quote backslash control more ih =>
    obtain ⟨n, rfl⟩ := Nat.exists_eq_add_one.mpr (Nat.zero_lt_of_lt hrounds)
    rw [Json.readStringBody, if_neg quote, if_neg backslash, if_neg (Nat.not_lt.mpr control),
      ih (Nat.lt_of_succ_lt_succ hrounds), List.reverse_cons, List.append_assoc,
      List.singleton_append]
  | @escape d cs mid s rest escape more ih =>
    obtain ⟨n, rfl⟩ := Nat.exists_eq_add_one.mpr (Nat.zero_lt_of_lt hrounds)
    have hlt : mid.length < n := Nat.lt_trans escape.length_lt (Nat.lt_of_succ_lt_succ hrounds)
    rw [Json.readStringBody, if_neg (by decide), if_pos rfl, readEscape_eq_ok_iff.mpr escape]
    dsimp only
    rw [ih hlt, List.reverse_cons, List.append_assoc, List.singleton_append]

/-- Reading a string gives the characters that it stands for. -/
theorem readString_eq_ok_iff {cs rest : List Char} {text : String} :
    readString cs = .ok (text, rest) ↔ StringText cs text.toList rest := by
  constructor
  · intro h
    obtain ⟨s, hs, rfl⟩ := StringText.of_readStringBody h
    rwa [String.toList_ofList]
  · intro h
    rw [readString, h.readStringBody (Nat.lt_succ_self _), List.reverse_nil, List.nil_append,
      String.ofList_toList]

theorem StringText.length_lt {cs s rest : List Char} (h : StringText cs s rest) :
    rest.length < cs.length := by
  induction h with
  | close rest => exact Nat.lt_succ_self _
  | plain quote backslash control more ih => exact Nat.lt_succ_of_lt ih
  | escape escape more ih => exact Nat.lt_succ_of_lt (Nat.lt_trans ih escape.length_lt)

/-- Text begins with the characters of a quotation and its closing quote. -/
inductive Quotation : List Char → List Char → Prop
  | close (rest : List Char) : Quotation ('"' :: rest) rest
  | plain {c : Char} {cs rest : List Char} (quote : c ≠ '"') (backslash : c ≠ '\\')
    (control : 0x20 ≤ c.toNat) (more : Quotation cs rest) : Quotation (c :: cs) rest
  | short {c : Char} {cs rest : List Char} (stands : (shortEscape? c).isSome = true)
    (more : Quotation cs rest) : Quotation ('\\' :: c :: cs) rest
  | code {n : Nat} {cs mid rest : List Char} (hex : Hex4 cs n mid) (more : Quotation mid rest) :
    Quotation ('\\' :: 'u' :: cs) rest

theorem Quotation.of_skipStringBody {rounds : Nat} {cs rest : List Char} {u : Unit}
    (h : skipStringBody rounds cs = .ok (u, rest)) : Quotation cs rest := by
  induction rounds generalizing cs with
  | zero => cases h
  | succ rounds ih =>
    cases cs with
    | nil => cases h
    | cons c cs =>
      rw [skipStringBody] at h
      split at h
      · rename_i hquote
        obtain ⟨-, rfl⟩ := Prod.mk.inj (Except.ok.inj h)
        rw [hquote]
        exact .close _
      · rename_i hquote
        split at h
        · rename_i hbackslash
          split at h
          · rename_i mid hescape
            have hmore := ih h
            rw [hbackslash]
            unfold skipEscape at hescape
            split at hescape
            · cases hescape
            · split at hescape
              · rename_i hu
                obtain ⟨r, hread, hr⟩ := map_eq_ok_iff.mp hescape
                obtain ⟨-, rfl⟩ := Prod.mk.inj hr
                rw [hu]
                exact .code (readHex4_eq_ok_iff.mp hread) hmore
              · split at hescape
                · rename_i hstands
                  obtain ⟨-, rfl⟩ := Prod.mk.inj (Except.ok.inj hescape)
                  exact .short hstands hmore
                · cases hescape
          · cases h
        · rename_i hbackslash
          split at h
          · cases h
          · rename_i hcontrol
            exact .plain hquote hbackslash (Nat.le_of_not_lt hcontrol) (ih h)

theorem Quotation.skipStringBody {cs rest : List Char} (h : Quotation cs rest) {rounds : Nat}
    (hrounds : cs.length < rounds) : skipStringBody rounds cs = .ok ((), rest) := by
  induction h generalizing rounds with
  | close rest =>
    obtain ⟨n, rfl⟩ := Nat.exists_eq_add_one.mpr (Nat.zero_lt_of_lt hrounds)
    rw [Json.skipStringBody, if_pos rfl]
  | plain quote backslash control more ih =>
    obtain ⟨n, rfl⟩ := Nat.exists_eq_add_one.mpr (Nat.zero_lt_of_lt hrounds)
    rw [Json.skipStringBody, if_neg quote, if_neg backslash, if_neg (Nat.not_lt.mpr control),
      ih (Nat.lt_of_succ_lt_succ hrounds)]
  | @short c cs rest stands more ih =>
    obtain ⟨n, rfl⟩ := Nat.exists_eq_add_one.mpr (Nat.zero_lt_of_lt hrounds)
    have hu : c ≠ 'u' := by
      rintro rfl
      exact absurd stands (by decide)
    have hescape : skipEscape (c :: cs) = .ok ((), cs) := by
      rw [skipEscape, if_neg hu, if_pos stands]
    rw [Json.skipStringBody, if_neg (by decide), if_pos rfl, hescape]
    simp only [List.length_cons] at hrounds
    exact ih (by omega)
  | @code n cs mid rest hex more ih =>
    obtain ⟨m, rfl⟩ := Nat.exists_eq_add_one.mpr (Nat.zero_lt_of_lt hrounds)
    have hlt := hex.length_lt
    have hescape : skipEscape ('u' :: cs) = .ok ((), mid) := by
      rw [skipEscape, if_pos rfl, readHex4_eq_ok_iff.mpr hex]
      rfl
    rw [Json.skipStringBody, if_neg (by decide), if_pos rfl, hescape]
    simp only [List.length_cons] at hrounds
    exact ih (by omega)

theorem skipString_eq_ok_iff {cs rest : List Char} {u : Unit} :
    skipString cs = .ok (u, rest) ↔ Quotation cs rest :=
  ⟨Quotation.of_skipStringBody, fun h => h.skipStringBody (Nat.lt_succ_self _)⟩

theorem Quotation.length_lt {cs rest : List Char} (h : Quotation cs rest) :
    rest.length < cs.length := by
  induction h with
  | close rest => exact Nat.lt_succ_self _
  | plain quote backslash control more ih => exact Nat.lt_succ_of_lt ih
  | short stands more ih => exact Nat.lt_succ_of_lt (Nat.lt_succ_of_lt ih)
  | code hex more ih =>
    exact Nat.lt_succ_of_lt (Nat.lt_succ_of_lt (Nat.lt_trans ih hex.length_lt))

/-! ### Numbers -/

/-- Text begins with a run of digits, which goes on as long as there are any. -/
inductive Digits : List Char → List Char → Prop
  | last {c : Char} {rest : List Char} (digit : c.isDigit = true)
    (stop : startsWithDigit rest = false) : Digits (c :: rest) rest
  | more {c : Char} {cs rest : List Char} (digit : c.isDigit = true) (more : Digits cs rest) :
    Digits (c :: cs) rest

theorem dropDigits_of_stop {cs : List Char} (h : startsWithDigit cs = false) :
    dropDigits cs = cs := by
  cases cs with
  | nil => rfl
  | cons c cs =>
    have hdigit : c.isDigit = false := h
    rw [dropDigits, List.dropWhile_cons_of_neg (Bool.eq_false_iff.mp hdigit)]

theorem digits_iff {cs rest : List Char} :
    Digits cs rest ↔ startsWithDigit cs = true ∧ dropDigits cs = rest := by
  constructor
  · intro h
    induction h with
    | @last c rest digit stop =>
      refine ⟨digit, ?_⟩
      rw [dropDigits, List.dropWhile_cons_of_pos digit]
      exact dropDigits_of_stop stop
    | more digit more ih =>
      refine ⟨digit, ?_⟩
      rw [dropDigits, List.dropWhile_cons_of_pos digit]
      exact ih.2
  · rintro ⟨hstarts, rfl⟩
    induction cs with
    | nil => cases hstarts
    | cons c cs ih =>
      have hdigit : c.isDigit = true := hstarts
      rw [dropDigits, List.dropWhile_cons_of_pos hdigit]
      cases hnext : startsWithDigit cs with
      | true => exact .more hstarts (ih hnext)
      | false =>
        have hstop : cs.dropWhile Char.isDigit = cs := dropDigits_of_stop hnext
        rw [hstop]
        exact .last hstarts hnext

theorem Digits.length_lt {cs rest : List Char} (h : Digits cs rest) : rest.length < cs.length := by
  induction h with
  | last digit stop => exact Nat.lt_succ_self _
  | more digit more ih => exact Nat.lt_succ_of_lt ih

/-- Text begins with the exponent of a number, if there is one. -/
inductive ExponentText : List Char → List Char → Prop
  | none {cs : List Char} (absent : startsExponent cs = false) : ExponentText cs cs
  | unsigned {mark : Char} {cs rest : List Char} (hmark : mark = 'e' ∨ mark = 'E')
    (digits : Digits cs rest) : ExponentText (mark :: cs) rest
  | signed {mark sign : Char} {cs rest : List Char} (hmark : mark = 'e' ∨ mark = 'E')
    (hsign : sign = '+' ∨ sign = '-') (digits : Digits cs rest) :
    ExponentText (mark :: sign :: cs) rest

theorem skipExponent_eq_ok_iff {cs rest : List Char} {u : Unit} :
    skipExponent cs = .ok (u, rest) ↔
      Digits cs rest ∨ ∃ sign tail, (sign = '+' ∨ sign = '-') ∧ cs = sign :: tail ∧
        Digits tail rest := by
  have hdigits {tail : List Char} :
      ((if startsWithDigit tail then .ok ((), dropDigits tail) else .error .invalidNumber :
        Reading Unit) = .ok (u, rest)) ↔ Digits tail rest := by
    rw [digits_iff]
    split
    · rename_i hstarts
      rw [Except.ok.injEq, Prod.mk.injEq]
      exact ⟨fun h => ⟨hstarts, h.2⟩, fun h => ⟨rfl, h.2⟩⟩
    · rename_i hstarts
      exact ⟨nofun, fun h => absurd h.1 hstarts⟩
  have hsigned {sign : Char} (hsign : sign = '+' ∨ sign = '-') {tail : List Char} :
      Digits tail rest ↔ Digits (sign :: tail) rest ∨ ∃ sign' tail',
        (sign' = '+' ∨ sign' = '-') ∧ sign :: tail = sign' :: tail' ∧ Digits tail' rest := by
    constructor
    · intro h
      exact .inr ⟨sign, tail, hsign, rfl, h⟩
    · rintro (h | ⟨sign', tail', -, heq, h⟩)
      · have hstarts : sign.isDigit = true := (digits_iff.mp h).1
        rcases hsign with rfl | rfl <;> cases hstarts
      · obtain ⟨rfl, rfl⟩ := List.cons.inj heq
        exact h
  unfold skipExponent
  dsimp only
  split
  · rw [hdigits]
    exact hsigned (.inl rfl)
  · rw [hdigits]
    exact hsigned (.inr rfl)
  · rename_i hplus hminus
    rw [hdigits]
    refine ⟨.inl, ?_⟩
    rintro (h | ⟨sign, tail, rfl | rfl, rfl, h⟩)
    · exact h
    · exact absurd rfl (hplus tail)
    · exact absurd rfl (hminus tail)

theorem exponentText_iff {cs rest : List Char} :
    ExponentText cs rest ↔
      (if startsExponent cs then skipExponent (cs.drop 1) else .ok ((), cs)) = .ok ((), rest) := by
  have hmarks {mark : Char} (hmark : mark = 'e' ∨ mark = 'E') (tail : List Char) :
      startsExponent (mark :: tail) = true := by
    rcases hmark with rfl | rfl <;> rfl
  constructor
  · intro h
    cases h with
    | none absent => rw [absent]; rfl
    | @unsigned mark cs rest hmark digits =>
      rw [hmarks hmark cs]
      exact skipExponent_eq_ok_iff.mpr (.inl digits)
    | @signed mark sign cs rest hmark hsign digits =>
      rw [hmarks hmark (sign :: cs)]
      exact skipExponent_eq_ok_iff.mpr (.inr ⟨sign, cs, hsign, rfl, digits⟩)
  · intro h
    split at h
    · rename_i hstarts
      cases cs with
      | nil => cases hstarts
      | cons mark cs =>
        have hmark : mark = 'e' ∨ mark = 'E' := by
          simpa [startsExponent] using hstarts
        rcases skipExponent_eq_ok_iff.mp h with hdigits | ⟨sign, tail, hsign, heq, hdigits⟩
        · exact .unsigned hmark hdigits
        · obtain rfl : cs = sign :: tail := heq
          exact .signed hmark hsign hdigits
    · rename_i hstarts
      obtain ⟨-, rfl⟩ := Prod.mk.inj (Except.ok.inj h)
      exact .none (Bool.eq_false_iff.mpr hstarts)

/-- Text begins with the fraction and the exponent of a number, if there are any. -/
inductive FractionText : List Char → List Char → Prop
  | none {cs rest : List Char} (absent : cs.head? ≠ some '.') (exponent : ExponentText cs rest) :
    FractionText cs rest
  | digits {cs mid rest : List Char} (digits : Digits cs mid) (exponent : ExponentText mid rest) :
    FractionText ('.' :: cs) rest

/-- Text begins with a number, after its sign. No digit follows a zero that opens it. -/
inductive NumberText : List Char → List Char → Prop
  | number {cs mid rest : List Char} (digits : Digits cs mid)
    (zero : ∀ tail, cs = '0' :: tail → startsWithDigit tail = false)
    (fraction : FractionText mid rest) : NumberText cs rest

theorem skipNumber_eq_ok_iff {cs rest : List Char} {u : Unit} :
    skipNumber cs = .ok (u, rest) ↔ NumberText cs rest := by
  cases cs with
  | nil => exact ⟨nofun, fun ⟨h, _, _⟩ => nomatch h⟩
  | cons c cs =>
    rw [skipNumber]
    constructor
    · intro h
      split at h
      · cases h
      · rename_i hopens
        rw [not_or, Bool.not_eq_true', Bool.not_eq_false] at hopens
        have hdigits : Digits (c :: cs) (dropDigits (c :: cs)) := digits_iff.mpr ⟨hopens.1, rfl⟩
        refine .number hdigits ?_ ?_
        · rintro tail heq
          obtain ⟨rfl, rfl⟩ := List.cons.inj heq
          exact Bool.eq_false_iff.mpr fun hstarts => hopens.2 ⟨rfl, hstarts⟩
        · split at h
          · rename_i tail hpoint
            rw [hpoint]
            split at h
            · cases h
            · rename_i hstarts
              rw [Bool.not_eq_true', Bool.not_eq_false] at hstarts
              exact .digits (digits_iff.mpr ⟨hstarts, rfl⟩) (exponentText_iff.mpr h)
          · rename_i hpoint
            refine .none (fun hhead => ?_) (exponentText_iff.mpr h)
            obtain ⟨tail, htail⟩ := List.head?_eq_some_iff.mp hhead
            exact hpoint tail htail
    · rintro ⟨hdigits, hzero, hfraction⟩
      obtain ⟨hstarts, rfl⟩ := digits_iff.mp hdigits
      have hopens : ¬((!c.isDigit) = true ∨ c = '0' ∧ startsWithDigit cs = true) := by
        rintro (hdigit | ⟨rfl, hnext⟩)
        · rw [show c.isDigit = true from hstarts] at hdigit
          cases hdigit
        · rw [hzero cs rfl] at hnext
          cases hnext
      rw [if_neg hopens]
      generalize dropDigits (c :: cs) = mid at hfraction
      cases hfraction with
      | none absent exponent =>
        split
        · exact absurd rfl absent
        · exact exponentText_iff.mp exponent
      | digits digits exponent =>
        obtain ⟨hstarts', rfl⟩ := digits_iff.mp digits
        simp only [hstarts', Bool.not_true, Bool.false_eq_true, if_false]
        exact exponentText_iff.mp exponent

theorem ExponentText.length_le {cs rest : List Char} (h : ExponentText cs rest) :
    rest.length ≤ cs.length := by
  cases h with
  | none absent => exact Nat.le_refl _
  | unsigned hmark digits => exact Nat.le_of_lt (Nat.lt_succ_of_lt digits.length_lt)
  | signed hmark hsign digits =>
    exact Nat.le_of_lt (Nat.lt_succ_of_lt (Nat.lt_succ_of_lt digits.length_lt))

theorem NumberText.length_lt {cs rest : List Char} (h : NumberText cs rest) :
    rest.length < cs.length := by
  obtain ⟨hdigits, -, hfraction⟩ := h
  refine Nat.lt_of_le_of_lt ?_ hdigits.length_lt
  cases hfraction with
  | none absent exponent => exact exponent.length_le
  | digits digits exponent =>
    exact Nat.le_of_lt (Nat.lt_succ_of_lt (Nat.lt_of_le_of_lt exponent.length_le digits.length_lt))

end ContentClient.Json
