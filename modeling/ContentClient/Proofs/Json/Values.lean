import ContentClient.Json.Reader
import ContentClient.Proofs.Json.Tokens

/-!
# The values of JSON text

The grammar of JSON text has one rule for each part of a value (`HasPart`): a value is a scalar or
a bracket with its contents; the contents are the closing bracket, or items; and behind an item
stands the closing bracket, or a comma and further items. An item of a list is a value, and one of
an object is a key, a colon and a value. No value is kept, so that any quotation will do for a key.

The check of a value keeps the open brackets on a stack. It succeeds exactly on the texts that begin
with a value (`skipValue_eq_ok_iff`). What the brackets on the stack still demand of the text is
written down as `Closes`: every run of the check that succeeds has met it, and a part in the text
takes the check from where the part begins to where it ends, with rounds to spare.
-/

namespace ContentClient.Json

theorem readColon_eq_ok_iff {cs rest : List Char} :
    readColon cs = .ok rest ↔ Begins ':' cs rest := by
  rw [begins_iff rfl, readColon]
  cases skipBlank cs with
  | nil => exact ⟨nofun, nofun⟩
  | cons c tail =>
    dsimp only
    rw [List.cons.injEq]
    split
    · rename_i hc
      rw [Except.ok.injEq]
      exact ⟨fun h => ⟨hc, h⟩, fun h => h.2⟩
    · rename_i hc
      exact ⟨nofun, fun h => absurd h.1 hc⟩

theorem Begins.length_lt {c : Char} {cs rest : List Char} (h : Begins c cs rest) :
    rest.length < cs.length := by
  induction h with
  | here rest => exact Nat.lt_succ_self _
  | blank hb more ih => exact Nat.lt_succ_of_lt ih

/-! ### The grammar -/

/-- Text begins with a value that is a single token. -/
inductive ScalarText : List Char → List Char → Prop
  | nullWord (rest : List Char) : ScalarText ('n' :: 'u' :: 'l' :: 'l' :: rest) rest
  | trueWord (rest : List Char) : ScalarText ('t' :: 'r' :: 'u' :: 'e' :: rest) rest
  | falseWord (rest : List Char) : ScalarText ('f' :: 'a' :: 'l' :: 's' :: 'e' :: rest) rest
  | negative {cs rest : List Char} (number : NumberText cs rest) : ScalarText ('-' :: cs) rest
  | number {cs rest : List Char} (number : NumberText cs rest) : ScalarText cs rest
  | string {cs rest : List Char} (quotation : Quotation cs rest) : ScalarText ('"' :: cs) rest

/-- The character that opens a bracket. -/
def Bracket.opening : Bracket → Char
  | .list => '['
  | .object => '\x7b'

/-- The character that closes a bracket. -/
def Bracket.closing : Bracket → Char
  | .list => ']'
  | .object => '\x7d'

/-- What precedes a value inside a bracket: nothing in a list, a key and its colon in an object. -/
inductive Leads : Bracket → List Char → List Char → Prop
  | list (cs : List Char) : Leads .list cs cs
  | object {cs mid tail rest : List Char} (quote : Begins '"' cs mid) (key : Quotation mid tail)
    (colon : Begins ':' tail rest) : Leads .object cs rest

/-- The parts of a value. -/
inductive Part where
  | value
  /-- What stands behind an opening bracket. -/
  | contents (b : Bracket)
  /-- Items, and what closes their bracket. -/
  | items (b : Bracket)
  /-- What stands behind an item. -/
  | ends (b : Bracket)

/-- Text begins with a part of a value. -/
inductive HasPart : Part → List Char → List Char → Prop
  | scalar {c : Char} {cs tail rest : List Char} (begins : Begins c cs tail)
    (scalar : ScalarText (c :: tail) rest) : HasPart .value cs rest
  | bracket {b : Bracket} {cs mid rest : List Char} (begins : Begins b.opening cs mid)
    (contents : HasPart (.contents b) mid rest) : HasPart .value cs rest
  | empty {b : Bracket} {cs rest : List Char} (closes : Begins b.closing cs rest) :
    HasPart (.contents b) cs rest
  | filled {b : Bracket} {cs rest : List Char} (items : HasPart (.items b) cs rest) :
    HasPart (.contents b) cs rest
  | item {b : Bracket} {cs mid tail rest : List Char} (leads : Leads b cs mid)
    (value : HasPart .value mid tail) (ends : HasPart (.ends b) tail rest) :
    HasPart (.items b) cs rest
  | last {b : Bracket} {cs rest : List Char} (closes : Begins b.closing cs rest) :
    HasPart (.ends b) cs rest
  | more {b : Bracket} {cs next rest : List Char} (comma : Begins ',' cs next)
    (items : HasPart (.items b) next rest) : HasPart (.ends b) cs rest

/-! ### Scalars -/

/-- A number begins with a digit, and so with no other character. -/
theorem NumberText.head_ne {c d : Char} {cs rest : List Char} (h : NumberText (c :: cs) rest)
    (hd : d.isDigit = false) : c ≠ d := by
  obtain ⟨digits, -, -⟩ := h
  have hdigit : c.isDigit = true := (digits_iff.mp digits).1
  rintro rfl
  rw [hdigit] at hd
  cases hd

theorem skipScalar_eq_ok_iff {cs rest : List Char} {u : Unit} :
    skipScalar cs = .ok (u, rest) ↔ ScalarText cs rest := by
  constructor
  · intro h
    cases cs with
    | nil => cases h
    | cons c cs =>
      rw [skipScalar] at h
      split at h
      · rename_i hc
        obtain rfl := readWord_eq_ok_iff.mp h
        exact hc ▸ .nullWord _
      · split at h
        · rename_i hc
          obtain rfl := readWord_eq_ok_iff.mp h
          exact hc ▸ .trueWord _
        · split at h
          · rename_i hc
            obtain rfl := readWord_eq_ok_iff.mp h
            exact hc ▸ .falseWord _
          · split at h
            · rename_i hc
              exact hc ▸ .negative (skipNumber_eq_ok_iff.mp h)
            · split at h
              · exact .number (skipNumber_eq_ok_iff.mp h)
              · split at h
                · rename_i hc
                  exact hc ▸ .string (skipString_eq_ok_iff.mp h)
                · cases h
  · intro h
    cases h with
    | nullWord rest => rfl
    | trueWord rest => rfl
    | falseWord rest => rfl
    | negative number => exact skipNumber_eq_ok_iff.mpr number
    | string quotation => exact skipString_eq_ok_iff.mpr quotation
    | number number =>
      have hskip : skipNumber cs = .ok (u, rest) := skipNumber_eq_ok_iff.mpr number
      cases cs with
      | nil => cases hskip
      | cons c cs =>
        have hdigit : c.isDigit = true := by
          obtain ⟨digits, -, -⟩ := number
          exact (digits_iff.mp digits).1
        rw [skipScalar, if_neg (number.head_ne rfl), if_neg (number.head_ne rfl),
          if_neg (number.head_ne rfl), if_neg (number.head_ne rfl), if_pos hdigit]
        exact hskip

theorem ScalarText.length_lt {cs rest : List Char} (h : ScalarText cs rest) :
    rest.length < cs.length := by
  cases h with
  | nullWord rest => exact Nat.lt_of_lt_of_le (Nat.lt_succ_self _) (Nat.le_add_right _ 3)
  | trueWord rest => exact Nat.lt_of_lt_of_le (Nat.lt_succ_self _) (Nat.le_add_right _ 3)
  | falseWord rest => exact Nat.lt_of_lt_of_le (Nat.lt_succ_self _) (Nat.le_add_right _ 4)
  | negative number => exact Nat.lt_succ_of_lt number.length_lt
  | number number => exact number.length_lt
  | string quotation => exact Nat.lt_succ_of_lt quotation.length_lt

/-- No scalar begins with a blank or a bracket. -/
theorem ScalarText.head {c : Char} {cs rest : List Char} (h : ScalarText (c :: cs) rest) :
    isBlank c = false ∧ ∀ b : Bracket, c ≠ b.opening ∧ c ≠ b.closing := by
  have hdecided (d : Char) (hd : isBlank d = false ∧
      ('[' ≠ d ∧ '\x7b' ≠ d ∧ ']' ≠ d ∧ '\x7d' ≠ d)) :
      isBlank d = false ∧ ∀ b : Bracket, d ≠ b.opening ∧ d ≠ b.closing := by
    refine ⟨hd.1, fun b => ?_⟩
    obtain ⟨-, hlist, hobject, hlist', hobject'⟩ := hd
    cases b with
    | list => exact ⟨hlist.symm, hlist'.symm⟩
    | object => exact ⟨hobject.symm, hobject'.symm⟩
  cases h with
  | nullWord rest => exact hdecided _ (by decide)
  | trueWord rest => exact hdecided _ (by decide)
  | falseWord rest => exact hdecided _ (by decide)
  | negative number => exact hdecided _ (by decide)
  | string quotation => exact hdecided _ (by decide)
  | number number =>
    have hne {d : Char} (hd : d.isDigit = false) : c ≠ d := number.head_ne hd
    refine hdecided c ⟨?_, (hne rfl).symm, (hne rfl).symm, (hne rfl).symm, (hne rfl).symm⟩
    rw [isBlank, beq_false_of_ne (hne rfl), beq_false_of_ne (hne rfl), beq_false_of_ne (hne rfl),
      beq_false_of_ne (hne rfl)]
    rfl

/-! ### What a check has met -/

/-- Text meets what brackets demand, innermost first, behind an item of the innermost. -/
inductive Closes : List Bracket → List Char → List Char → Prop
  | done (cs : List Char) : Closes [] cs cs
  | bracket {b : Bracket} {stack : List Bracket} {cs mid rest : List Char}
    (ends : HasPart (.ends b) cs mid) (closes : Closes stack mid rest) :
    Closes (b :: stack) cs rest

/-- Text meets what a check that stands inside brackets demands. -/
inductive Meets : SkipState → List Bracket → List Char → List Char → Prop
  | value {stack : List Bracket} {cs mid rest : List Char} (value : HasPart .value cs mid)
    (closes : Closes stack mid rest) : Meets .value stack cs rest
  | opened {b : Bracket} {stack : List Bracket} {cs mid rest : List Char}
    (contents : HasPart (.contents b) cs mid) (closes : Closes stack mid rest) :
    Meets (.inside false) (b :: stack) cs rest
  | behind {stack : List Bracket} {cs rest : List Char} (closes : Closes stack cs rest) :
    Meets (.inside true) stack cs rest
  | outside (comma : Bool) (cs : List Char) : Meets (.inside comma) [] cs cs

theorem isBlank_opening (b : Bracket) : isBlank b.opening = false := by cases b <;> rfl

theorem isBlank_closing (b : Bracket) : isBlank b.closing = false := by cases b <;> rfl

theorem closedBy_iff {b : Bracket} {c : Char} : b.closedBy c = true ↔ c = b.closing := by
  cases b <;> exact beq_iff_eq

theorem skipToValue_eq_ok_iff {b : Bracket} {cs rest : List Char} :
    skipToValue b cs = .ok rest ↔ Leads b cs rest := by
  cases b with
  | list =>
    rw [skipToValue, Except.ok.injEq]
    refine ⟨fun h => h ▸ .list cs, ?_⟩
    rintro ⟨⟩
    rfl
  | object =>
    rw [skipToValue]
    constructor
    · intro h
      split at h
      · cases h
      · rename_i c tail hblank
        split at h
        · rename_i hc
          split at h
          · cases h
          · rename_i mid hkey
            exact .object ((begins_iff rfl).mpr (hc ▸ hblank)) (skipString_eq_ok_iff.mp hkey)
              (readColon_eq_ok_iff.mp h)
        · cases h
    · intro h
      cases h with
      | object quote key colon =>
        rw [(begins_iff rfl).mp quote]
        dsimp only
        rw [if_pos rfl, (skipString_eq_ok_iff (u := ())).mpr key]
        exact readColon_eq_ok_iff.mpr colon

/-- What stands before a value may stand behind blanks. -/
theorem Begins.of_skipBlank {c : Char} (hc : isBlank c = false) {cs rest : List Char}
    (h : Begins c (skipBlank cs) rest) : Begins c cs rest := by
  rw [begins_iff hc, skipBlank_skipBlank] at h
  exact (begins_iff hc).mpr h

theorem HasPart.value_of_skipBlank {cs rest : List Char} (h : HasPart .value (skipBlank cs) rest) :
    HasPart .value cs rest := by
  cases h with
  | scalar begins scalar => exact .scalar (begins.of_skipBlank scalar.head.1) scalar
  | bracket begins contents => exact .bracket (begins.of_skipBlank (isBlank_opening _)) contents

theorem HasPart.item_of_skipBlank {b : Bracket} {cs mid tail rest : List Char}
    (leads : Leads b (skipBlank cs) mid) (value : HasPart .value mid tail)
    (ends : HasPart (.ends b) tail rest) : HasPart (.items b) cs rest := by
  cases leads with
  | list => exact .item (.list cs) value.value_of_skipBlank ends
  | object quote key colon => exact .item (.object (quote.of_skipBlank rfl) key colon) value ends

/-- **Soundness.** A check that succeeds has met what its state and its brackets demand. The
induction is on the rounds; every case adds one rule of the grammar. -/
theorem Meets.of_skipFrom {rounds : Nat} {state : SkipState} {stack : List Bracket}
    {cs rest : List Char} {u : Unit} (h : skipFrom rounds state stack cs = .ok (u, rest)) :
    Meets state stack cs rest := by
  induction rounds generalizing state stack cs with
  | zero => cases h
  | succ rounds ih =>
    -- going on behind a value that has been checked, or being done
    have hresume {stack : List Bracket} {mid : List Char}
        (hmid : (if stack.isEmpty then .ok ((), mid) else
          skipFrom rounds (.inside true) stack mid) = .ok (u, rest)) : Closes stack mid rest := by
      cases stack with
      | nil =>
        obtain ⟨-, rfl⟩ := Prod.mk.inj (Except.ok.inj hmid)
        exact .done _
      | cons b stack =>
        cases ih hmid with
        | behind closes => exact closes
    match state, stack with
    | .value, stack =>
      rw [skipFrom] at h
      split at h
      · rename_i tail hblank
        cases ih h with
        | opened contents closes =>
          exact .value (.bracket (b := .list) ((begins_iff rfl).mpr hblank) contents) closes
      · rename_i tail hblank
        cases ih h with
        | opened contents closes =>
          exact .value (.bracket (b := .object) ((begins_iff rfl).mpr hblank) contents) closes
      · split at h
        · cases h
        · rename_i mid hskip
          have hscalar := skipScalar_eq_ok_iff.mp hskip
          cases hblank : skipBlank cs with
          | nil =>
            rw [hblank] at hskip
            cases hskip
          | cons c tail =>
            rw [hblank] at hscalar
            exact .value (.scalar ((begins_iff hscalar.head.1).mpr hblank) hscalar) (hresume h)
    | .inside comma, [] =>
      obtain ⟨-, rfl⟩ := Prod.mk.inj (Except.ok.inj h)
      exact .outside comma _
    | .inside comma, b :: stack =>
      rw [skipFrom] at h
      split at h
      · cases h
      · rename_i c tail hblank
        split at h
        · rename_i hcloses
          obtain rfl := closedBy_iff.mp hcloses
          have hbegins := (begins_iff (isBlank_closing b)).mpr hblank
          cases comma with
          | false => exact .opened (.empty hbegins) (hresume h)
          | true => exact .behind (.bracket (.last hbegins) (hresume h))
        · split at h
          · cases h
          · rename_i hcomma
            split at h
            · cases h
            · rename_i mid hleads
              have hleads' := skipToValue_eq_ok_iff.mp hleads
              cases ih h with
              | value value closes =>
                cases closes with
                | bracket ends closes =>
                  cases comma with
                  | false =>
                    rw [if_neg Bool.false_ne_true, ← hblank] at hleads'
                    exact .opened (.filled (.item_of_skipBlank hleads' value ends)) closes
                  | true =>
                    rw [if_pos rfl] at hleads'
                    have hc : c = ',' := Classical.not_not.mp fun hne => hcomma ⟨rfl, hne⟩
                    have hbegins := (begins_iff rfl).mpr (hc ▸ hblank)
                    exact .behind (.bracket (.more hbegins (.item hleads' value ends)) closes)

/-! ### What a check gets through -/

/-- The check of a part, with the brackets around the part. -/
def skipPart (rounds : Nat) (stack : List Bracket) (cs : List Char) : Part → Reading Unit
  | .value => skipFrom rounds .value stack cs
  | .contents b => skipFrom rounds (.inside false) (b :: stack) cs
  | .items b =>
    match skipToValue b cs with
    | .error e => .error e
    | .ok cs => skipFrom rounds .value (b :: stack) cs
  | .ends b => skipFrom rounds (.inside true) (b :: stack) cs

/-- The rounds that the check of a part may take, apart from two for every character. -/
def Part.extra : Part → Nat
  | .contents _ => 2
  | _ => 1

theorem exists_round {n rounds : Nat} {part : Part} (h : n + part.extra ≤ rounds) :
    ∃ left, rounds = left + 1 := by
  have hpos : 0 < part.extra := by cases part <;> exact Nat.succ_pos _
  exact ⟨rounds - 1, by omega⟩

theorem skipPart_items_skipBlank (rounds : Nat) (stack : List Bracket) (cs : List Char)
    (b : Bracket) :
    skipPart rounds stack (skipBlank cs) (.items b) = skipPart rounds stack cs (.items b) := by
  cases b with
  | list =>
    cases rounds with
    | zero => rfl
    | succ rounds => simp only [skipPart, skipToValue, skipFrom, skipBlank_skipBlank]
  | object => simp only [skipPart, skipToValue, skipBlank_skipBlank]

/-- Items do not begin with the bracket that closes them. -/
theorem HasPart.items_head {b : Bracket} {cs rest : List Char} (h : HasPart (.items b) cs rest) :
    ∃ c tail, skipBlank cs = c :: tail ∧ c ≠ b.closing := by
  cases h with
  | item leads value ends =>
    cases leads with
    | list =>
      cases value with
      | scalar begins scalar =>
        obtain ⟨hblank, hne⟩ := scalar.head
        exact ⟨_, _, (begins_iff hblank).mp begins, (hne .list).2⟩
      | @bracket b' _ _ _ begins contents =>
        refine ⟨_, _, (begins_iff (isBlank_opening b')).mp begins, ?_⟩
        cases b' <;> decide
    | object quote key colon => exact ⟨_, _, (begins_iff rfl).mp quote, by decide⟩

theorem Leads.length_le {b : Bracket} {cs rest : List Char} (h : Leads b cs rest) :
    rest.length ≤ cs.length := by
  cases h with
  | list => exact Nat.le_refl _
  | object quote key colon =>
    exact Nat.le_of_lt (Nat.lt_trans colon.length_lt (Nat.lt_trans key.length_lt quote.length_lt))

theorem HasPart.length_lt {part : Part} {cs rest : List Char} (h : HasPart part cs rest) :
    rest.length < cs.length := by
  induction h with
  | scalar begins scalar =>
    have hlen := scalar.length_lt
    have hbegins := begins.length_lt
    rw [List.length_cons] at hlen
    omega
  | bracket begins contents ih => exact Nat.lt_trans ih begins.length_lt
  | empty closes => exact closes.length_lt
  | filled items ih => exact ih
  | item leads value ends ihvalue ihends =>
    exact Nat.lt_of_lt_of_le (Nat.lt_trans ihends ihvalue) leads.length_le
  | last closes => exact closes.length_lt
  | more comma items ih => exact Nat.lt_trans ih comma.length_lt

/-- **Completeness.** The check of a part that the text begins with goes on behind it, with rounds
left for the text there. The induction is on the rules of the grammar. -/
theorem HasPart.skipPart {part : Part} {cs rest : List Char} (h : HasPart part cs rest)
    (rounds : Nat) (hrounds : 2 * cs.length + part.extra ≤ rounds) (stack : List Bracket) :
    ∃ left, 2 * rest.length < left ∧
      skipPart rounds stack cs part = skipFrom left (.inside true) stack rest := by
  -- behind a value, being done is what a check outside of all brackets comes to
  have hresume {left : Nat} (hleft : 0 < left) (stack : List Bracket) (mid : List Char) :
      (if stack.isEmpty then .ok ((), mid) else skipFrom left (.inside true) stack mid) =
        skipFrom left (.inside true) stack mid := by
    obtain ⟨n, rfl⟩ := Nat.exists_eq_add_one.mpr hleft
    cases stack <;> rfl
  induction h generalizing rounds stack with
  | @scalar c cs tail rest begins scalar =>
    obtain ⟨n, rfl⟩ := exists_round hrounds
    obtain ⟨hblank, hne⟩ := scalar.head
    have hlen := scalar.length_lt
    have hbegins := begins.length_lt
    simp only [Part.extra, List.length_cons] at hrounds hlen
    have hleft : 2 * rest.length < n := by omega
    refine ⟨n, hleft, ?_⟩
    rw [Json.skipPart, skipFrom, (begins_iff hblank).mp begins]
    split
    · rename_i heq
      exact absurd (List.cons.inj heq).1 (hne .list).1
    · rename_i heq
      exact absurd (List.cons.inj heq).1 (hne .object).1
    · rw [(skipScalar_eq_ok_iff (u := ())).mpr scalar]
      exact hresume (Nat.zero_lt_of_lt hleft) stack rest
  | @bracket b cs mid rest begins contents ih =>
    obtain ⟨n, rfl⟩ := exists_round hrounds
    have hbegins := begins.length_lt
    simp only [Part.extra] at hrounds ih
    obtain ⟨left, hleft, heq⟩ := ih n (by omega) stack
    refine ⟨left, hleft, ?_⟩
    rw [← heq, Json.skipPart, skipFrom, (begins_iff (isBlank_opening b)).mp begins]
    cases b <;> rfl
  | @empty b cs rest closes =>
    obtain ⟨n, rfl⟩ := exists_round hrounds
    have hcloses := closes.length_lt
    simp only [Part.extra] at hrounds
    have hleft : 2 * rest.length < n := by omega
    refine ⟨n, hleft, ?_⟩
    rw [Json.skipPart, skipFrom, (begins_iff (isBlank_closing b)).mp closes]
    dsimp only
    rw [if_pos (closedBy_iff.mpr rfl)]
    exact hresume (Nat.zero_lt_of_lt hleft) stack rest
  | @filled b cs rest items ih =>
    obtain ⟨n, rfl⟩ := exists_round hrounds
    obtain ⟨c, tail, hblank, hne⟩ := items.items_head
    simp only [Part.extra] at hrounds ih
    obtain ⟨left, hleft, heq⟩ := ih n (by omega) stack
    refine ⟨left, hleft, ?_⟩
    rw [← heq, ← skipPart_items_skipBlank, hblank, Json.skipPart, skipFrom, hblank]
    dsimp only
    rw [if_neg (fun hcloses => hne (closedBy_iff.mp hcloses)), if_neg (fun h => nomatch h.1),
      if_neg Bool.false_ne_true]
    rfl
  | @item b cs mid tail rest leads value ends ihvalue ihends =>
    have hleads := leads.length_le
    simp only [Part.extra] at hrounds ihvalue ihends
    obtain ⟨left, hleft, heq⟩ := ihvalue rounds (by omega) (b :: stack)
    obtain ⟨left', hleft', heq'⟩ := ihends left (by omega) stack
    refine ⟨left', hleft', ?_⟩
    rw [← heq', Json.skipPart, skipToValue_eq_ok_iff.mpr leads]
    exact heq
  | @last b cs rest closes =>
    obtain ⟨n, rfl⟩ := exists_round hrounds
    have hcloses := closes.length_lt
    simp only [Part.extra] at hrounds
    have hleft : 2 * rest.length < n := by omega
    refine ⟨n, hleft, ?_⟩
    rw [Json.skipPart, skipFrom, (begins_iff (isBlank_closing b)).mp closes]
    dsimp only
    rw [if_pos (closedBy_iff.mpr rfl)]
    exact hresume (Nat.zero_lt_of_lt hleft) stack rest
  | @more b cs next rest comma items ih =>
    obtain ⟨n, rfl⟩ := exists_round hrounds
    have hcomma := comma.length_lt
    simp only [Part.extra] at hrounds ih
    obtain ⟨left, hleft, heq⟩ := ih n (by omega) stack
    refine ⟨left, hleft, ?_⟩
    have hopen : ¬ b.closedBy ',' = true := by cases b <;> decide
    rw [← heq]
    show skipFrom (n + 1) (.inside true) (b :: stack) cs = _
    rw [skipFrom, (begins_iff rfl).mp comma]
    dsimp only
    rw [if_neg hopen, if_neg (fun h => h.2 rfl), if_pos rfl]
    rfl

/-- **The check of a value** succeeds exactly on the texts that begin with one. -/
theorem skipValue_eq_ok_iff {cs rest : List Char} {u : Unit} :
    skipValue cs = .ok (u, rest) ↔ HasPart .value cs rest := by
  constructor
  · intro h
    cases Meets.of_skipFrom h with
    | value value closes =>
      cases closes
      exact value
  · intro h
    obtain ⟨left, hleft, heq⟩ := h.skipPart (2 * cs.length + 2) (Nat.le_succ _) []
    obtain ⟨n, rfl⟩ := Nat.exists_eq_add_one.mpr (Nat.zero_lt_of_lt hleft)
    exact heq

end ContentClient.Json
