import ContentClient.Json.Shape
import ContentClient.Proofs.Json.Values

/-!
# Records of texts

A record whose fields are texts that may be absent or null is written in two ways (`RecordText`). As
an object, its named members are a string or null each, and no name stands twice; all other members
may be any value. As a list, it holds no more strings and nulls than there are fields, in the order
of the fields. Nothing but blanks stands around either.

Decoding such a record succeeds exactly on these texts, and gives every field what its member or its
place in the list holds (`RecordText.decodeText` and `RecordText.of_decodeText`). Both loops of the
reader take up one rule of the grammar in each round, so that the two directions are inductions on
the rounds and on the rules.
-/

namespace ContentClient.Json

/-! ### The grammar -/

/-- Text begins with the value of a field: null, or a string. -/
inductive FieldText : List Char → Option String → List Char → Prop
  | null {cs rest : List Char} (word : Begins 'n' cs ('u' :: 'l' :: 'l' :: rest)) :
    FieldText cs none rest
  | string {cs mid rest : List Char} {s : String} (quote : Begins '"' cs mid)
    (text : StringText mid s.toList rest) : FieldText cs (some s) rest

/-- Text goes on with a key: the `first` one of an object, or one behind a comma. -/
inductive KeyText : Bool → List Char → String → List Char → Prop
  | first {cs mid rest : List Char} {key : String} (quote : Begins '"' cs mid)
    (text : StringText mid key.toList rest) : KeyText true cs key rest
  | next {cs mid rest : List Char} {key : String} (comma : Begins ',' cs mid)
    (text : KeyText true mid key rest) : KeyText false cs key rest

/-- Text goes on with the members of an object and its closing bracket. The members that have one of
the names are listed with their values. -/
inductive HasMembers (names : List String) :
    Bool → List Char → List (String × Option String) → List Char → Prop
  | done {first : Bool} {cs rest : List Char} (closes : Begins '\x7d' cs rest) :
    HasMembers names first cs [] rest
  | named {first : Bool} {cs mid tail behind rest : List Char} {key : String}
    {value : Option String} {members : List (String × Option String)}
    (keyText : KeyText first cs key mid) (mem : key ∈ names) (colon : Begins ':' mid tail)
    (field : FieldText tail value behind) (more : HasMembers names false behind members rest) :
    HasMembers names first cs ((key, value) :: members) rest
  | other {first : Bool} {cs mid tail behind rest : List Char} {key : String}
    {members : List (String × Option String)} (keyText : KeyText first cs key mid)
    (not_mem : key ∉ names) (colon : Begins ':' mid tail) (value : HasPart .value tail behind)
    (more : HasMembers names false behind members rest) : HasMembers names first cs members rest

/-- Text goes on with an item: the `first` one of a list, or one behind a comma. -/
inductive ItemStart : Bool → List Char → List Char → Prop
  | first (cs : List Char) : ItemStart true cs cs
  | next {cs rest : List Char} (comma : Begins ',' cs rest) : ItemStart false cs rest

/-- Text goes on with the values of a list and its closing bracket. -/
inductive HasValues : Bool → List Char → List (Option String) → List Char → Prop
  | done {first : Bool} {cs rest : List Char} (closes : Begins ']' cs rest) :
    HasValues first cs [] rest
  | item {first : Bool} {cs mid behind rest : List Char} {value : Option String}
    {values : List (Option String)} (start : ItemStart first cs mid)
    (field : FieldText mid value behind) (more : HasValues false behind values rest) :
    HasValues first cs (value :: values) rest

/-- What is written for a name: null counts as nothing. -/
def written (members : List (String × Option String)) (name : String) : Option String :=
  (members.lookup name).join

/-- A text is a record of texts with the given names, in which the names have values. -/
inductive RecordText (names : List String) : List Char → (String → Option String) → Prop
  | object {cs mid rest : List Char} {members : List (String × Option String)}
    (opens : Begins '\x7b' cs mid) (text : HasMembers names true mid members rest)
    (distinct : (members.map Prod.fst).Nodup) (blank : IsBlankText rest) :
    RecordText names cs (written members)
  | list {cs mid rest : List Char} {values : List (Option String)} (opens : Begins '[' cs mid)
    (text : HasValues true mid values rest) (fits : values.length ≤ names.length)
    (blank : IsBlankText rest) : RecordText names cs (written (names.zip values))

/-! ### Fields -/

section Fields

variable {f : Field} {name : String}

/-- A field holds a text that may be absent or null. -/
def Field.IsText (f : Field) : Prop :=
  f.leaf = .string ∧ f.nullable = true ∧ f.fallback = some .null

theorem Field.isText_optional (name : String) : (Field.optional name .string).IsText :=
  ⟨rfl, rfl, rfl⟩

theorem Field.IsText.read_eq_ok_iff (hf : f.IsText) (nesting : Nat) {cs rest : List Char}
    {v : Json} :
    f.read nesting cs = .ok (v, rest) ↔ ∃ value, v = ofString? value ∧ FieldText cs value rest := by
  obtain ⟨hleaf, hnullable, -⟩ := hf
  have hstring : Leaf.string.read nesting cs = .ok (v, rest) ↔
      ∃ s mid, Begins '"' cs mid ∧ StringText mid s.toList rest ∧ v = .string s := by
    unfold Leaf.read
    dsimp only
    constructor
    · intro h
      split at h
      · rename_i mid hblank
        obtain ⟨⟨s, rest'⟩, hread, hr⟩ := map_eq_ok_iff.mp h
        obtain ⟨rfl, rfl⟩ := Prod.mk.inj hr
        exact ⟨s, mid, (begins_iff rfl).mpr hblank, readString_eq_ok_iff.mp hread, rfl⟩
      · cases h
    · rintro ⟨s, mid, hquote, htext, rfl⟩
      rw [(begins_iff rfl).mp hquote]
      exact map_eq_ok_iff.mpr ⟨(s, rest), readString_eq_ok_iff.mpr htext, rfl⟩
  rw [Field.read, hleaf, hnullable]
  simp only [if_true]
  constructor
  · intro h
    split at h
    · rename_i mid hblank
      obtain ⟨⟨u, rest'⟩, hread, hr⟩ := map_eq_ok_iff.mp h
      obtain ⟨rfl, rfl⟩ := Prod.mk.inj hr
      obtain rfl := readWord_eq_ok_iff.mp hread
      exact ⟨none, rfl, .null ((begins_iff rfl).mpr hblank)⟩
    · obtain ⟨s, mid, hquote, htext, rfl⟩ := hstring.mp h
      exact ⟨some s, rfl, .string hquote htext⟩
  · rintro ⟨value, rfl, htext⟩
    cases htext with
    | null word =>
      rw [(begins_iff rfl).mp word]
      exact map_eq_ok_iff.mpr ⟨((), rest), readWord_eq_ok_iff.mpr rfl, rfl⟩
    | string quote text =>
      have hread := hstring.mpr ⟨_, _, quote, text, rfl⟩
      rw [(begins_iff rfl).mp quote]
      exact hread

theorem FieldText.length_lt {cs rest : List Char} {value : Option String}
    (h : FieldText cs value rest) : rest.length < cs.length := by
  cases h with
  | null word =>
    have hlen := word.length_lt
    simp only [List.length_cons] at hlen
    omega
  | string quote text => exact Nat.lt_trans text.length_lt quote.length_lt

theorem FieldText.of_skipBlank {cs rest : List Char} {value : Option String}
    (h : FieldText (skipBlank cs) value rest) : FieldText cs value rest := by
  cases h with
  | null word => exact .null (word.of_skipBlank rfl)
  | string quote text => exact .string (quote.of_skipBlank rfl) text

theorem FieldText.skipBlank {cs rest : List Char} {value : Option String}
    (h : FieldText cs value rest) :
    FieldText (skipBlank cs) value rest ∧ ∃ c tail, skipBlank cs = c :: tail ∧ c ≠ ']' := by
  have hbegins {c : Char} (hc : isBlank c = false) {mid : List Char} (h : Begins c cs mid) :
      Begins c (Json.skipBlank cs) mid := by
    rw [begins_iff hc, skipBlank_skipBlank]
    exact (begins_iff hc).mp h
  cases h with
  | null word =>
    exact ⟨.null (hbegins rfl word), _, _, (begins_iff rfl).mp word, by decide⟩
  | string quote text =>
    exact ⟨.string (hbegins rfl quote) text, _, _, (begins_iff rfl).mp quote, by decide⟩

end Fields

/-! ### Objects -/

theorem nextKey_eq_done_iff {first : Bool} {cs rest : List Char} :
    nextKey first cs = .ok (.done rest) ↔ Begins '\x7d' cs rest := by
  have hkey (cs : List Char) : readKey cs ≠ .ok (.done rest) := by
    intro h
    unfold readKey at h
    split at h
    · cases h
    · split at h
      · obtain ⟨r, -, hr⟩ := map_eq_ok_iff.mp h
        cases hr
      · cases h
  rw [begins_iff rfl, nextKey]
  cases skipBlank cs with
  | nil => exact ⟨nofun, nofun⟩
  | cons c tail =>
    dsimp only
    rw [List.cons.injEq]
    split
    · rename_i hc
      rw [Except.ok.injEq, ObjectStep.done.injEq]
      exact ⟨fun h => ⟨hc, h⟩, fun h => h.2⟩
    · rename_i hc
      refine ⟨fun h => ?_, fun h => absurd h.1 hc⟩
      split at h
      · exact absurd h (hkey _)
      · split at h
        · split at h
          · cases h
          · split at h
            · cases h
            · exact absurd h (hkey _)
        · cases h

theorem readKey_skipBlank_eq_key_iff {cs rest : List Char} {key : String} :
    readKey (skipBlank cs) = .ok (.key key rest) ↔ KeyText true cs key rest := by
  constructor
  · intro h
    unfold readKey at h
    split at h
    · cases h
    · rename_i c tail hblank
      split at h
      · rename_i hc
        obtain ⟨⟨key', rest'⟩, hread, hr⟩ := map_eq_ok_iff.mp h
        obtain ⟨rfl, rfl⟩ := ObjectStep.key.inj hr
        exact .first ((begins_iff rfl).mpr (hc ▸ hblank)) (readString_eq_ok_iff.mp hread)
      · cases h
  · intro h
    cases h with
    | first quote text =>
      rw [(begins_iff rfl).mp quote, readKey, if_pos rfl]
      exact map_eq_ok_iff.mpr ⟨(key, rest), readString_eq_ok_iff.mpr text, rfl⟩

/-- The first key of an object begins with a quote. -/
theorem KeyText.skipBlank_first {cs rest : List Char} {key : String}
    (h : KeyText true cs key rest) : ∃ tail, skipBlank cs = '"' :: tail := by
  cases h with
  | first quote text => exact ⟨_, (begins_iff rfl).mp quote⟩

theorem nextKey_eq_key_iff {first : Bool} {cs rest : List Char} {key : String} :
    nextKey first cs = .ok (.key key rest) ↔ KeyText first cs key rest := by
  constructor
  · intro h
    unfold nextKey at h
    split at h
    · cases h
    · rename_i c tail hblank
      split at h
      · cases h
      · split at h
        · rename_i hfirst
          rw [hfirst, ← readKey_skipBlank_eq_key_iff, hblank]
          exact h
        · rename_i hfirst
          split at h
          · rename_i hc
            have hcomma := (begins_iff rfl).mpr (hc ▸ hblank)
            rw [Bool.not_eq_true] at hfirst
            rw [hfirst]
            split at h
            · cases h
            · rename_i d tail' hblank'
              split at h
              · cases h
              · rw [← hblank'] at h
                exact .next hcomma (readKey_skipBlank_eq_key_iff.mp h)
          · cases h
  · intro h
    cases h with
    | first quote text =>
      have hread := readKey_skipBlank_eq_key_iff.mpr (.first quote text)
      rw [(begins_iff rfl).mp quote] at hread
      rw [nextKey, (begins_iff rfl).mp quote]
      exact hread
    | next comma text =>
      have hread := readKey_skipBlank_eq_key_iff.mpr text
      obtain ⟨tail, htail⟩ := text.skipBlank_first
      rw [htail] at hread
      rw [nextKey, (begins_iff rfl).mp comma]
      dsimp only
      rw [if_neg (by decide), if_neg Bool.false_ne_true, if_pos rfl, htail]
      exact hread

theorem KeyText.length_lt {first : Bool} {cs rest : List Char} {key : String}
    (h : KeyText first cs key rest) : rest.length < cs.length := by
  have hfirst {cs : List Char} (h : KeyText true cs key rest) : rest.length < cs.length := by
    cases h with
    | first quote text => exact Nat.lt_trans text.length_lt quote.length_lt
  cases h with
  | first quote text => exact hfirst (.first quote text)
  | next comma text => exact Nat.lt_trans (hfirst text) comma.length_lt

section Objects

variable {r : Record} {names : List String}

/-- The fields of a record are texts with the given names. -/
def Record.HasTexts (r : Record) (names : List String) : Prop :=
  r.fields = names.map (Field.optional · .string)

/-- Named members as the reader keeps them. -/
def kept (members : List (String × Option String)) : Members :=
  members.map fun m => (m.1, ofString? m.2)

theorem Record.HasTexts.field?_eq_none_iff (h : r.HasTexts names) {key : String} :
    r.field? key = none ↔ key ∉ names := by
  rw [Record.field?, h, List.find?_eq_none]
  simp only [List.forall_mem_map, Field.optional, beq_iff_eq]
  exact ⟨fun hne hmem => hne key hmem rfl, fun hnot name hmem heq => hnot (heq ▸ hmem)⟩

theorem Record.HasTexts.field?_isText (h : r.HasTexts names) {key : String} {f : Field}
    (hf : r.field? key = some f) : f.IsText := by
  rw [Record.field?, h] at hf
  obtain ⟨name, -, rfl⟩ := List.mem_map.mp (List.mem_of_find?_eq_some hf)
  exact Field.isText_optional name

theorem Members.isSome_find?_iff {members : Members} {key : String} :
    (members.find? key).isSome = true ↔ key ∈ members.map Prod.fst := by
  simp [Members.find?, List.mem_map]

/-- What reading a member comes to. -/
theorem Record.HasTexts.readMember_eq_ok_iff (h : r.HasTexts names) (nesting : Nat)
    (found : Members) {found' : Members} {key : String} {cs rest : List Char} :
    r.readMember nesting found key cs = .ok (found', rest) ↔
      ∃ tail, Begins ':' cs tail ∧
        ((key ∉ names ∧ HasPart .value tail rest ∧ found' = found) ∨
          (key ∈ names ∧ key ∉ found.map Prod.fst ∧ ∃ value, FieldText tail value rest ∧
            found' = found ++ kept [(key, value)])) := by
  unfold Record.readMember
  cases hfield : r.field? key with
  | none =>
    have hnot := h.field?_eq_none_iff.mp hfield
    dsimp only
    constructor
    · intro hread
      split at hread
      · cases hread
      · rename_i tail hcolon
        obtain ⟨⟨u, rest'⟩, hskip, hr⟩ := map_eq_ok_iff.mp hread
        obtain ⟨rfl, rfl⟩ := Prod.mk.inj hr
        exact ⟨tail, readColon_eq_ok_iff.mp hcolon, .inl ⟨hnot, skipValue_eq_ok_iff.mp hskip, rfl⟩⟩
    · rintro ⟨tail, hcolon, ⟨-, hvalue, rfl⟩ | ⟨hmem, -⟩⟩
      · rw [readColon_eq_ok_iff.mpr hcolon]
        exact map_eq_ok_iff.mpr ⟨((), rest), skipValue_eq_ok_iff.mpr hvalue, rfl⟩
      · exact absurd hmem hnot
  | some f =>
    have hmem : key ∈ names := by
      refine Classical.byContradiction fun hnot => ?_
      rw [h.field?_eq_none_iff.mpr hnot] at hfield
      cases hfield
    have hread {tail : List Char} {v : Json} : f.read nesting tail = .ok (v, rest) ↔
        ∃ value, v = ofString? value ∧ FieldText tail value rest :=
      (h.field?_isText hfield).read_eq_ok_iff nesting
    dsimp only
    constructor
    · intro hmember
      split at hmember
      · cases hmember
      · rename_i hnew
        rw [Members.isSome_find?_iff] at hnew
        split at hmember
        · cases hmember
        · rename_i tail hcolon
          obtain ⟨⟨v, rest'⟩, hfieldRead, hr⟩ := map_eq_ok_iff.mp hmember
          obtain ⟨rfl, rfl⟩ := Prod.mk.inj hr
          obtain ⟨value, hvalue, htext⟩ := hread.mp hfieldRead
          obtain rfl : v = ofString? value := hvalue
          exact ⟨tail, readColon_eq_ok_iff.mp hcolon, .inr ⟨hmem, hnew, value, htext, rfl⟩⟩
    · rintro ⟨tail, hcolon, ⟨hnot, -⟩ | ⟨-, hnew, value, htext, rfl⟩⟩
      · exact absurd hmem hnot
      · rw [if_neg (mt Members.isSome_find?_iff.mp hnew), readColon_eq_ok_iff.mpr hcolon]
        exact map_eq_ok_iff.mpr ⟨(ofString? value, rest), hread.mpr ⟨value, rfl, htext⟩, rfl⟩

theorem keys_kept (members : List (String × Option String)) :
    (kept members).map Prod.fst = members.map Prod.fst := by
  rw [kept, List.map_map]
  rfl

theorem HasMembers.of_foldMembers (h : r.HasTexts names) {nesting rounds : Nat} {first : Bool}
    {found found' : Members} {cs rest : List Char} (hfound : (found.map Prod.fst).Nodup)
    (hread : foldMembers (r.readMember nesting) rounds first found cs = .ok (found', rest)) :
    ∃ members, HasMembers names first cs members rest ∧ found' = found ++ kept members ∧
      (found'.map Prod.fst).Nodup := by
  induction rounds generalizing first found cs with
  | zero => cases hread
  | succ rounds ih =>
    rw [foldMembers] at hread
    split at hread
    · cases hread
    · rename_i hkey
      obtain ⟨rfl, rfl⟩ := Prod.mk.inj (Except.ok.inj hread)
      exact ⟨[], .done (nextKey_eq_done_iff.mp hkey), (List.append_nil _).symm, hfound⟩
    · rename_i key mid hkey
      have hkeyText := nextKey_eq_key_iff.mp hkey
      split at hread
      · cases hread
      · rename_i next behind hmember
        obtain ⟨tail, hcolon, ⟨hnot, hvalue, rfl⟩ | ⟨hmem, hnew, value, htext, rfl⟩⟩ :=
          (h.readMember_eq_ok_iff nesting found).mp hmember
        · obtain ⟨members, hmore, heq, hnodup⟩ := ih hfound hread
          exact ⟨members, .other hkeyText hnot hcolon hvalue hmore, heq, hnodup⟩
        · have hnext : ((found ++ kept [(key, value)]).map Prod.fst).Nodup := by
            rw [List.map_append, keys_kept]
            have hone : ([(key, value)].map Prod.fst).Nodup :=
              List.nodup_cons.mpr ⟨List.not_mem_nil, List.nodup_nil⟩
            refine List.nodup_append.mpr ⟨hfound, hone, ?_⟩
            intro a ha b hb heq
            rw [heq, List.mem_singleton.mp hb] at ha
            exact hnew ha
          obtain ⟨members, hmore, rfl, hnodup⟩ := ih hnext hread
          refine ⟨(key, value) :: members, .named hkeyText hmem hcolon htext hmore, ?_, hnodup⟩
          rw [List.append_assoc]
          rfl

theorem HasMembers.foldMembers (h : r.HasTexts names) {first : Bool}
    {members : List (String × Option String)} {cs rest : List Char}
    (hmembers : HasMembers names first cs members rest) (nesting : Nat) {rounds : Nat}
    (hrounds : cs.length < rounds) {found : Members}
    (hdistinct : ((found ++ kept members).map Prod.fst).Nodup) :
    foldMembers (r.readMember nesting) rounds first found cs =
      .ok (found ++ kept members, rest) := by
  induction hmembers generalizing rounds found with
  | done closes =>
    obtain ⟨n, rfl⟩ := Nat.exists_eq_add_one.mpr (Nat.zero_lt_of_lt hrounds)
    rw [Json.foldMembers, nextKey_eq_done_iff.mpr closes, kept, List.map_nil, List.append_nil]
  | @named first cs mid tail behind rest key value members keyText mem colon field more ih =>
    obtain ⟨n, rfl⟩ := Nat.exists_eq_add_one.mpr (Nat.zero_lt_of_lt hrounds)
    have hsplit : found ++ kept ((key, value) :: members) =
        (found ++ kept [(key, value)]) ++ kept members := by
      rw [List.append_assoc]
      rfl
    have hnew : key ∉ found.map Prod.fst := by
      intro hmem
      rw [List.map_append, List.nodup_append] at hdistinct
      exact hdistinct.2.2 key hmem key List.mem_cons_self rfl
    have hmember := (h.readMember_eq_ok_iff nesting found).mpr
      ⟨tail, colon, .inr ⟨mem, hnew, value, field, rfl⟩⟩
    have hlen := Nat.lt_trans (Nat.lt_trans field.length_lt colon.length_lt) keyText.length_lt
    rw [Json.foldMembers, nextKey_eq_key_iff.mpr keyText]
    dsimp only
    rw [hmember, hsplit]
    dsimp only
    rw [hsplit] at hdistinct
    exact ih (Nat.lt_of_lt_of_le hlen (Nat.le_of_lt_succ hrounds)) hdistinct
  | @other first cs mid tail behind rest key members keyText not_mem colon value more ih =>
    obtain ⟨n, rfl⟩ := Nat.exists_eq_add_one.mpr (Nat.zero_lt_of_lt hrounds)
    have hmember := (h.readMember_eq_ok_iff nesting found).mpr
      ⟨tail, colon, .inl ⟨not_mem, value, rfl⟩⟩
    have hlen := Nat.lt_trans (Nat.lt_trans value.length_lt colon.length_lt) keyText.length_lt
    rw [Json.foldMembers, nextKey_eq_key_iff.mpr keyText]
    dsimp only
    rw [hmember]
    exact ih (Nat.lt_of_lt_of_le hlen (Nat.le_of_lt_succ hrounds)) hdistinct

end Objects

/-! ### Lists -/

theorem nextItem_eq_done_iff {first : Bool} {cs rest : List Char} :
    nextItem first cs = .ok (.done rest) ↔ Begins ']' cs rest := by
  rw [begins_iff rfl, nextItem]
  cases skipBlank cs with
  | nil => exact ⟨nofun, nofun⟩
  | cons c tail =>
    dsimp only
    rw [List.cons.injEq]
    split
    · rename_i hc
      rw [Except.ok.injEq, ListStep.done.injEq]
      exact ⟨fun h => ⟨hc, h⟩, fun h => h.2⟩
    · rename_i hc
      refine ⟨fun h => ?_, fun h => absurd h.1 hc⟩
      split at h
      · cases h
      · split at h
        · split at h
          · cases h
          · split at h <;> cases h
        · cases h

theorem ItemStart.of_nextItem {first : Bool} {cs mid : List Char}
    (h : nextItem first cs = .ok (.item mid)) :
    ∃ start, ItemStart first cs start ∧ mid = skipBlank start := by
  unfold nextItem at h
  split at h
  · cases h
  · rename_i c tail hblank
    split at h
    · cases h
    · split at h
      · rename_i hfirst
        obtain rfl := ListStep.item.inj (Except.ok.inj h)
        rw [hfirst]
        exact ⟨cs, .first cs, hblank.symm⟩
      · rename_i hfirst
        rw [Bool.not_eq_true] at hfirst
        split at h
        · rename_i hc
          have hcomma := (begins_iff rfl).mpr (hc ▸ hblank)
          split at h
          · cases h
          · rename_i d tail' hblank'
            split at h
            · cases h
            · obtain rfl := ListStep.item.inj (Except.ok.inj h)
              rw [hfirst]
              exact ⟨tail, .next hcomma, hblank'.symm⟩
        · cases h

theorem ItemStart.nextItem {first : Bool} {cs start tail : List Char} {c : Char}
    (h : ItemStart first cs start) (hblank : skipBlank start = c :: tail) (hc : c ≠ ']') :
    nextItem first cs = .ok (.item (skipBlank start)) := by
  cases h with
  | first => rw [Json.nextItem, hblank]; exact if_neg hc
  | next comma =>
    rw [Json.nextItem, (begins_iff rfl).mp comma]
    dsimp only
    rw [if_neg (by decide), if_neg Bool.false_ne_true, if_pos rfl, hblank]
    exact if_neg hc

theorem closeList_eq_ok_iff {cs rest : List Char} :
    closeList cs = .ok rest ↔ Begins ']' cs rest := by
  rw [begins_iff rfl, closeList]
  constructor
  · intro h
    split at h
    · cases h
    · rename_i tail hblank
      rw [hblank, Except.ok.inj h]
    · split at h <;> cases h
    · cases h
  · intro h
    simp only [h]

/-- The values of a list as the reader keeps them, with null for the names that it does not
reach. -/
def filled : List String → List (Option String) → Members
  | [], _ => []
  | name :: names, [] => (name, .null) :: filled names []
  | name :: names, value :: values => (name, ofString? value) :: filled names values

section Lists

variable {r : Record} {names : List String} {nesting index : Nat} {cs rest : List Char}

theorem HasValues.eq_nil_of_closes {first : Bool} {values : List (Option String)}
    (h : HasValues first cs values rest) (hcloses : first = false) {behind : List Char}
    (hbegins : Begins ']' cs behind) : values = [] := by
  cases h with
  | done closes => rfl
  | item start field more =>
    cases start with
    | first => cases hcloses
    | next comma =>
      have heq := (begins_iff rfl).mp comma
      rw [(begins_iff rfl).mp hbegins] at heq
      exact absurd (List.cons.inj heq).1 (by decide)

theorem HasValues.of_readList {members : Members} {mid : List Char}
    (hread : r.readList nesting (names.map (Field.optional · .string)) index cs =
      .ok (members, mid))
    (hclose : closeList mid = .ok rest) :
    ∃ values, HasValues (index = 0) cs values rest ∧ values.length ≤ names.length ∧
      members = filled names values := by
  induction names generalizing index cs members with
  | nil =>
    obtain ⟨rfl, rfl⟩ := Prod.mk.inj (Except.ok.inj hread)
    exact ⟨[], .done (closeList_eq_ok_iff.mp hclose), Nat.le_refl _, rfl⟩
  | cons name names ih =>
    rw [List.map_cons, Record.readList] at hread
    split at hread
    · cases hread
    · rename_i behind hdone
      have hcloses := nextItem_eq_done_iff.mp hdone
      obtain ⟨⟨members', mid'⟩, hmore, hr⟩ := map_eq_ok_iff.mp hread
      obtain ⟨rfl, rfl⟩ := Prod.mk.inj hr
      obtain ⟨values, hvalues, -, rfl⟩ := ih hmore
      obtain rfl := hvalues.eq_nil_of_closes (by simp) hcloses
      cases hvalues with
      | done closes => exact ⟨[], .done closes, Nat.zero_le _, rfl⟩
    · rename_i item hitem
      obtain ⟨start, hstart, rfl⟩ := ItemStart.of_nextItem hitem
      split at hread
      · cases hread
      · rename_i v behind hfield
        obtain ⟨value, rfl, htext⟩ :=
          ((Field.isText_optional name).read_eq_ok_iff nesting).mp hfield
        obtain ⟨⟨members', mid'⟩, hmore, hr⟩ := map_eq_ok_iff.mp hread
        obtain ⟨rfl, rfl⟩ := Prod.mk.inj hr
        obtain ⟨values, hvalues, hlen, rfl⟩ := ih hmore
        have hlater : decide (index + 1 = 0) = false := by simp
        rw [hlater] at hvalues
        exact ⟨value :: values, .item hstart htext.of_skipBlank hvalues, Nat.succ_le_succ hlen, rfl⟩

theorem HasValues.readList (r : Record) (nesting index : Nat) {values : List (Option String)}
    (h : HasValues (index = 0) cs values rest) (hlen : values.length ≤ names.length) :
    ∃ mid, r.readList nesting (names.map (Field.optional · .string)) index cs =
      .ok (filled names values, mid) ∧ closeList mid = .ok rest := by
  induction names generalizing index cs values with
  | nil =>
    obtain rfl := List.length_eq_zero_iff.mp (Nat.le_zero.mp hlen)
    cases h with
    | done closes => exact ⟨cs, rfl, closeList_eq_ok_iff.mpr closes⟩
  | cons name names ih =>
    have hlater : decide (index + 1 = 0) = false := by simp
    rw [List.map_cons, Record.readList]
    cases h with
    | done closes =>
      obtain ⟨mid, hmore, hclose⟩ := ih (index + 1) (.done closes) (Nat.zero_le _)
      refine ⟨mid, ?_, hclose⟩
      rw [nextItem_eq_done_iff.mpr closes]
      exact map_eq_ok_iff.mpr ⟨_, hmore, rfl⟩
    | item hstart field more =>
      rw [← hlater] at more
      obtain ⟨mid, hmore, hclose⟩ := ih (index + 1) more (Nat.le_of_succ_le_succ hlen)
      obtain ⟨htext, c, tail, hblank, hc⟩ := field.skipBlank
      have hread := ((Field.isText_optional name).read_eq_ok_iff nesting).mpr
        ⟨_, rfl, htext⟩
      refine ⟨mid, ?_, hclose⟩
      rw [hstart.nextItem hblank hc]
      dsimp only
      rw [hread]
      exact map_eq_ok_iff.mpr ⟨_, hmore, rfl⟩

end Lists

/-! ### Decoding -/

theorem text?_ofString? (value : Option String) : (ofString? value).text? = value := by
  cases value <;> rfl

section Decoding

variable {r : Record} {names : List String} {name : String}

/-- What a decoded record holds for a name. -/
def Members.text? (members : Members) (name : String) : Option String :=
  (members.find? name).bind Json.text?

theorem Members.find?_map (value : String → Json) (hmem : name ∈ names) :
    Members.find? (names.map fun n => (n, value n)) name = some (value name) := by
  induction names with
  | nil => cases hmem
  | cons n names ih =>
    rw [List.map_cons, Members.find?, List.find?_cons]
    by_cases hn : n = name
    · simp [hn]
    · have hne : (n == name) = false := beq_false_of_ne hn
      rw [hne]
      exact ih ((List.mem_cons.mp hmem).resolve_left fun h => hn h.symm)

theorem Members.find?_kept (members : List (String × Option String)) :
    Members.find? (kept members) name = (members.lookup name).map ofString? := by
  induction members with
  | nil => rfl
  | cons m members ih =>
    obtain ⟨key, value⟩ := m
    rw [kept, List.map_cons, Members.find?, List.find?_cons, List.lookup_cons]
    by_cases hkey : key = name
    · simp [hkey]
    · have hne : (key == name) = false := beq_false_of_ne hkey
      have hne' : (name == key) = false := beq_false_of_ne fun h => hkey h.symm
      rw [hne, hne']
      exact ih

theorem Members.text?_filled (hmem : name ∈ names) (values : List (Option String)) :
    (filled names values).text? name = written (names.zip values) name := by
  induction names generalizing values with
  | nil => cases hmem
  | cons n names ih =>
    by_cases hn : n = name
    · cases values with
      | nil => simp [filled, Members.text?, Members.find?, hn, written, Json.text?]
      | cons value values =>
        simp [filled, Members.text?, Members.find?, hn, written, text?_ofString?]
    · have hne : (n == name) = false := beq_false_of_ne hn
      have hne' : (name == n) = false := beq_false_of_ne fun h => hn h.symm
      have hrest := (List.mem_cons.mp hmem).resolve_left fun h => hn h.symm
      cases values with
      | nil =>
        have hnil := ih hrest []
        rw [List.zip_nil_right] at hnil ⊢
        rw [← hnil]
        simp [filled, Members.text?, Members.find?, hne]
      | cons value values =>
        have hcons := ih hrest values
        rw [List.zip_cons_cons, written, List.lookup_cons, hne']
        rw [written] at hcons
        rw [← hcons]
        simp [filled, Members.text?, Members.find?, hne]

theorem Record.HasTexts.complete_eq (h : r.HasTexts names) (found : Members) :
    r.complete found = .ok (names.map fun n => (n, (found.find? n).getD .null)) := by
  rw [Record.complete, h, List.mapM_map]
  clear h
  induction names with
  | nil => rfl
  | cons name names ih =>
    rw [List.mapM_cons, ih, List.map_cons]
    cases hfound : found.find? name <;>
      · simp only [Function.comp, Field.optional, hfound]
        rfl

theorem Members.text?_completed (hmem : name ∈ names)
    (members : List (String × Option String)) :
    Members.text? (names.map fun n => (n, ((Members.find? (kept members) n).getD .null))) name =
      written members name := by
  rw [Members.text?, Members.find?_map _ hmem, Members.find?_kept, written]
  cases members.lookup name with
  | none => rfl
  | some value => exact text?_ofString? value

theorem expectEnd_eq_ok_iff {cs : List Char} {u : Unit} :
    expectEnd cs = .ok u ↔ IsBlankText cs := by
  rw [isBlankText_iff, expectEnd]
  cases skipBlank cs with
  | nil => exact ⟨fun _ => rfl, fun _ => rfl⟩
  | cons c cs => exact ⟨nofun, nofun⟩

/-- A text that is a record of texts is decoded, and every name gets the value that is written for
it. -/
theorem RecordText.decodeText (h : r.HasTexts names) {text : String}
    {values : String → Option String} (htext : RecordText names text.toList values) :
    ∃ members, r.decodeText text = .ok members ∧
      ∀ name ∈ names, members.text? name = values name := by
  have hnesting : maxNesting = 126 + 1 := rfl
  rw [Record.decodeText, hnesting]
  generalize text.toList = cs at htext
  have hend {rest : List Char} (blank : IsBlankText rest) : expectEnd rest = .ok () :=
    expectEnd_eq_ok_iff.mpr blank
  cases htext with
  | @object mid rest members opens text distinct blank =>
    have hdistinct : (([] ++ kept members).map Prod.fst).Nodup := by
      rwa [List.nil_append, keys_kept]
    have hfold := text.foldMembers h 126 (Nat.lt_succ_self _) hdistinct
    rw [List.nil_append] at hfold
    refine ⟨names.map fun n => (n, (Members.find? (kept members) n).getD .null), ?_,
      fun name hmem => Members.text?_completed hmem members⟩
    simp only [Record.read, (begins_iff rfl).mp opens, hfold, h.complete_eq, Except.map,
      hend blank]
  | @list mid rest values opens text fits blank =>
    obtain ⟨behind, hread, hclose⟩ := HasValues.readList r 126 0 text fits
    refine ⟨filled names values, ?_, fun name hmem => Members.text?_filled hmem values⟩
    rw [← h] at hread
    simp only [Record.read, (begins_iff rfl).mp opens, hread, hclose, Except.map,
      hend blank]

/-- Only a text that is a record of texts is decoded. -/
theorem RecordText.of_decodeText (h : r.HasTexts names) {text : String} {members : Members}
    (hdecode : r.decodeText text = .ok members) :
    ∃ values, RecordText names text.toList values ∧
      ∀ name ∈ names, members.text? name = values name := by
  have hnesting : maxNesting = 126 + 1 := rfl
  rw [Record.decodeText, hnesting] at hdecode
  generalize text.toList = cs at hdecode
  split at hdecode
  · cases hdecode
  · rename_i members' rest hread
    obtain ⟨_, hend, rfl⟩ := map_eq_ok_iff.mp hdecode
    have hblank := expectEnd_eq_ok_iff.mp hend
    unfold Record.read at hread
    split at hread
    · rename_i heq
      cases heq
    · rename_i heq
      cases heq
    · rename_i mid hopens hnest
      obtain rfl := Nat.succ.inj hnest
      split at hread
      · cases hread
      · rename_i found behind hlist
        obtain ⟨rest', hclose, hr⟩ := map_eq_ok_iff.mp hread
        obtain ⟨rfl, rfl⟩ := Prod.mk.inj hr
        rw [h] at hlist
        obtain ⟨values, hvalues, hlen, rfl⟩ := HasValues.of_readList hlist hclose
        exact ⟨_, .list ((begins_iff rfl).mpr hopens) hvalues hlen hblank,
          fun name hmem => Members.text?_filled hmem values⟩
    · rename_i mid hopens hnest
      obtain rfl := Nat.succ.inj hnest
      split at hread
      · cases hread
      · rename_i found behind hfold
        obtain ⟨completed, hcomplete, hr⟩ := map_eq_ok_iff.mp hread
        obtain ⟨rfl, rfl⟩ := Prod.mk.inj hr
        have hnone : (([] : Members).map Prod.fst).Nodup := List.nodup_nil
        obtain ⟨written, hmembers, rfl, hnodup⟩ := HasMembers.of_foldMembers h hnone hfold
        rw [List.nil_append] at hcomplete hnodup
        rw [h.complete_eq] at hcomplete
        obtain rfl := Except.ok.inj hcomplete
        rw [keys_kept] at hnodup
        exact ⟨_, .object ((begins_iff rfl).mpr hopens) hmembers hnodup hblank,
          fun name hmem => Members.text?_completed hmem written⟩
    · cases hread

end Decoding

end ContentClient.Json
