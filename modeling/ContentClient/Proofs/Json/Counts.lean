import ContentClient.Listing.Page

/-!
# Counts in JSON text

Where a record holds a count, a reader accepts whole numbers without a sign only, and no digits that
64 bits do not hold are taken into a whole number. So the counts of every record that is read fit 64
bits, however the record is written: as an object, as a list, or with members that are absent. The
statement for pages is `Page.totalCount_le_of_ofText`.
-/

namespace ContentClient

namespace Json

/-! ### What a reader gives -/

/-- If something succeeds, it **gives** a value with a property. -/
def Gives {ε α : Type} (p : α → Prop) (x : Except ε α) : Prop := ∀ a, x = .ok a → p a

section Gives

variable {ε α β : Type} {p : β → Prop} {q : α → Prop}

theorem gives_ok {b : β} (h : p b) : Gives p (.ok b : Except ε β) := by
  rintro _ ⟨⟩
  exact h

theorem gives_error (e : ε) : Gives p (.error e : Except ε β) := by
  rintro _ ⟨⟩

theorem Gives.bind {x : Except ε α} {f : α → Except ε β} (h : Gives q x)
    (hf : ∀ a, q a → Gives p (f a)) : Gives p (x.bind f) := by
  cases x with
  | error e => exact gives_error e
  | ok a => exact hf a (h a rfl)

theorem Gives.map {x : Except ε α} {f : α → β} (h : Gives q x) (hf : ∀ a, q a → p (f a)) :
    Gives p (x.map f) := by
  cases x with
  | error e => exact gives_error e
  | ok a => exact gives_ok (hf a (h a rfl))

theorem gives_mapM {f : α → Except ε β} {l : List α} (h : ∀ a ∈ l, Gives p (f a)) :
    Gives (fun bs => ∀ b ∈ bs, p b) (l.mapM f) := by
  induction l with
  | nil => exact gives_ok fun b hb => absurd hb List.not_mem_nil
  | cons a l ih =>
    rw [List.mapM_cons]
    refine (h a List.mem_cons_self).bind fun b hb => ?_
    refine (ih fun c hc => h c (List.mem_cons_of_mem _ hc)).bind fun bs hbs => ?_
    exact gives_ok (List.forall_mem_cons.mpr ⟨hb, hbs⟩)

end Gives

/-! ### Numbers -/

/-- A whole number **fits** if 64 bits without a sign hold it, or if it has a sign. -/
def Fits : JsonNumber → Prop
  | .integer n => n ≤ JsonNumber.maxWord
  | .double _ => True

theorem takeDigits_le {limit n : Nat} (taken : Nat) (cs : List Char) (h : n ≤ limit) :
    (takeDigits limit n taken cs).1 ≤ limit := by
  induction cs generalizing n taken with
  | nil => exact h
  | cons c rest ih =>
    rw [takeDigits]
    split
    · split
      · rename_i hle
        exact ih _ hle
      · exact h
    · exact h

theorem gives_doubleOf (positive : Bool) (significand : Nat) (exponent : Int) :
    Gives Fits (doubleOf positive significand exponent) :=
  Gives.bind (q := fun _ => True) (fun _ _ => trivial) fun _ _ => gives_ok trivial

theorem gives_readExponent (positive : Bool) (significand : Nat) (start : Int) (cs : List Char) :
    Gives (fun r => Fits r.1) (readExponent positive significand start cs) := by
  unfold readExponent
  dsimp only
  split
  all_goals
    split
    · exact gives_error _
    · split
      · exact gives_error _
      · split
        · split
          · exact gives_error _
          · exact gives_ok trivial
        · exact (gives_doubleOf _ _ _).bind fun n hn => gives_ok hn

theorem gives_readFraction (positive : Bool) (significand : Nat) (start : Int) (cs : List Char) :
    Gives (fun r => Fits r.1) (readFraction positive significand start cs) := by
  unfold readFraction
  dsimp only
  split
  · split <;> exact gives_error _
  · split
    · exact gives_readExponent _ _ _ _
    · exact (gives_doubleOf _ _ _).bind fun n hn => gives_ok hn

theorem gives_readAfterWhole (positive : Bool) {n : Nat} (hn : n ≤ JsonNumber.maxWord)
    (cs : List Char) : Gives (fun r => Fits r.1) (readAfterWhole positive n cs) := by
  unfold readAfterWhole
  split
  · exact gives_readFraction _ _ _ _
  · split
    · exact gives_readExponent _ _ _ _
    · split
      · refine gives_ok ?_
        show (n : Int) ≤ (JsonNumber.maxWord : Nat)
        omega
      · split
        · refine gives_ok ?_
          show -(n : Int) ≤ (JsonNumber.maxWord : Nat)
          omega
        · exact gives_ok trivial

/-- A whole number that is read fits. -/
theorem gives_readNumber (positive : Bool) (cs : List Char) :
    Gives (fun r => Fits r.1) (readNumber positive cs) := by
  unfold readNumber
  split
  · exact gives_error _
  · split
    · split
      · exact gives_error _
      · exact gives_readAfterWhole _ (Nat.zero_le _) _
    · split
      · rename_i c rest _ _
        have htaken := takeDigits_le 0 (c :: rest) (Nat.zero_le JsonNumber.maxWord)
        dsimp only
        split
        · split
          · exact gives_readFraction _ _ _ _
          · split
            · exact gives_readExponent _ _ _ _
            · exact (gives_doubleOf _ _ _).map fun x hx => hx
        · exact gives_readAfterWhole _ htaken _
      · exact gives_error _

/-! ### Records -/

/-- A value **fits** a field unless the field holds a count and the value is one beyond 64 bits. -/
def Field.Fits (f : Field) (v : Json) : Prop :=
  f.leaf = .natural → ∀ n, v.nat? = some n → n ≤ JsonNumber.maxWord

/-- Every member of a record fits a field of its name. -/
def Record.Fits (r : Record) (members : Members) : Prop :=
  ∀ m ∈ members, ∃ f ∈ r.fields, f.name = m.1 ∧ f.Fits m.2

/-- What stands for an absent field fits it. -/
def Record.FallbacksFit (r : Record) : Prop :=
  ∀ f ∈ r.fields, ∀ v, f.fallback = some v → f.Fits v

theorem Members.mem_of_find? {members : Members} {name : String} {v : Json}
    (h : members.find? name = some v) : (name, v) ∈ members := by
  unfold Members.find? at h
  obtain ⟨m, hfind, rfl⟩ := Option.map_eq_some_iff.mp h
  have hname := List.find?_some hfind
  rw [← eq_of_beq hname]
  exact List.mem_of_find?_eq_some hfind

theorem gives_naturalOf {n : JsonNumber} (h : Json.Fits n) :
    Gives (fun v => ∀ k, v.nat? = some k → k ≤ JsonNumber.maxWord) (naturalOf n) := by
  unfold naturalOf
  split
  · split
    · refine gives_ok fun k hk => ?_
      rename_i i hi
      have hle : i ≤ JsonNumber.maxWord := h
      simp only [nat?, hi, if_true, Option.some.injEq] at hk
      omega
    · exact gives_error _
  · exact gives_error _

/-- A value that is read for a field fits it. -/
theorem Field.gives_read (f : Field) (nesting : Nat) (cs : List Char) :
    Gives (fun r => f.Fits r.1) (f.read nesting cs) := by
  have hleaf : Gives (fun r => f.Fits r.1) (f.leaf.read nesting cs) := by
    intro r hr hnat
    rw [hnat] at hr
    have hfinish : ∀ number : JsonNumber × List Char, Json.Fits number.1 →
        Gives (fun r => ∀ k, r.1.nat? = some k → k ≤ JsonNumber.maxWord)
          ((naturalOf number.1).map fun v => (v, number.2)) :=
      fun number hfits => (gives_naturalOf hfits).map fun _ hv => hv
    suffices hnatural : Gives (fun r => ∀ k, r.1.nat? = some k → k ≤ JsonNumber.maxWord)
        (Leaf.natural.read nesting cs) from hnatural r hr
    unfold Leaf.read
    dsimp only
    split
    · exact (gives_readNumber _ _).bind hfinish
    · split
      · exact (gives_readNumber _ _).bind hfinish
      · exact gives_error _
  unfold Field.read
  split
  · split
    · refine Gives.map (q := fun _ => True) (fun _ _ => trivial) fun _ _ _ n hn => ?_
      cases hn
    · exact hleaf
  · exact hleaf

theorem Record.fits_cons {r : Record} {f : Field} (hf : f ∈ r.fields) {v : Json} (hv : f.Fits v)
    {members : Members} (h : r.Fits members) : r.Fits ((f.name, v) :: members) := by
  intro m hm
  rcases List.mem_cons.mp hm with rfl | hm
  · exact ⟨f, hf, rfl, hv⟩
  · exact h m hm

theorem Record.gives_readMember (r : Record) (nesting : Nat) {found : Members}
    (hfound : r.Fits found) (key : String) (cs : List Char) :
    Gives (fun s => r.Fits s.1) (r.readMember nesting found key cs) := by
  unfold Record.readMember
  split
  · split
    · exact gives_error _
    · exact Gives.map (q := fun _ => True) (fun _ _ => trivial) fun _ _ => hfound
  · rename_i f hf
    split
    · exact gives_error _
    · split
      · exact gives_error _
      · refine (f.gives_read nesting _).map fun v hv m hm => ?_
        rcases List.mem_append.mp hm with hm | hm
        · exact hfound m hm
        · obtain rfl := List.mem_singleton.mp hm
          unfold Record.field? at hf
          have hname := List.find?_some hf
          exact ⟨f, List.mem_of_find?_eq_some hf, eq_of_beq hname, hv⟩

/-- What every member keeps holds behind all of them. -/
theorem gives_foldMembers {σ : Type} {p : σ → Prop} {member : σ → String → List Char → Reading σ}
    (hmember : ∀ state key cs, p state → Gives (fun s => p s.1) (member state key cs))
    (rounds : Nat) (first : Bool) {state : σ} (hstate : p state) (cs : List Char) :
    Gives (fun s => p s.1) (foldMembers member rounds first state cs) := by
  induction rounds generalizing first state cs with
  | zero => exact gives_error _
  | succ rounds ih =>
    rw [foldMembers]
    split
    · exact gives_error _
    · exact gives_ok hstate
    · split
      · exact gives_error _
      · rename_i hread
        exact ih _ (hmember _ _ _ hstate _ hread) _

theorem Record.gives_readList {r : Record} (hr : r.FallbacksFit) (nesting : Nat)
    {fields : List Field} (hfields : ∀ f ∈ fields, f ∈ r.fields) (index : Nat) (cs : List Char) :
    Gives (fun s => r.Fits s.1) (r.readList nesting fields index cs) := by
  induction fields generalizing index cs with
  | nil => exact gives_ok fun m hm => absurd hm List.not_mem_nil
  | cons f fields ih =>
    have hf := hfields f List.mem_cons_self
    have hrest := ih fun g hg => hfields g (List.mem_cons_of_mem _ hg)
    rw [Record.readList]
    split
    · exact gives_error _
    · split
      · exact gives_error _
      · rename_i v hv
        exact (hrest _ _).map fun rest hrest => Record.fits_cons hf (hr f hf v hv) hrest
    · split
      · exact gives_error _
      · rename_i v _ hread
        exact (hrest _ _).map fun rest hrest =>
          Record.fits_cons hf (f.gives_read nesting _ _ hread) hrest

theorem Record.gives_complete {r : Record} (hr : r.FallbacksFit) {found : Members}
    (hfound : r.Fits found) : Gives r.Fits (r.complete found) := by
  unfold Record.complete
  refine gives_mapM fun f hf => ?_
  split
  · rename_i v _ hv
    exact gives_ok (hfound _ (Members.mem_of_find? hv))
  · rename_i v _ hv
    exact gives_ok ⟨f, hf, rfl, hr f hf v hv⟩
  · exact gives_error _

/-- The members of a record that is read from text fit its fields. -/
theorem Record.gives_decodeText {r : Record} (hr : r.FallbacksFit) (text : String) :
    Gives r.Fits (r.decodeText text) := by
  have hnone : r.Fits [] := fun m hm => absurd hm List.not_mem_nil
  have hread : Gives (fun s => r.Fits s.1) (r.read maxNesting text.toList) := by
    unfold Record.read
    split
    · exact gives_error _
    · exact gives_error _
    · split
      · exact gives_error _
      · rename_i hlist
        have hmembers := Record.gives_readList hr _ (fun f hf => hf) 0 _ _ hlist
        exact Gives.map (q := fun _ => True) (fun _ _ => trivial) fun _ _ => hmembers
    · split
      · exact gives_error _
      · rename_i hobject
        have hfound := gives_foldMembers (p := r.Fits)
          (fun state key cs hstate => r.gives_readMember _ hstate key cs) _ _ hnone _ _ hobject
        exact (Record.gives_complete hr hfound).map fun members hmembers => hmembers
    · exact gives_error _
  unfold Record.decodeText
  split
  · exact gives_error _
  · rename_i hok
    exact Gives.map (q := fun _ => True) (fun _ _ => trivial) fun _ _ => hread _ hok

end Json

namespace Page

theorem fallbacksFit_record : record.FallbacksFit := by
  intro f hf v hv
  simp only [record, List.mem_cons, List.not_mem_nil, or_false] at hf
  rcases hf with rfl | rfl | rfl | rfl | rfl <;> cases hv <;> intro _ n hn <;> cases hn

/-- The total count of a page that is read from text fits 64 bits. -/
theorem totalCount_le_of_ofText {text : String} {page : Page} (h : ofText text = .ok page)
    {total : Nat} (ht : page.totalCount = some total) : total ≤ maxPosition := by
  unfold ofText at h
  cases hm : record.decodeText text with
  | error e =>
    rw [hm] at h
    cases h
  | ok members =>
    rw [hm] at h
    cases h
    obtain ⟨v, hv, hn⟩ := Option.bind_eq_some_iff.mp ht
    obtain ⟨f, hf, hname, hfits⟩ := Json.Record.gives_decodeText fallbacksFit_record text _ hm _
      (Json.Members.mem_of_find? hv)
    have hleaf : ∀ f ∈ record.fields, f.name = "total_count" → f.leaf = .natural := by decide
    exact hfits (hleaf f hf hname) total hn

end Page

end ContentClient
