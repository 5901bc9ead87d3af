import ContentClient.Listing.PageIterator

/-!
# The pages of a listing

Asking a listing for one page after another, each time for the place at which the page before left
the pager, gives a sequence of pages: the **course** of the listing. It says nothing about when the
pages are asked for, or about how many of them anyone wants; that is the business of an iterator.

A page hands out its entries up to the first that does not decode, and a page that cannot be had
hands out its failure. The listing **goes on** behind a page that has entries, all of which decode,
and that leaves the pager with more to ask for. `values` collects what the first pages hand out, as
far as the listing goes on; its length and its entries only depend on pages that are reached.
-/

namespace ContentClient

/-! ### Entries -/

/-- An entry of a page as it is handed out. -/
def decodeEntry (item : Json.Shape) (raw : Json) : Except ApiError Json :=
  match item.decodeValue raw with
  | .ok entry => .ok entry
  | .error e => .error (.deserialization (.invalidEntry e.message))

/-- Entries as they are handed out, up to the first that does not decode. -/
def readEntries (item : Json.Shape) : List Json → List (Except ApiError Json)
  | [] => []
  | raw :: rest =>
    match decodeEntry item raw with
    | .ok entry => .ok entry :: readEntries item rest
    | .error e => [.error e]

/-- Whether all entries decode. -/
def allDecode (item : Json.Shape) (entries : List Json) : Bool :=
  entries.all fun raw => (decodeEntry item raw).isOk

theorem readEntries_cons_of_ok {item : Json.Shape} {raw entry : Json} (rest : List Json)
    (h : decodeEntry item raw = .ok entry) :
    readEntries item (raw :: rest) = .ok entry :: readEntries item rest := by
  simp [readEntries, h]

theorem readEntries_cons_of_error {item : Json.Shape} {raw : Json} {e : ApiError} (rest : List Json)
    (h : decodeEntry item raw = .error e) : readEntries item (raw :: rest) = [.error e] := by
  simp [readEntries, h]

theorem allDecode_cons_of_ok {item : Json.Shape} {raw entry : Json} (rest : List Json)
    (h : decodeEntry item raw = .ok entry) :
    allDecode item (raw :: rest) = allDecode item rest := by
  simp [allDecode, h, Except.isOk, Except.toBool]

theorem allDecode_cons_of_error {item : Json.Shape} {raw : Json} {e : ApiError} (rest : List Json)
    (h : decodeEntry item raw = .error e) : allDecode item (raw :: rest) = false := by
  simp [allDecode, h, Except.isOk, Except.toBool]

/-! ### Courses -/

namespace Listing

variable {σ : Type} (link : Link σ) (l : Listing) (s : Session σ)

/-- Asks for the page at a place: the page or why there is none, and what is left of the session. -/
def ask (pager : Pager) (s : Session σ) : Except ApiError Page × Session σ :=
  let sent := l.client.send link { method := "GET", url := l.url.appendPairs pager.queryPairs } s
  (PageIterator.pageOf sent.1, sent.2.2)

/-- The place that is asked for in page request number `i`, counted from zero, and the session
before it. -/
def place : Nat → Pager × Session σ
  | 0 => (.ofPaging l.paging, s)
  | i + 1 =>
    let asked := l.ask link (place i).1 (place i).2
    (match asked.1 with
      | .ok page => (place i).1.afterPage page
      | .error _ => (place i).1,
      asked.2)

/-- What page request number `i` brings. -/
def pageAt (i : Nat) : Except ApiError Page :=
  (l.ask link (l.place link s i).1 (l.place link s i).2).1

theorem place_succ (i : Nat) {page : Page} (h : l.pageAt link s i = .ok page) :
    (l.place link s (i + 1)).1 = (l.place link s i).1.afterPage page := by
  have h' : (l.ask link (l.place link s i).1 (l.place link s i).2).1 = .ok page := h
  simp [place, h']

/-- A page that cannot be had leaves the pager where it was. -/
theorem place_succ_of_error (i : Nat) {e : ApiError} (h : l.pageAt link s i = .error e) :
    (l.place link s (i + 1)).1 = (l.place link s i).1 := by
  have h' : (l.ask link (l.place link s i).1 (l.place link s i).2).1 = .error e := h
  simp [place, h']

/-- What page number `i` hands out. -/
def valuesAt (i : Nat) : List (Except ApiError Json) :=
  match l.pageAt link s i with
  | .error e => [.error e]
  | .ok page => readEntries l.item page.entries

/-- Whether the listing goes on behind page number `i`: the page is there and not empty, all of its
entries decode, and it leaves more to ask for. -/
def goesOn (i : Nat) : Bool :=
  match l.pageAt link s i with
  | .error _ => false
  | .ok page =>
    !page.entries.isEmpty && allDecode l.item page.entries &&
      ((l.place link s i).1.advance page).hasMore

/-- Whether the listing goes on behind every page before number `i`. -/
def reaches (i : Nat) : Bool := (List.range i).all (l.goesOn link s)

/-- What the first `n` pages hand out, as far as they are reached. -/
def values (n : Nat) : List (Except ApiError Json) :=
  (List.range n).flatMap fun i => if l.reaches link s i then l.valuesAt link s i else []

/-! ### How a course goes on -/

theorem reaches_succ (i : Nat) :
    l.reaches link s (i + 1) = (l.reaches link s i && l.goesOn link s i) := by
  simp [reaches, List.range_succ]

theorem reaches_succ_of_reaches {i : Nat} (h : l.reaches link s i = true) :
    l.reaches link s (i + 1) = l.goesOn link s i := by
  rw [reaches_succ, h, Bool.true_and]

theorem reaches_of_le {i j : Nat} (hij : i ≤ j) (h : l.reaches link s j = true) :
    l.reaches link s i = true := by
  simp only [reaches, List.all_eq_true, List.mem_range] at h ⊢
  exact fun k hk => h k (by omega)

theorem values_succ (n : Nat) :
    l.values link s (n + 1) =
      l.values link s n ++ if l.reaches link s n then l.valuesAt link s n else [] := by
  simp [values, List.range_succ]

theorem values_succ_of_error {n : Nat} {e : ApiError} (h : l.reaches link s n = true)
    (hp : l.pageAt link s n = .error e) :
    l.values link s (n + 1) = l.values link s n ++ [.error e] := by
  rw [values_succ, if_pos h, valuesAt, hp]

theorem values_succ_of_ok {n : Nat} {page : Page} (h : l.reaches link s n = true)
    (hp : l.pageAt link s n = .ok page) :
    l.values link s (n + 1) = l.values link s n ++ readEntries l.item page.entries := by
  rw [values_succ, if_pos h, valuesAt, hp]

/-- Where the listing does not reach, there are no further values. -/
theorem values_of_not_reaches {m k : Nat} (hend : l.reaches link s m = false) (h : m ≤ k) :
    l.values link s k = l.values link s m := by
  induction k with
  | zero =>
    obtain rfl : m = 0 := by omega
    rfl
  | succ k ih =>
    rcases Nat.le_succ_iff.mp h with hle | rfl
    · -- a page is reached only if all pages before it are
      have hstop : l.reaches link s k = false := by
        cases hr : l.reaches link s k with
        | false => rfl
        | true => rw [l.reaches_of_le link s hle hr] at hend; cases hend
      rw [values_succ, hstop, ih hle]
      simp
    · rfl

/-- More pages only add values. -/
theorem values_isPrefix {m k : Nat} (h : m ≤ k) : l.values link s m <+: l.values link s k := by
  induction k with
  | zero =>
    obtain rfl : m = 0 := by omega
    exact List.prefix_rfl
  | succ k ih =>
    rcases Nat.le_succ_iff.mp h with hle | rfl
    · exact (ih hle).trans ⟨_, (l.values_succ link s k).symm⟩
    · exact List.prefix_rfl

/-- The values that are there stay what they are when more pages are asked for. -/
theorem values_getElem?_of_lt {m k n : Nat} (hmk : m ≤ k)
    (hn : n < (l.values link s m).length) : (l.values link s k)[n]? = (l.values link s m)[n]? := by
  obtain ⟨rest, hrest⟩ := l.values_isPrefix link s hmk
  rw [← hrest, List.getElem?_append_left hn]

/-- A page behind which the listing goes on has entries, which all decode, and leaves more. -/
theorem goesOn_eq_true_iff {i : Nat} :
    l.goesOn link s i = true ↔
      ∃ page, l.pageAt link s i = .ok page ∧ page.entries ≠ [] ∧
        allDecode l.item page.entries = true ∧
        ((l.place link s i).1.advance page).hasMore = true := by
  unfold goesOn
  cases l.pageAt link s i with
  | error e => simp
  | ok page => simp [and_assoc]

end Listing

end ContentClient
