import ContentClient.Proofs.Json.Counts
import ContentClient.Proofs.Listing.OffsetPaging

/-!
# How far offset paging gets

By offset paging, the position that is asked for next is computed from what a page says of itself:
it lies as far behind the offset that the page **echoes** as the page reaches. A page that echoes
no offset is taken at the position that was asked for.

So a listing moves **forward**, every request asking for a later position than the one before,
exactly if every page reaches beyond the position that was asked for when it is laid at the offset
that it echoes. That is so for all pages that echo no offset before that position, and then a walk
makes no more requests than there are positions below the greatest total count. The main statement
is `advances`. Nothing in a walk makes up for a page that echoes less: with a server that repeats
one page, it asks for the same position over and over (`fetched_repeating`).
-/

namespace ContentClient

namespace Pager

/-- The position that a pager asks for, if it counts positions. -/
def position? : Pager → Option Nat
  | .offset _ position _ => some position
  | .marker _ _ _ => none

/-- A page with entries reaches somewhere. -/
theorem stride_pos {page : Page} (h : page.entries ≠ []) : 0 < stride page := by
  unfold stride
  cases hlimit : page.limit.filter (0 < ·) with
  | none => exact List.length_pos_iff.mpr h
  | some n =>
    obtain ⟨-, hpos⟩ := Option.filter_eq_some_iff.mp hlimit
    exact of_decide_eq_true hpos

/-- Where a page leaves more to ask for, the pager stands where the page reaches from the offset
that it echoes, and that is below the total count. -/
theorem advance_of_hasMore {page : Page} {size position : Nat} {more : Bool}
    (hword : ∀ total, page.totalCount = some total → total ≤ maxPosition)
    (h : (advance page (.offset size position more)).hasMore = true) :
    advance page (.offset size position more) =
        .offset size (page.offset.getD position + stride page) true ∧
      ∃ total, page.totalCount = some total ∧
        page.offset.getD position + stride page < total := by
  cases htotal : page.totalCount with
  | none =>
    simp only [advance, hasMore, htotal] at h
    cases h
  | some total =>
    simp only [advance, hasMore, htotal, Option.any_some, decide_eq_true_eq] at h ⊢
    -- no position below a total count is so great that it has to be cut
    have hle := hword total htotal
    have hcut : min (page.offset.getD position + stride page) maxPosition =
        page.offset.getD position + stride page := by omega
    rw [hcut] at h ⊢
    exact ⟨by rw [decide_eq_true h], total, rfl, h⟩

end Pager

namespace Listing

variable {σ : Type} (link : Link σ) (l : Listing) (s : Session σ)

/-- Page request number `i` asks for a position. -/
def AsksFor (i position : Nat) : Prop := (l.place link s i).1.position? = some position

/-- A listing moves **forward** if every page request asks for a later position than the one before
it. -/
def IsForward : Prop :=
  ∀ i, l.reaches link s (i + 1) = true →
    ∃ p q, l.AsksFor link s i p ∧ l.AsksFor link s (i + 1) q ∧ p < q

/-- No page that is had has a total count beyond a bound. -/
def TotalsWithin (bound : Nat) : Prop :=
  ∀ i page total, l.reaches link s i = true → l.pageAt link s i = .ok page →
    page.totalCount = some total → total ≤ bound

/-! ### One request and the next -/

/-- A page that is had was read from the text of a response. -/
theorem exists_ofText {i : Nat} {page : Page} (h : l.pageAt link s i = .ok page) :
    ∃ text, Page.ofText text = .ok page := by
  unfold pageAt ask PageIterator.pageOf at h
  dsimp only at h
  cases hsent : (l.client.send link
      { method := "GET", url := l.url.appendPairs (l.place link s i).1.queryPairs }
      (l.place link s i).2).1 with
  | error e =>
    rw [hsent] at h
    cases h
  | ok response =>
    rw [hsent] at h
    change response.decode Page.ofText = .ok page at h
    unfold Response.decode at h
    split at h
    · cases h
    · split at h
      · rename_i hok
        cases h
        exact ⟨_, hok⟩
      · cases h

variable {link l s} {size start : Nat}

/-- The pager of a listing by offset paging counts positions throughout. -/
theorem exists_place (hpaging : l.paging = .offset size start) (i : Nat) :
    ∃ p more, (l.place link s i).1 = .offset size p more := by
  induction i with
  | zero =>
    refine ⟨start, true, ?_⟩
    show Pager.ofPaging l.paging = _
    rw [hpaging]
    rfl
  | succ i ih =>
    obtain ⟨p, more, hplace⟩ := ih
    cases hpage : l.pageAt link s i with
    | error e => exact ⟨p, more, (l.place_succ_of_error link s i hpage).trans hplace⟩
    | ok page =>
      rw [l.place_succ link s i hpage, hplace]
      unfold Pager.afterPage
      split
      · exact ⟨_, _, rfl⟩
      · exact ⟨_, _, rfl⟩

/-- **One step.** A request behind another asks for the position to which the page before it reaches
from the offset that it echoes, and that position is below its total count. -/
theorem asksFor_succ (hpaging : l.paging = .offset size start) {i : Nat}
    (hreach : l.reaches link s (i + 1) = true) :
    ∃ p page total, l.AsksFor link s i p ∧ l.pageAt link s i = .ok page ∧
      l.AsksFor link s (i + 1) (page.offset.getD p + Pager.stride page) ∧
      0 < Pager.stride page ∧ page.totalCount = some total ∧
      page.offset.getD p + Pager.stride page < total := by
  rw [reaches_succ, Bool.and_eq_true] at hreach
  obtain ⟨page, hpage, hne, -, hmore⟩ := (l.goesOn_eq_true_iff link s).mp hreach.2
  obtain ⟨p, more, hplace⟩ : ∃ p more, (l.place link s i).1 = .offset size p more :=
    exists_place hpaging i
  obtain ⟨text, htext⟩ := l.exists_ofText link s hpage
  rw [hplace] at hmore
  obtain ⟨hadvance, total, htotal, hlt⟩ :=
    Pager.advance_of_hasMore (fun _ ht => Page.totalCount_le_of_ofText htext ht) hmore
  refine ⟨p, page, total, ?_, hpage, ?_, Pager.stride_pos hne, htotal, hlt⟩
  · rw [AsksFor, hplace]
    rfl
  · rw [AsksFor, l.place_succ link s i hpage, hplace, Pager.afterPage,
      if_neg (by simpa using hne), hadvance]
    rfl

theorem AsksFor.unique {i p q : Nat} (hp : l.AsksFor link s i p) (hq : l.AsksFor link s i q) :
    p = q := by
  rw [AsksFor, hp] at hq
  exact Option.some.inj hq

/-- A listing moves forward exactly if every page behind which it goes on reaches beyond the
position that was asked for. -/
theorem isForward_iff (hpaging : l.paging = .offset size start) :
    l.IsForward link s ↔ ∀ i p page, l.reaches link s (i + 1) = true → l.AsksFor link s i p →
      l.pageAt link s i = .ok page → p < page.offset.getD p + Pager.stride page := by
  constructor
  · intro hforward i p page hreach hp hpage
    obtain ⟨p', page', -, hp', hpage', hnext, -⟩ := asksFor_succ hpaging hreach
    obtain rfl := hp.unique hp'
    obtain rfl := Except.ok.inj (hpage.symm.trans hpage')
    obtain ⟨p', q, hp', hq, hlt⟩ := hforward i hreach
    rwa [← hp.unique hp', ← hnext.unique hq] at hlt
  · intro hreaches i hreach
    obtain ⟨p, page, -, hp, hpage, hnext, -⟩ := asksFor_succ hpaging hreach
    exact ⟨p, _, hp, hnext, hreaches i p page hreach hp hpage⟩

/-- Pages that echo no position before the one that was asked for keep a listing moving forward. -/
theorem isForward_of_echoes (hpaging : l.paging = .offset size start)
    (hechoes : ∀ i p page echoed, l.reaches link s (i + 1) = true → l.AsksFor link s i p →
      l.pageAt link s i = .ok page → page.offset = some echoed → p ≤ echoed) :
    l.IsForward link s := by
  rw [isForward_iff hpaging]
  intro i p page hreach hp hpage
  obtain ⟨p', page', -, hp', hpage', -, hpos, -⟩ := asksFor_succ hpaging hreach
  obtain rfl := Except.ok.inj (hpage.symm.trans hpage')
  cases hoffset : page.offset with
  | none =>
    rw [Option.getD_none]
    omega
  | some echoed =>
    have hle := hechoes i p page echoed hreach hp hpage hoffset
    rw [Option.getD_some]
    omega

/-! ### The number of requests -/

/-- As long as a listing moves forward, the position that it asks for grows with every request. -/
theorem IsForward.add_le (hforward : l.IsForward link s) (hpaging : l.paging = .offset size start)
    {i p : Nat} (hreach : l.reaches link s i = true) (hp : l.AsksFor link s i p) :
    start + i ≤ p := by
  induction i generalizing p with
  | zero =>
    have hstart : l.AsksFor link s 0 start := by
      show (Pager.ofPaging l.paging).position? = _
      rw [hpaging]
      rfl
    rw [hp.unique hstart]
    exact Nat.le_refl _
  | succ i ih =>
    obtain ⟨p', q, hp', hq, hlt⟩ := hforward i hreach
    have hle := ih (l.reaches_of_le link s (Nat.le_succ i) hreach) hp'
    rw [hp.unique hq]
    omega

/-- Every page that a walk has asked for is reached. -/
theorem reaches_of_lt_fetched {i n : Nat} (h : i < l.fetched link s n) :
    l.reaches link s i = true := by
  induction n with
  | zero => exact absurd h (Nat.not_lt_zero i)
  | succ n ih =>
    have hrequests := (stands_after link l s n).requests_next
    split at hrequests
    · rename_i hdue
      have hcount : l.fetched link s (n + 1) = l.fetched link s n + 1 := hrequests.1
      exact l.reaches_of_le link s (show i ≤ l.fetched link s n by omega) hdue.1
    · have hcount : l.fetched link s (n + 1) = l.fetched link s n := hrequests.1
      exact ih (hcount ▸ h)

/-- A walk that moves forward makes no more requests than there are positions below the greatest
total count, and one at least. -/
theorem IsForward.fetched_le (hforward : l.IsForward link s)
    (hpaging : l.paging = .offset size start) {bound : Nat}
    (hbound : l.TotalsWithin link s bound) (n : Nat) :
    l.fetched link s n ≤ max 1 (bound - start) := by
  rcases Nat.lt_or_ge (l.fetched link s n) 2 with hfew | hmany
  · omega
  · -- the last request asks for a position below the total count of the page before it
    obtain ⟨i, hi⟩ : ∃ i, l.fetched link s n = i + 2 := ⟨l.fetched link s n - 2, by omega⟩
    have hreach : l.reaches link s (i + 1) = true := reaches_of_lt_fetched (n := n) (by omega)
    obtain ⟨p, page, total, -, hpage, hnext, -, htotal, hlt⟩ := asksFor_succ hpaging hreach
    have hle := hforward.add_le hpaging hreach hnext
    have htop := hbound i page total (l.reaches_of_le link s (Nat.le_succ i) hreach) hpage htotal
    omega

variable (link l s size start)

/-- How a listing by offset paging **advances**. -/
structure Advances : Prop where
  /-- It moves forward exactly if every page behind which it goes on reaches beyond the position
  that was asked for. -/
  forward_iff : l.IsForward link s ↔
    ∀ i p page, l.reaches link s (i + 1) = true → l.AsksFor link s i p →
      l.pageAt link s i = .ok page → p < page.offset.getD p + Pager.stride page
  /-- Pages that echo no position before the one that was asked for are enough. -/
  forward_of_echoes : (∀ i p page echoed, l.reaches link s (i + 1) = true → l.AsksFor link s i p →
      l.pageAt link s i = .ok page → page.offset = some echoed → p ≤ echoed) → l.IsForward link s
  /-- A walk that moves forward makes no more requests than there are positions below the greatest
  total count, and one at least. -/
  fetched_le : l.IsForward link s → ∀ bound, l.TotalsWithin link s bound →
    ∀ n, l.fetched link s n ≤ max 1 (bound - start)
  /-- Forward or not, a request behind another asks for the position that the page before it reaches
  from the offset that it echoes, or from the one that was asked for if it echoes none. That is below
  the total count of the page. -/
  next : ∀ i, l.reaches link s (i + 1) = true → ∃ p page total,
    l.AsksFor link s i p ∧ l.pageAt link s i = .ok page ∧ page.totalCount = some total ∧
      l.AsksFor link s (i + 1) (page.offset.getD p + Pager.stride page) ∧
      page.offset.getD p + Pager.stride page < total

/-- **Progress.** Every listing by offset paging advances, whatever its pages say. -/
theorem advances (hpaging : l.paging = .offset size start) : Advances link l s start where
  forward_iff := isForward_iff hpaging
  forward_of_echoes := isForward_of_echoes hpaging
  fetched_le := fun hforward _ hbound n => hforward.fetched_le hpaging hbound n
  next := by
    intro i hreach
    obtain ⟨p, page, total, hp, hpage, hnext, -, htotal, hlt⟩ := asksFor_succ hpaging hreach
    exact ⟨p, page, total, hp, hpage, htotal, hnext, hlt⟩

/-- The letters move forward: no page of theirs echoes an offset. -/
theorem advances_letters :
    letters.paging = .offset 1 0 ∧
      Advances Link.scripted letters (letterSession ["a", "b"] []) 0 :=
  ⟨rfl, advances Link.scripted letters _ 1 0 rfl⟩

/-! ### A page that is repeated -/

/-- The link to a server that gives one reply to every request. -/
def repeating (reply : Reply) : Link Unit := fun _ _ => .finish (some reply) ()

/-- A page of one letter out of two, which says that it is the first. -/
def firstLetter : Page :=
  { entries := [.string "a"], offset := some 0, limit := some 1, totalCount := some 2 }

/-- The reply with the first letter. -/
def firstLetterReply : Reply :=
  { status := 200
    headers := [("Content-Type", "application/json")]
    content := Text.utf8
      "\x7b\"entries\":[\"a\"],\"offset\":0,\"limit\":1,\"total_count\":2\x7d" }

/-- A session in which nothing has happened. -/
def quiet : Session Unit := ⟨.empty, (), []⟩

theorem ask_repeating_zero :
    letters.ask (repeating firstLetterReply) (.offset 1 0 true) quiet =
      (.ok firstLetter, quiet) := by
  unfold ask
  rw [Client.send_of_attempt _ _ _ _ rfl]
  rfl

theorem ask_repeating_one :
    letters.ask (repeating firstLetterReply) (.offset 1 1 true) quiet =
      (.ok firstLetter, quiet) := by
  unfold ask
  rw [Client.send_of_attempt _ _ _ _ rfl]
  rfl

/-- Behind the first page, every request of the repeated listing is the same. -/
theorem place_repeating (i : Nat) :
    letters.place (repeating firstLetterReply) quiet (i + 1) = (.offset 1 1 true, quiet) := by
  induction i with
  | zero =>
    have hask : letters.ask (repeating firstLetterReply)
        (letters.place (repeating firstLetterReply) quiet 0).1
        (letters.place (repeating firstLetterReply) quiet 0).2 = _ := ask_repeating_zero
    rw [place, hask]
    rfl
  | succ i ih =>
    rw [place, ih, ask_repeating_one]
    rfl

theorem pageAt_repeating (i : Nat) :
    letters.pageAt (repeating firstLetterReply) quiet i = .ok firstLetter := by
  cases i with
  | zero => exact congrArg Prod.fst ask_repeating_zero
  | succ i =>
    rw [pageAt, place_repeating]
    exact congrArg Prod.fst ask_repeating_one

theorem goesOn_repeating (i : Nat) :
    letters.goesOn (repeating firstLetterReply) quiet i = true := by
  refine (letters.goesOn_eq_true_iff _ _).mpr
    ⟨firstLetter, pageAt_repeating i, List.cons_ne_nil _ _, rfl, ?_⟩
  cases i with
  | zero => rfl
  | succ i =>
    rw [place_repeating]
    rfl

theorem reaches_repeating (i : Nat) :
    letters.reaches (repeating firstLetterReply) quiet i = true := by
  induction i with
  | zero => rfl
  | succ i ih => rw [reaches_succ, ih, goesOn_repeating, Bool.true_and]

theorem length_values_repeating (n : Nat) :
    (letters.values (repeating firstLetterReply) quiet n).length = n := by
  induction n with
  | zero => rfl
  | succ n ih =>
    rw [letters.values_succ_of_ok _ _ (reaches_repeating n) (pageAt_repeating n),
      List.length_append, ih]
    rfl

/-- A walk through pages that repeat the first one never ends: every call makes a request. -/
theorem fetched_repeating (n : Nat) :
    letters.fetched (repeating firstLetterReply) quiet n = n := by
  induction n with
  | zero => rfl
  | succ n ih =>
    have hrequests := (stands_after (repeating firstLetterReply) letters quiet n).requests_next
    have hcount : (letters.after (repeating firstLetterReply) quiet n).1.pagesFetched = n := ih
    rw [hcount, if_pos ⟨reaches_repeating n, length_values_repeating n⟩] at hrequests
    exact hrequests.1

/-- A page that echoes an earlier offset than was asked for sets a walk back: the same position is
asked for again, and total counts of two bound nothing. -/
theorem not_isForward_repeating :
    letters.TotalsWithin (repeating firstLetterReply) quiet 2 ∧
      letters.AsksFor (repeating firstLetterReply) quiet 1 1 ∧
      letters.AsksFor (repeating firstLetterReply) quiet 2 1 ∧
      ¬letters.IsForward (repeating firstLetterReply) quiet ∧
      ¬letters.fetched (repeating firstLetterReply) quiet 4 ≤ 2 + 1 := by
  have hone : letters.AsksFor (repeating firstLetterReply) quiet 1 1 := by
    rw [AsksFor, place_repeating]
    rfl
  have htwo : letters.AsksFor (repeating firstLetterReply) quiet 2 1 := by
    rw [AsksFor, place_repeating]
    rfl
  refine ⟨?_, hone, htwo, ?_, ?_⟩
  · intro i page total _ hpage htotal
    rw [pageAt_repeating] at hpage
    cases hpage
    cases htotal
    exact Nat.le_refl 2
  · intro hforward
    obtain ⟨p, q, hp, hq, hlt⟩ := hforward 1 (reaches_repeating 2)
    rw [← hone.unique hp, ← htwo.unique hq] at hlt
    exact absurd hlt (Nat.lt_irrefl 1)
  · rw [fetched_repeating]
    decide

end Listing

end ContentClient
