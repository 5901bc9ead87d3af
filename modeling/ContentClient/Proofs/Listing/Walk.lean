import ContentClient.Proofs.Listing.Pages

/-!
# A walk follows the course of its listing

A walk through a listing is a run of calls of its iterator. The main statement is `walk_follows`:
the answers of the calls are the values of the course of the listing, one by one, and the iterator
asks for a page only when everything that the pages before it hand out has been handed out.

The invariant of the walk has two sides. An **open** walk holds the entries of the last page that
have not been handed out, and can go on exactly if the course goes on behind that page. A **closed**
walk holds nothing, the course has ended, and all its values have been handed out. One call keeps
the invariant (`Stands.continues_next`), so it holds after any number of calls (`stands_after`).
-/

namespace ContentClient

@[simp] theorem Pager.hasMore_ofPaging (paging : PagingParameters) :
    (Pager.ofPaging paging).hasMore = true := by
  cases paging <;> rfl

/-! ### Taking an entry -/

namespace PageIterator

/-- Whether a walk has ended. -/
def HasEnded (it : PageIterator) : Prop := it.state = .exhausted ∨ it.state = .failed

theorem take_of_ok {it : PageIterator} {raw entry : Json} {rest : List Json}
    (hbuf : it.buffer = raw :: rest) (h : decodeEntry it.item raw = .ok entry) :
    it.take = (some (.ok entry), { it with buffer := rest }) := by
  unfold decodeEntry at h
  cases hv : it.item.decodeValue raw with
  | error e => simp [hv] at h
  | ok value =>
    simp only [hv, Except.ok.injEq] at h
    simp [take, hbuf, hv, h]

theorem take_of_error {it : PageIterator} {raw : Json} {rest : List Json} {e : ApiError}
    (hbuf : it.buffer = raw :: rest) (h : decodeEntry it.item raw = .error e) :
    it.take = (some (.error e), { it with state := .failed, buffer := [] }) := by
  unfold decodeEntry at h
  cases hv : it.item.decodeValue raw with
  | ok value => simp [hv] at h
  | error e' =>
    simp only [hv, Except.error.injEq] at h
    simp [take, hbuf, hv, fail, h]

theorem take_of_nil {it : PageIterator} (hbuf : it.buffer = []) :
    it.take = (none, { it with state := .exhausted }) := by
  simp [take, hbuf]

@[simp] theorem pagesFetched_take (it : PageIterator) :
    it.take.2.pagesFetched = it.pagesFetched := by
  unfold take
  split
  · rfl
  · dsimp only
    split <;> rfl

/-- Asking for a page counts it, and does to the session what sending its request does. -/
theorem fetchAndTake_requests {σ : Type} (link : Link σ) (it : PageIterator) (t : Session σ) :
    (it.fetchAndTake link t).2.1.pagesFetched = it.pagesFetched + 1 ∧
      (it.fetchAndTake link t).2.2 =
        (it.client.send link { method := "GET", url := it.pageUrl } t).2.2 := by
  unfold fetchAndTake
  dsimp only
  split
  · exact ⟨rfl, rfl⟩
  · exact ⟨pagesFetched_take _, rfl⟩

end PageIterator

namespace Listing

variable {σ : Type} (link : Link σ) (l : Listing) (s : Session σ)

/-! ### Walks -/

/-- The iterator and the session after a number of calls. -/
def after : Nat → PageIterator × Session σ
  | 0 => (l.iterator, s)
  | n + 1 => ((after n).1.next link (after n).2).2

/-- The answer to call number `n`, counted from zero. -/
def answer (n : Nat) : Option (Except ApiError Json) :=
  ((l.after link s n).1.next link (l.after link s n).2).1

/-- The number of pages asked for in a number of calls. -/
def fetched (n : Nat) : Nat := (l.after link s n).1.pagesFetched

/-- Whether the next page is due after `n` calls: the course goes on behind the pages asked for, and
all their values have been handed out. -/
def IsDue (n : Nat) : Prop :=
  l.reaches link s (l.fetched link s n) = true ∧
    (l.values link s (l.fetched link s n)).length = n

instance (n : Nat) : Decidable (l.IsDue link s n) := inferInstanceAs (Decidable (_ ∧ _))

/-! ### The invariant -/

/-- An iterator stands in the **course** of a listing if its next request is the one of the course
and every request before it has been made. -/
structure InCourse (it : PageIterator) (t : Session σ) : Prop where
  client : it.client = l.client
  url : it.url = l.url
  item : it.item = l.item
  pager : it.pager = (l.place link s it.pagesFetched).1
  session : t = (l.place link s it.pagesFetched).2

/-- An iterator is **open** after `n` calls if its buffer holds what is left of the values of the
pages asked for, and the course goes on if nothing in the buffer and the pager forbids it. -/
structure IsOpen (n : Nat) (it : PageIterator) (t : Session σ) : Prop
    extends InCourse link l s it t where
  count : n ≤ (l.values link s it.pagesFetched).length
  left : (l.values link s it.pagesFetched).drop n = readEntries l.item it.buffer
  goes : l.reaches link s it.pagesFetched = (allDecode l.item it.buffer && it.pager.hasMore)

/-- An iterator is **closed** after `n` calls if it has ended, and so have the course and its
values. -/
structure IsClosed (n : Nat) (it : PageIterator) (t : Session σ) : Prop where
  state : it.HasEnded
  buffer : it.buffer = []
  session : t = (l.place link s it.pagesFetched).2
  stops : l.reaches link s it.pagesFetched = false
  count : (l.values link s it.pagesFetched).length ≤ n

/-- Where an iterator stands after `n` calls. Before the first call its buffer is empty and it may
ask for a page. -/
def Stands (n : Nat) (it : PageIterator) (t : Session σ) : Prop :=
  (IsOpen link l s n it t ∧
    (it.state = .hasPage ∨ it.state = .init ∧ it.buffer = [] ∧ it.pager.hasMore = true)) ∨
    IsClosed link l s n it t

/-- What a call after `n` calls comes to: it hands out the next value of the course, and leaves the
iterator where it stands after one more call. Only an entry leaves it able to go on. -/
structure Continues (n : Nat) (r : Option (Except ApiError Json) × PageIterator × Session σ) :
    Prop where
  stands : Stands link l s (n + 1) r.2.1 r.2.2
  value : r.1 = (l.values link s r.2.1.pagesFetched)[n]?
  ended : (∀ entry, r.1 ≠ some (.ok entry)) → r.2.1.HasEnded

variable {link l s} {n : Nat} {it : PageIterator} {t : Session σ}

/-- A new iterator is open. -/
theorem isOpen_iterator : IsOpen link l s 0 l.iterator s where
  client := rfl
  url := rfl
  item := rfl
  pager := rfl
  session := rfl
  count := Nat.zero_le _
  left := rfl
  goes := by
    show true = (true && (Pager.ofPaging l.paging).hasMore)
    rw [Pager.hasMore_ofPaging]
    rfl

/-- The value that an open walk hands out is there exactly if its buffer is not empty. -/
theorem IsOpen.length_values_eq_iff (h : IsOpen link l s n it t) :
    (l.values link s it.pagesFetched).length = n ↔ it.buffer = [] := by
  have hlen := congrArg List.length h.left
  rw [List.length_drop] at hlen
  have hcount := h.count
  cases hbuf : it.buffer with
  | nil =>
    simp only [hbuf, readEntries, List.length_nil] at hlen
    simp only [iff_true]
    omega
  | cons raw rest =>
    have hpos : 0 < (readEntries l.item (raw :: rest)).length := by
      cases hd : decodeEntry l.item raw with
      | ok entry => simp [readEntries_cons_of_ok rest hd]
      | error e => simp [readEntries_cons_of_error rest hd]
    rw [hbuf] at hlen
    simp only [reduceCtorEq, iff_false]
    omega

/-- Taking an entry out of an open walk that needs no page keeps the invariant and hands out the
next value. -/
theorem IsOpen.continues_take (h : IsOpen link l s n it t) (hstate : it.state = .hasPage)
    (hmore : it.buffer = [] → it.pager.hasMore = false) :
    Continues link l s n (it.take.1, it.take.2, t) := by
  -- the next value, and the values behind it, are those of the buffer
  have hget : (l.values link s it.pagesFetched)[n]? = (readEntries l.item it.buffer)[0]? := by
    rw [← h.left, List.getElem?_drop, Nat.add_zero]
  have htail : (l.values link s it.pagesFetched).drop (n + 1) =
      (readEntries l.item it.buffer).tail := by
    rw [← h.left, List.tail_drop]
  have hcount := h.count
  have hlen := congrArg List.length h.left
  rw [List.length_drop] at hlen
  cases hbuf : it.buffer with
  | nil =>
    -- nothing is left and no page is to come, so the walk closes with the end of its course
    have hgoes := h.goes
    rw [hmore hbuf, Bool.and_false] at hgoes
    rw [hbuf] at hget hlen
    rw [PageIterator.take_of_nil hbuf]
    refine ⟨.inr ⟨.inl rfl, hbuf, h.session, hgoes, ?_⟩, ?_, fun _ => .inl rfl⟩
    · simp only [readEntries, List.length_nil] at hlen
      show (l.values link s it.pagesFetched).length ≤ n + 1
      omega
    · simpa [readEntries] using hget.symm
  | cons raw rest =>
    cases hd : decodeEntry l.item raw with
    | ok entry =>
      rw [hbuf, readEntries_cons_of_ok rest hd] at hget htail hlen
      rw [PageIterator.take_of_ok hbuf (h.item ▸ hd)]
      refine ⟨.inl ⟨{ h.toInCourse with count := ?_, left := htail, goes := ?_ }, .inl hstate⟩, ?_,
        fun hne => absurd rfl (hne entry)⟩
      · rw [List.length_cons] at hlen
        show n + 1 ≤ (l.values link s it.pagesFetched).length
        omega
      · rw [← allDecode_cons_of_ok rest hd, ← hbuf]
        exact h.goes
      · simpa using hget.symm
    | error e =>
      -- an entry that does not decode is the last value, and no page behind it is asked for
      have hgoes := h.goes
      rw [hbuf, allDecode_cons_of_error rest hd, Bool.false_and] at hgoes
      rw [hbuf, readEntries_cons_of_error rest hd] at hget hlen
      rw [PageIterator.take_of_error hbuf (h.item ▸ hd)]
      refine ⟨.inr ⟨.inr rfl, rfl, h.session, hgoes, ?_⟩, ?_, fun _ => .inr rfl⟩
      · simp only [List.length_singleton] at hlen
        show (l.values link s it.pagesFetched).length ≤ n + 1
        omega
      · simpa using hget.symm

/-- In the course of a listing, an iterator that asks for a page gets the next page of the course,
and leaves the session as the course does. -/
theorem InCourse.send_eq (h : InCourse link l s it t) :
    let sent := it.client.send link { method := "GET", url := it.pageUrl } t
    PageIterator.pageOf sent.1 = l.pageAt link s it.pagesFetched ∧
      sent.2.2 = (l.place link s (it.pagesFetched + 1)).2 := by
  rw [PageIterator.pageUrl, h.client, h.url, h.pager, h.session]
  exact ⟨rfl, rfl⟩

theorem InCourse.fetchAndTake_of_error (h : InCourse link l s it t) {e : ApiError}
    (hp : l.pageAt link s it.pagesFetched = .error e) :
    it.fetchAndTake link t =
      (some (.error e),
        { it with state := .failed, buffer := [], pagesFetched := it.pagesFetched + 1 },
        (l.place link s (it.pagesFetched + 1)).2) := by
  obtain ⟨hpage, hsession⟩ := h.send_eq
  rw [hp] at hpage
  simp only [PageIterator.fetchAndTake, hpage, hsession]
  rfl

theorem InCourse.fetchAndTake_of_ok (h : InCourse link l s it t) {page : Page}
    (hp : l.pageAt link s it.pagesFetched = .ok page) :
    it.fetchAndTake link t =
      let received := { it with pagesFetched := it.pagesFetched + 1 }.receive page
      (received.take.1, received.take.2, (l.place link s (it.pagesFetched + 1)).2) := by
  obtain ⟨hpage, hsession⟩ := h.send_eq
  rw [hp] at hpage
  simp only [PageIterator.fetchAndTake, hpage, hsession]

/-- A page that an open walk with an empty buffer receives leaves it open. -/
theorem IsOpen.receive (h : IsOpen link l s n it t) (hbuf : it.buffer = [])
    (hreach : l.reaches link s it.pagesFetched = true) {page : Page}
    (hp : l.pageAt link s it.pagesFetched = .ok page) :
    IsOpen link l s n ({ it with pagesFetched := it.pagesFetched + 1 }.receive page)
      (l.place link s (it.pagesFetched + 1)).2 := by
  have hcount := h.length_values_eq_iff.mpr hbuf
  have hvalues := l.values_succ_of_ok link s hreach hp
  have hgoes := l.reaches_succ_of_reaches link s hreach
  rw [goesOn, hp] at hgoes
  refine
    { client := h.client
      url := h.url
      item := h.item
      pager := ?_
      session := rfl
      count := ?_
      left := ?_
      goes := ?_ }
  · show it.pager.afterPage page = (l.place link s (it.pagesFetched + 1)).1
    rw [l.place_succ link s _ hp, h.pager]
  · show n ≤ (l.values link s (it.pagesFetched + 1)).length
    rw [hvalues, List.length_append, hcount]
    exact Nat.le_add_right _ _
  · show (l.values link s (it.pagesFetched + 1)).drop n =
      readEntries l.item (it.buffer ++ page.entries)
    rw [hvalues, hbuf, ← hcount, List.drop_left, List.nil_append]
  · show l.reaches link s (it.pagesFetched + 1) =
      (allDecode l.item (it.buffer ++ page.entries) && (it.pager.afterPage page).hasMore)
    rw [hgoes, hbuf, List.nil_append, h.pager]
    cases hentries : page.entries with
    | nil => simp [hentries, Pager.hasMore_afterPage_nil _ hentries]
    | cons raw rest => simp [Pager.afterPage, hentries]

/-- Asking for a page in an open walk whose buffer is empty hands out the next value. -/
theorem IsOpen.continues_fetchAndTake (h : IsOpen link l s n it t) (hbuf : it.buffer = [])
    (hreach : l.reaches link s it.pagesFetched = true) :
    Continues link l s n (it.fetchAndTake link t) := by
  have hcount := h.length_values_eq_iff.mpr hbuf
  cases hp : l.pageAt link s it.pagesFetched with
  | error e =>
    -- the failure is the last value, and the course does not go on behind it
    have hvalues := l.values_succ_of_error link s hreach hp
    have hgoes := l.reaches_succ_of_reaches link s hreach
    rw [goesOn, hp] at hgoes
    rw [h.fetchAndTake_of_error hp]
    refine ⟨.inr ⟨.inr rfl, rfl, rfl, hgoes, ?_⟩, ?_, fun _ => .inr rfl⟩
    · show (l.values link s (it.pagesFetched + 1)).length ≤ n + 1
      rw [hvalues, List.length_append, hcount]
      exact Nat.le_refl _
    · show some (.error e) = (l.values link s (it.pagesFetched + 1))[n]?
      rw [hvalues, ← hcount]
      simp
  | ok page =>
    -- a page without entries leaves the pager with no more, whatever the page says
    rw [h.fetchAndTake_of_ok hp]
    refine (h.receive hbuf hreach hp).continues_take rfl fun hempty => ?_
    have hentries : page.entries = [] := by simpa [PageIterator.receive, hbuf] using hempty
    exact Pager.hasMore_afterPage_nil _ hentries

/-- What a call does. It asks for a page only where the course goes on and the buffer is empty. -/
theorem Stands.next_cases (h : Stands link l s n it t) :
    (IsOpen link l s n it t ∧ it.buffer = [] ∧ l.reaches link s it.pagesFetched = true ∧
        it.next link t = it.fetchAndTake link t) ∨
      (IsOpen link l s n it t ∧ it.state = .hasPage ∧
        (it.buffer = [] → it.pager.hasMore = false) ∧
        it.next link t = (it.take.1, it.take.2, t)) ∨
      (IsClosed link l s n it t ∧ it.next link t = (none, it, t)) := by
  rcases h with ⟨hopen, hstate | ⟨hstate, hbuf, hmore⟩⟩ | hclosed
  · by_cases hfetch : it.buffer = [] ∧ it.pager.hasMore = true
    · refine .inl ⟨hopen, hfetch.1, ?_, ?_⟩
      · rw [hopen.goes, hfetch.1, hfetch.2]
        rfl
      · simp [PageIterator.next, hstate, hfetch]
    · refine .inr (.inl ⟨hopen, hstate, fun hbuf => ?_, ?_⟩)
      · simpa [hbuf] using hfetch
      · have hcond : (it.buffer.isEmpty && it.pager.hasMore) = false := by
          simpa using hfetch
        simp [PageIterator.next, hstate, hcond]
  · refine .inl ⟨hopen, hbuf, ?_, ?_⟩
    · rw [hopen.goes, hbuf, hmore]
      rfl
    · simp [PageIterator.next, hstate]
  · exact .inr (.inr ⟨hclosed, PageIterator.next_of_ended link t hclosed.state⟩)

/-- A closed walk stays closed, and has no value left to hand out. -/
theorem IsClosed.continues (h : IsClosed link l s n it t) :
    Continues link l s n (none, it, t) where
  stands := .inr { h with count := Nat.le_succ_of_le h.count }
  value := (List.getElem?_eq_none h.count).symm
  ended := fun _ => h.state

/-- One call keeps the invariant. -/
theorem Stands.continues_next (h : Stands link l s n it t) :
    Continues link l s n (it.next link t) := by
  rcases h.next_cases with ⟨hopen, hbuf, hreach, heq⟩ | ⟨hopen, hstate, hmore, heq⟩ |
    ⟨hclosed, heq⟩
  · rw [heq]
    exact hopen.continues_fetchAndTake hbuf hreach
  · rw [heq]
    exact hopen.continues_take hstate hmore
  · rw [heq]
    exact hclosed.continues

/-- A call asks for the next page of the course if the course goes on and all its values so far have
been handed out. Otherwise it asks for nothing. -/
theorem Stands.requests_next (h : Stands link l s n it t) :
    if l.reaches link s it.pagesFetched = true ∧
        (l.values link s it.pagesFetched).length = n then
      (it.next link t).2.1.pagesFetched = it.pagesFetched + 1 ∧
        (it.next link t).2.2 = (l.ask link (l.place link s it.pagesFetched).1 t).2
    else (it.next link t).2.1.pagesFetched = it.pagesFetched ∧ (it.next link t).2.2 = t := by
  rcases h.next_cases with ⟨hopen, hbuf, hreach, heq⟩ | ⟨hopen, hstate, hmore, heq⟩ |
    ⟨hclosed, heq⟩
  · rw [if_pos ⟨hreach, hopen.length_values_eq_iff.mpr hbuf⟩, heq]
    obtain ⟨hcounted, hsession⟩ := it.fetchAndTake_requests link t
    refine ⟨hcounted, ?_⟩
    rw [hsession, hopen.send_eq.2, hopen.session]
    rfl
  · -- a page that were due would leave nothing to hand out and more to ask for
    have hdue : ¬(l.reaches link s it.pagesFetched = true ∧
        (l.values link s it.pagesFetched).length = n) := by
      rintro ⟨hreach, hcount⟩
      rw [hopen.goes, hmore (hopen.length_values_eq_iff.mp hcount), Bool.and_false] at hreach
      cases hreach
    rw [if_neg hdue, heq]
    exact ⟨it.pagesFetched_take, rfl⟩
  · have hdue : ¬(l.reaches link s it.pagesFetched = true ∧
        (l.values link s it.pagesFetched).length = n) := by
      rintro ⟨hreach, -⟩
      rw [hclosed.stops] at hreach
      cases hreach
    rw [if_neg hdue, heq]
    exact ⟨rfl, rfl⟩

variable (link l s n)

/-- The invariant holds after any number of calls. -/
theorem stands_after : Stands link l s n (l.after link s n).1 (l.after link s n).2 := by
  induction n with
  | zero =>
    exact .inl ⟨isOpen_iterator, .inr ⟨rfl, rfl, Pager.hasMore_ofPaging l.paging⟩⟩
  | succ n ih => exact ih.continues_next.stands

/-! ### What a walk hands out and asks for -/

/-- There are never more pages than calls. -/
theorem fetched_le : l.fetched link s n ≤ n := by
  induction n with
  | zero => exact Nat.le_refl 0
  | succ n ih =>
    have hreq := (stands_after link l s n).requests_next
    have hn : (l.after link s n).1.pagesFetched ≤ n := ih
    show ((l.after link s n).1.next link (l.after link s n).2).2.1.pagesFetched ≤ n + 1
    split at hreq
    · rw [hreq.1]
      omega
    · rw [hreq.1]
      omega

/-- The session after `n` calls is the one after the requests of the pages asked for. -/
theorem after_session : (l.after link s n).2 = (l.place link s (l.fetched link s n)).2 := by
  rcases stands_after link l s n with ⟨hopen, -⟩ | hclosed
  · exact hopen.session
  · exact hclosed.session

/-- Only an iterator that has a page holds entries. -/
theorem after_buffer (h : (l.after link s n).1.state ≠ .hasPage) :
    (l.after link s n).1.buffer = [] := by
  rcases stands_after link l s n with ⟨-, hstate | ⟨-, hbuf, -⟩⟩ | hclosed
  · exact absurd hstate h
  · exact hbuf
  · exact hclosed.buffer

/-- The answers are the values of the course. -/
theorem answer_eq {k : Nat} (hk : n < k) :
    l.answer link s n = (l.values link s k)[n]? := by
  have hvalue : l.answer link s n = (l.values link s (l.fetched link s (n + 1)))[n]? :=
    (stands_after link l s n).continues_next.value
  have hle : l.fetched link s (n + 1) ≤ k := Nat.le_trans (fetched_le link l s (n + 1)) hk
  rw [hvalue]
  rcases stands_after link l s (n + 1) with ⟨hopen, -⟩ | hclosed
  · exact (l.values_getElem?_of_lt link s hle hopen.count).symm
  · rw [l.values_of_not_reaches link s hclosed.stops hle]
    rfl

/-- A walk that has ended hands out nothing more, asks for nothing, and stays as it is. -/
theorem after_of_hasEnded (h : (l.after link s n).1.HasEnded) (k : Nat) :
    l.after link s (n + k) = l.after link s n ∧ l.answer link s (n + k) = none := by
  have hnext := PageIterator.next_of_ended link (l.after link s n).2 h
  induction k with
  | zero => exact ⟨rfl, congrArg Prod.fst hnext⟩
  | succ k ih =>
    have hafter : l.after link s (n + (k + 1)) = l.after link s n := by
      show ((l.after link s (n + k)).1.next link (l.after link s (n + k)).2).2 = _
      rw [ih.1, hnext]
    refine ⟨hafter, ?_⟩
    unfold answer
    rw [hafter, hnext]

/-- An answer that is not an entry ends the walk. -/
theorem hasEnded_of_answer (h : ∀ entry, l.answer link s n ≠ some (.ok entry)) :
    (l.after link s (n + 1)).1.HasEnded :=
  (stands_after link l s n).continues_next.ended h

/-- A walk **follows** the course of its listing if its answers are the values of the course and its
requests are those of the course, each made when it is due. -/
structure Follows : Prop where
  /-- The answers are the values of the course, in order, and then there are none. -/
  answers : ∀ n k, n < k → l.answer link s n = (l.values link s k)[n]?
  /-- An answer that is a failure, or no answer, ends the walk. -/
  ends : ∀ n, (∀ entry, l.answer link s n ≠ some (.ok entry)) →
    (l.after link s (n + 1)).1.HasEnded
  /-- A walk that has ended hands out nothing more, asks for nothing, and stays as it is. -/
  ended : ∀ n, (l.after link s n).1.HasEnded →
    ∀ k, l.after link s (n + k) = l.after link s n ∧ l.answer link s (n + k) = none
  /-- Before the first call, nothing has been asked for. -/
  first : l.fetched link s 0 = 0 ∧ (l.after link s 0).2 = s
  /-- A call asks for the next page of the course if it is due, and else for nothing. -/
  requests : ∀ n,
    if l.IsDue link s n then
      l.fetched link s (n + 1) = l.fetched link s n + 1 ∧
        (l.after link s (n + 1)).2 =
          (l.ask link (l.place link s (l.fetched link s n)).1 (l.after link s n).2).2
    else
      l.fetched link s (n + 1) = l.fetched link s n ∧
        (l.after link s (n + 1)).2 = (l.after link s n).2
  /-- The number of pages is that of the requests that the session has seen. -/
  session : ∀ n, (l.after link s n).2 = (l.place link s (l.fetched link s n)).2
  /-- Only an iterator that has a page holds entries. -/
  buffer : ∀ n, (l.after link s n).1.state ≠ .hasPage → (l.after link s n).1.buffer = []

/-- **Walking.** Every walk follows the course of its listing, whatever its requests bring. -/
theorem walk_follows : Follows link l s where
  answers := fun n _ hk => answer_eq link l s n hk
  ends := fun n => hasEnded_of_answer link l s n
  ended := fun n => after_of_hasEnded link l s n
  first := ⟨rfl, rfl⟩
  requests := fun n => (stands_after link l s n).requests_next
  session := fun n => after_session link l s n
  buffer := fun n => after_buffer link l s n

end Listing

end ContentClient
