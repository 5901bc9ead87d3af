import ContentClient.Http.ScriptedServer
import ContentClient.Proofs.Client.Retries
import ContentClient.Proofs.Listing.Progress
import ContentClient.Proofs.Url.Query

/-!
# Marker paging

A server that pages by markers puts into every page but the last the marker of the next one. A walk
by marker paging follows this **chain**: it asks for every page of the chain once, first for the
marker of the paging parameters and then for the marker that the page before holds, and hands out
the entries of all pages in order. The main statement is `markerWalk_of_servesChain`.

The invariant is about the course of the listing (`ServesChain.place_eq`): every page of the chain
is reached, and the pager asks for the marker that the page before left. The pager is rebuilt from
each page and the URL from that of the listing, so that no marker is left over from an earlier
request. What a request carries is read off the query of its URL (`queryPairs_markerUrl`).
-/

namespace ContentClient

/-- The marker that a page **leads to**: its next marker, unless that is empty. -/
def Page.leadsTo? (page : Page) : Option String := page.nextMarker.filter (!·.isEmpty)

/-- A page leads to a marker exactly if that is its next marker and not empty. -/
theorem Page.leadsTo?_eq_some_iff {page : Page} {marker : String} :
    page.leadsTo? = some marker ↔ page.nextMarker = some marker ∧ marker ≠ "" := by
  simp [leadsTo?, Option.filter_eq_some_iff]

-- a next marker that is absent, null or empty leads nowhere
example :
    ["\x7b\"entries\":[]\x7d", "\x7b\"entries\":[],\"next_marker\":null\x7d",
        "\x7b\"entries\":[],\"next_marker\":\"\"\x7d"].map
      (fun text => (Page.ofText text).toOption.map Page.leadsTo?) =
      [some none, some none, some none] := by
  rfl

/-- Behind a page, a pager asks for the marker that the page leads to, if it does. -/
theorem Pager.advance_marker (page : Page) (size : Nat) (token : Option String) (more : Bool) :
    Pager.advance page (.marker size token more) =
      .marker size page.leadsTo? page.leadsTo?.isSome := rfl

theorem readEntries_append {item : Json.Shape} {entries more : List Json}
    (h : allDecode item entries = true) :
    readEntries item (entries ++ more) = readEntries item entries ++ readEntries item more := by
  induction entries with
  | nil => rfl
  | cons raw rest ih =>
    cases hd : decodeEntry item raw with
    | error e =>
      rw [allDecode_cons_of_error rest hd] at h
      cases h
    | ok entry =>
      rw [allDecode_cons_of_ok rest hd] at h
      rw [List.cons_append, readEntries_cons_of_ok _ hd, readEntries_cons_of_ok _ hd, ih h,
        List.cons_append]

namespace Listing

variable {σ : Type} (link : Link σ) (l : Listing) (s : Session σ)

/-- A listing by marker paging is served a **chain** of pages: request number `i` brings page number
`i`, every page but the last has entries and leads on, the last one does not, and all entries
decode. -/
structure ServesChain (pages : List Page) (decoded : List Json) (size : Nat)
    (token : Option String) : Prop where
  paging : l.paging = .marker size token
  ne_nil : pages ≠ []
  serves : ∀ i page, pages[i]? = some page → l.pageAt link s i = .ok page
  leadsOn : ∀ i page, pages[i]? = some page → i + 1 < pages.length →
    page.entries ≠ [] ∧ page.leadsTo?.isSome = true
  ends : ∀ page, pages.getLast? = some page → page.leadsTo? = none
  decodes : (pages.flatMap (·.entries)).map l.item.decodeValue = decoded.map .ok

/-- The markers that a chain of pages is asked for with. -/
def chainMarkers (token : Option String) (pages : List Page) : List (Option String) :=
  token :: pages.map (·.nextMarker)

/-- The URL of the page that a marker stands for. -/
def markerUrl (size : Nat) (marker : Option String) : Url :=
  l.url.appendPairs (Pager.marker size marker true).queryPairs

/-- The pairs of the pager stand behind those of the listing, and the marker reads back as it was
given. -/
theorem queryPairs_markerUrl (size : Nat) (marker : Option String) :
    (l.markerUrl size marker).queryPairs =
      l.url.queryPairs ++ ([("limit", toString size), ("usemarker", "true")] ++
        marker.toList.map fun m => ("marker", m)) := by
  rw [markerUrl, Url.queryPairs_appendPairs, Pager.queryPairs]

variable {link l s} {pages : List Page} {decoded : List Json} {size : Nat} {token : Option String}

namespace ServesChain

theorem allDecode_of_mem (h : ServesChain link l s pages decoded size token) {page : Page}
    (hpage : page ∈ pages) : allDecode l.item page.entries = true := by
  have hall := (readEntries_of_map h.decodes).2
  rw [allDecode, List.all_flatMap, List.all_eq_true] at hall
  exact hall page hpage

/-- **The invariant of marker paging.** Every page of the chain is reached, and asked for with the
marker that the page before holds. -/
theorem place_eq (h : ServesChain link l s pages decoded size token) {i : Nat} {page : Page}
    (hpage : pages[i]? = some page) :
    l.reaches link s i = true ∧ ∃ marker, (chainMarkers token pages)[i]? = some marker ∧
      (l.place link s i).1 = .marker size marker true := by
  induction i generalizing page with
  | zero =>
    refine ⟨rfl, token, rfl, ?_⟩
    show Pager.ofPaging l.paging = _
    rw [h.paging]
    rfl
  | succ i ih =>
    have hlt := (List.getElem?_eq_some_iff.mp hpage).1
    obtain ⟨before, hbefore⟩ : ∃ before, pages[i]? = some before :=
      ⟨pages[i], List.getElem?_eq_getElem (Nat.lt_of_succ_lt hlt)⟩
    obtain ⟨hreach, marker, -, hplace⟩ := ih hbefore
    obtain ⟨hne, hleads⟩ := h.leadsOn i before hbefore hlt
    obtain ⟨next, hnext⟩ := Option.isSome_iff_exists.mp hleads
    have hserved := h.serves i before hbefore
    have hadvance := Pager.advance_marker before size marker true
    refine ⟨?_, some next, ?_, ?_⟩
    · rw [reaches_succ, hreach, Bool.true_and]
      refine (l.goesOn_eq_true_iff link s).mpr
        ⟨before, hserved, hne, h.allDecode_of_mem (List.mem_of_getElem? hbefore), ?_⟩
      rw [hplace, hadvance]
      exact hleads
    · rw [chainMarkers, List.getElem?_cons_succ, List.getElem?_map, hbefore, Option.map_some,
        (Page.leadsTo?_eq_some_iff.mp hnext).1]
    · rw [l.place_succ link s i hserved, hplace, Pager.afterPage, if_neg (by simpa using hne),
        hadvance, hnext]
      rfl

/-- Behind the last page of the chain there is none. -/
theorem reaches_length (h : ServesChain link l s pages decoded size token) :
    l.reaches link s pages.length = false := by
  obtain ⟨i, hi⟩ : ∃ i, pages.length = i + 1 :=
    Nat.exists_eq_succ_of_ne_zero (mt List.length_eq_zero_iff.mp h.ne_nil)
  obtain ⟨last, hlast⟩ : ∃ last, pages[i]? = some last :=
    ⟨pages[i], List.getElem?_eq_getElem (by omega)⟩
  have hends : last.leadsTo? = none := by
    refine h.ends last ?_
    rw [List.getLast?_eq_getElem?, hi, Nat.add_sub_cancel, hlast]
  obtain ⟨hreach, marker, -, hplace⟩ := h.place_eq hlast
  rw [hi, l.reaches_succ_of_reaches link s hreach]
  -- the last page leaves the pager with nothing to ask for
  cases hgoes : l.goesOn link s i with
  | false => rfl
  | true =>
    obtain ⟨page, hpage, -, -, hmore⟩ := (l.goesOn_eq_true_iff link s).mp hgoes
    obtain rfl := Except.ok.inj ((h.serves i last hlast).symm.trans hpage)
    rw [hplace, Pager.advance_marker, Pager.hasMore, hends] at hmore
    cases hmore

/-- The pages of the chain hand out their entries. -/
theorem values_eq (h : ServesChain link l s pages decoded size token) {i : Nat}
    (hi : i ≤ pages.length) :
    l.values link s i = readEntries l.item ((pages.take i).flatMap (·.entries)) := by
  induction i with
  | zero => rfl
  | succ i ih =>
    obtain ⟨page, hpage⟩ : ∃ page, pages[i]? = some page :=
      ⟨pages[i], List.getElem?_eq_getElem hi⟩
    have hbefore : allDecode l.item ((pages.take i).flatMap (·.entries)) = true := by
      rw [allDecode, List.all_flatMap, List.all_eq_true]
      exact fun other hother => h.allDecode_of_mem (List.mem_of_mem_take hother)
    rw [l.values_succ_of_ok link s (h.place_eq hpage).1 (h.serves i page hpage),
      ih (Nat.le_of_succ_le hi), List.take_add_one, hpage, List.flatMap_append,
      readEntries_append hbefore, Option.toList_some, List.flatMap_singleton]

/-- All that the listing hands out is the entries of the chain. -/
theorem values_of_length_le (h : ServesChain link l s pages decoded size token) {k : Nat}
    (hk : pages.length ≤ k) : l.values link s k = decoded.map .ok := by
  rw [l.values_of_not_reaches link s h.reaches_length hk, h.values_eq (Nat.le_refl _),
    List.take_length, (readEntries_of_map h.decodes).1]

/-- A walk does not ask beyond the chain. -/
theorem fetched_le (h : ServesChain link l s pages decoded size token) (n : Nat) :
    l.fetched link s n ≤ pages.length := by
  by_contra hlt
  have hreach : l.reaches link s pages.length = true :=
    reaches_of_lt_fetched (Nat.lt_of_not_le hlt)
  rw [h.reaches_length] at hreach
  cases hreach

/-- Once all entries have been handed out, one more call finds the end, and the whole chain has been
asked for by then. -/
theorem isClosed_after (h : ServesChain link l s pages decoded size token) {n : Nat}
    (hn : decoded.length < n) :
    IsClosed link l s n (l.after link s n).1 (l.after link s n).2 := by
  rcases stands_after link l s n with ⟨hopen, -⟩ | hclosed
  · -- an open walk has not handed out more than there is
    have hcount : n ≤ (l.values link s (l.fetched link s n)).length := hopen.count
    have hle := (l.values_isPrefix link s (h.fetched_le n)).length_le
    rw [h.values_of_length_le (Nat.le_refl _), List.length_map] at hle
    omega
  · exact hclosed

theorem fetched_eq (h : ServesChain link l s pages decoded size token) {n : Nat}
    (hn : decoded.length < n) : l.fetched link s n = pages.length := by
  refine Nat.le_antisymm (h.fetched_le n) ?_
  by_contra hlt
  have hpage : pages[l.fetched link s n]? = some pages[l.fetched link s n] :=
    List.getElem?_eq_getElem (Nat.lt_of_not_le hlt)
  have hstops : l.reaches link s (l.fetched link s n) = false := (h.isClosed_after hn).stops
  rw [(h.place_eq hpage).1] at hstops
  cases hstops

end ServesChain

variable (link l s pages decoded size token)

/-- What a walk along a chain of pages looks like. -/
structure MarkerWalk : Prop where
  /-- It hands out the entries of all pages, in order, and then nothing. -/
  answers : ∀ n, l.answer link s n = (decoded[n]?).map .ok
  /-- The call behind the last entry ends it. -/
  ends : ∀ n, decoded.length ≤ n → (l.after link s (n + 1)).1.HasEnded
  /-- It asks for no more pages than the chain has, and for all of them in the end. -/
  fetched_le : ∀ n, l.fetched link s n ≤ pages.length
  fetched : ∀ n, decoded.length < n → l.fetched link s n = pages.length
  /-- A call asks for nothing, or for the next page of the chain with the marker for it. -/
  requests : ∀ n,
    (l.fetched link s (n + 1) = l.fetched link s n ∧
        (l.after link s (n + 1)).2 = (l.after link s n).2) ∨
      (l.fetched link s (n + 1) = l.fetched link s n + 1 ∧
        ∃ marker, (chainMarkers token pages)[l.fetched link s n]? = some marker ∧
          (l.after link s (n + 1)).2 =
            (l.client.send link { method := "GET", url := l.markerUrl size marker }
              (l.after link s n).2).2.2)
  /-- The URL for a marker is that of the listing, with the pairs of the pager behind its own. -/
  query : ∀ marker, ∃ query,
    l.markerUrl size marker = { l.url with query := some query } ∧
      (l.markerUrl size marker).queryPairs =
        l.url.queryPairs ++ ([("limit", toString size), ("usemarker", "true")] ++
          marker.toList.map fun m => ("marker", m))

variable {link l s pages decoded size token}

/-- **Marker paging.** A walk by marker paging that is served a chain of pages asks for each of them
once, with the marker that the page before holds, and hands out their entries. -/
theorem markerWalk_of_servesChain (h : ServesChain link l s pages decoded size token) :
    MarkerWalk link l s pages decoded size token where
  answers := by
    intro n
    have hlt : n < max (n + 1) pages.length := Nat.lt_of_lt_of_le (Nat.lt_succ_self n)
      (Nat.le_max_left _ _)
    rw [answer_eq link l s n hlt, h.values_of_length_le (Nat.le_max_right _ _), List.getElem?_map]
  ends := fun n hn => (h.isClosed_after (Nat.lt_succ_of_le hn)).state
  fetched_le := h.fetched_le
  fetched := fun n hn => h.fetched_eq hn
  requests := by
    intro n
    have hrequests := (stands_after link l s n).requests_next
    split at hrequests
    · rename_i hdue
      have hlt : l.fetched link s n < pages.length := by
        refine Nat.lt_of_le_of_ne (h.fetched_le n) fun heq => ?_
        have hreach : l.reaches link s (l.fetched link s n) = true := hdue.1
        rw [heq, h.reaches_length] at hreach
        cases hreach
      obtain ⟨-, marker, hmarker, hplace⟩ := h.place_eq (List.getElem?_eq_getElem hlt)
      have hasked : (l.after link s (n + 1)).2 =
          (l.ask link (l.place link s (l.fetched link s n)).1 (l.after link s n).2).2 :=
        hrequests.2
      rw [hplace] at hasked
      exact .inr ⟨hrequests.1, marker, hmarker, hasked⟩
    · exact .inl hrequests
  query := fun marker => ⟨_, rfl, l.queryPairs_markerUrl size marker⟩

/-! ### Letters along a chain -/

/-- The listing of letters by markers, two to a page. -/
def chained : Listing := { letters with paging := .marker 2 none }

/-- The reply with a page of letters and what stands for the next marker. -/
def chainReply (entries next : String) : ScriptedReply :=
  { headers := [("Content-Type", "application/json")]
    content := Text.utf8 ("\x7b\"entries\":" ++ entries ++ ",\"next_marker\":" ++ next ++ "\x7d") }

/-- A chain of replies in which a marker stands twice, with characters that separate pairs. -/
def chainReplies : List ScriptedReply :=
  [chainReply "[\"a\"]" "\"m&=+\"", chainReply "[\"b\",\"c\"]" "\"m&=+\"",
    chainReply "[\"d\"]" "null"]

/-- The pages in these replies. -/
def chainPages : List Page :=
  [{ entries := [.string "a"], nextMarker := some "m&=+" },
    { entries := [.string "b", .string "c"], nextMarker := some "m&=+" },
    { entries := [.string "d"] }]

/-- The request for a marker, as the server receives it. -/
def chainRequest (marker : Option String) : ReceivedRequest :=
  ⟨chained.client.outgoing { method := "GET", url := chained.markerUrl 2 marker }, []⟩

/-- A session with the server behind a number of requests. -/
def chainSession (n : Nat) : Session ScriptedServer :=
  ⟨.empty, ⟨chainReplies.drop n, ((chainMarkers none chainPages).take n).map chainRequest⟩, []⟩

theorem ask_chain_zero :
    chained.ask Link.scripted (.marker 2 none true) (chainSession 0) =
      (.ok { entries := [.string "a"], nextMarker := some "m&=+" }, chainSession 1) := by
  unfold ask
  rw [Client.send_of_attempt _ _ _ _ rfl]
  rfl

theorem ask_chain_one :
    chained.ask Link.scripted (.marker 2 (some "m&=+") true) (chainSession 1) =
      (.ok { entries := [.string "b", .string "c"], nextMarker := some "m&=+" },
        chainSession 2) := by
  unfold ask
  rw [Client.send_of_attempt _ _ _ _ rfl]
  rfl

theorem ask_chain_two :
    chained.ask Link.scripted (.marker 2 (some "m&=+") true) (chainSession 2) =
      (.ok { entries := [.string "d"] }, chainSession 3) := by
  unfold ask
  rw [Client.send_of_attempt _ _ _ _ rfl]
  rfl

/-- The letters are served along the chain. -/
theorem servesChain_chained :
    ServesChain Link.scripted chained (chainSession 0) chainPages
      [.string "a", .string "b", .string "c", .string "d"] 2 none := by
  have hzero : chained.pageAt Link.scripted (chainSession 0) 0 =
      .ok { entries := [.string "a"], nextMarker := some "m&=+" } :=
    congrArg Prod.fst ask_chain_zero
  have hplace_one : chained.place Link.scripted (chainSession 0) 1 =
      (.marker 2 (some "m&=+") true, chainSession 1) := by
    have hask : chained.ask Link.scripted (chained.place Link.scripted (chainSession 0) 0).1
        (chained.place Link.scripted (chainSession 0) 0).2 = _ := ask_chain_zero
    rw [place, hask]
    rfl
  have hone : chained.pageAt Link.scripted (chainSession 0) 1 =
      .ok { entries := [.string "b", .string "c"], nextMarker := some "m&=+" } := by
    rw [pageAt, hplace_one]
    exact congrArg Prod.fst ask_chain_one
  have hplace_two : chained.place Link.scripted (chainSession 0) 2 =
      (.marker 2 (some "m&=+") true, chainSession 2) := by
    rw [place, hplace_one, ask_chain_one]
    rfl
  have htwo : chained.pageAt Link.scripted (chainSession 0) 2 =
      .ok { entries := [.string "d"] } := by
    rw [pageAt, hplace_two]
    exact congrArg Prod.fst ask_chain_two
  exact
    { paging := rfl
      ne_nil := List.cons_ne_nil _ _
      serves := by
        intro i page hpage
        rcases i with _ | _ | _ | i
        · exact Option.some.inj hpage ▸ hzero
        · exact Option.some.inj hpage ▸ hone
        · exact Option.some.inj hpage ▸ htwo
        · cases hpage
      leadsOn := by
        intro i page hpage hi
        rcases i with _ | _ | i
        · exact Option.some.inj hpage ▸ ⟨List.cons_ne_nil _ _, rfl⟩
        · exact Option.some.inj hpage ▸ ⟨List.cons_ne_nil _ _, rfl⟩
        · exact absurd hi (by simp [chainPages])
      ends := fun page hpage => Option.some.inj hpage ▸ rfl
      decodes := rfl }

/-- A walk along the chain. -/
theorem markerWalk_chained :
    ServesChain Link.scripted chained (chainSession 0) chainPages
        [.string "a", .string "b", .string "c", .string "d"] 2 none ∧
      MarkerWalk Link.scripted chained (chainSession 0) chainPages
        [.string "a", .string "b", .string "c", .string "d"] 2 none :=
  ⟨servesChain_chained, markerWalk_of_servesChain servesChain_chained⟩

end Listing

end ContentClient
