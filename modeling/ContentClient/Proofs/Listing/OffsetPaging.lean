import ContentClient.Http.ScriptedServer
import ContentClient.Proofs.Client.Retries
import ContentClient.Proofs.Listing.Walk

/-!
# Offset paging

A server that holds a list of entries answers a request at a position with a **slice** of the list:
the entries from that position on, up to a size of its own choice, with the length of the whole list
as the total count. A walk by offset paging through such slices hands out the list from its first
position on, entry by entry, and every request asks for the position of the first entry that has not
been received.

The invariant is about the course of the listing (`StandsAt`): the pages before a page that is
reached hand out an initial piece of the list, and the pager stands right behind that piece. Three
rules move the pager on, by the size of the page, by the number of its entries, and by saturation
at the greatest position; as long as there is more to come they agree.
-/

namespace ContentClient

/-! ### Slices -/

/-- A page is a **slice** of a list at a position. The size of the slice is at least one, and stands
in the page as its limit unless there is none, or zero. -/
structure Page.IsSlice (page : Page) (entries : List Json) (position : Nat) : Prop where
  total : page.totalCount = some entries.length
  offset : page.offset = none ∨ page.offset = some position
  slice : ∃ size, 1 ≤ size ∧ page.entries = (entries.drop position).take size ∧
    (page.limit = some size ∨ page.limit = some 0 ∨ page.limit = none)

namespace Page.IsSlice

variable {page : Page} {entries : List Json} {position : Nat}

/-- A slice reaches as far as its size says, unless it reaches the end of the list. -/
theorem exists_size (h : page.IsSlice entries position) :
    ∃ size, 1 ≤ size ∧ page.entries = (entries.drop position).take size ∧
      (Pager.stride page = size ∨ entries.length ≤ position + size ∧
        Pager.stride page = page.entries.length) := by
  obtain ⟨size, hpos, hentries, hlimit⟩ := h.slice
  refine ⟨size, hpos, hentries, ?_⟩
  have hlen := congrArg List.length hentries
  rw [List.length_take, List.length_drop] at hlen
  rcases hlimit with hlimit | hlimit | hlimit
  · left
    have hsize : 0 < size := hpos
    simp [Pager.stride, hlimit, Option.filter, hsize]
  all_goals
    have hstride : Pager.stride page = page.entries.length := by
      simp [Pager.stride, hlimit, Option.filter]
    rw [hstride]
    omega

/-- The entries of a slice are the next ones of the list. -/
theorem entries_eq (h : page.IsSlice entries position) :
    page.entries = (entries.drop position).take page.entries.length := by
  obtain ⟨size, -, hentries, -⟩ := h.slice
  refine List.prefix_iff_eq_take.mp ?_
  rw [hentries]
  exact List.take_prefix size _

/-- Behind a slice the pager stands right behind the entries of the slice if
there are more in the list, and has no more otherwise. -/
theorem advance (h : page.IsSlice entries position) (hbound : entries.length ≤ maxPosition)
    (pageSize : Nat) (more : Bool) :
    if position + page.entries.length < entries.length then
      Pager.advance page (.offset pageSize position more) =
        .offset pageSize (position + page.entries.length) true
    else (Pager.advance page (.offset pageSize position more)).hasMore = false := by
  obtain ⟨size, hpos, hentries, hstride⟩ := h.exists_size
  have hlen := congrArg List.length hentries
  rw [List.length_take, List.length_drop] at hlen
  have hoffset : page.offset.getD position = position := by
    rcases h.offset with hnone | hsome
    · rw [hnone, Option.getD_none]
    · rw [hsome, Option.getD_some]
  -- a slice that ends before the list does is as long as its size says
  simp only [Pager.advance, Pager.hasMore, hoffset, h.total, Option.any_some]
  split
  · have hnext : min (position + Pager.stride page) maxPosition =
        position + page.entries.length := by omega
    rw [hnext]
    simpa using ‹_›
  · rw [decide_eq_false_iff_not]
    omega

end Page.IsSlice

/-! ### Courses of slices -/

theorem readEntries_of_map {item : Json.Shape} {raws decoded : List Json}
    (h : raws.map item.decodeValue = decoded.map .ok) :
    readEntries item raws = decoded.map .ok ∧ allDecode item raws = true := by
  induction raws generalizing decoded with
  | nil =>
    cases decoded with
    | nil => exact ⟨rfl, rfl⟩
    | cons entry rest => cases h
  | cons raw raws ih =>
    cases decoded with
    | nil => cases h
    | cons entry rest =>
      simp only [List.map_cons, List.cons.injEq] at h
      have hd : decodeEntry item raw = .ok entry := by rw [decodeEntry, h.1]
      rw [readEntries_cons_of_ok raws hd, allDecode_cons_of_ok raws hd, (ih h.2).1, (ih h.2).2]
      exact ⟨rfl, rfl⟩

namespace Listing

variable {σ : Type} (link : Link σ) (l : Listing) (s : Session σ)

/-- A listing by offset paging is **served from** a list if every request that its course makes is
answered with a slice of the list at the position that is asked for. All entries of the list decode,
and its length is a position that a request can name. -/
structure ServedFrom (entries decoded : List Json) (size start : Nat) : Prop where
  paging : l.paging = .offset size start
  bound : entries.length ≤ maxPosition
  decodes : entries.map l.item.decodeValue = decoded.map .ok
  slices : ∀ i, l.reaches link s i = true → ∀ limit position more,
    (l.place link s i).1 = .offset limit position more →
      ∃ page, l.pageAt link s i = .ok page ∧ page.IsSlice entries position

/-- The course of a listing stands at `count` entries before page number `i`: they are what the
pages before have handed out, and the next one is asked for. -/
structure StandsAt (decoded : List Json) (size start i count : Nat) : Prop where
  values : l.values link s i = ((decoded.drop start).take count).map .ok
  place : (l.place link s i).1 = .offset size (start + count) true
  grown : i ≤ count
  within : i = 0 ∧ count = 0 ∨ start + count < decoded.length

variable {link l s} {entries decoded : List Json} {size start : Nat}

theorem ServedFrom.length_eq (hserved : ServedFrom link l s entries decoded size start) :
    entries.length = decoded.length := by
  simpa using congrArg List.length hserved.decodes

/-- The page that a course of slices gets where it stands hands out the next entries. -/
theorem StandsAt.values_succ {i count : Nat}
    (h : StandsAt link l s decoded size start i count) (hreach : l.reaches link s i = true)
    (hdecode : entries.map l.item.decodeValue = decoded.map .ok) {page : Page}
    (hp : l.pageAt link s i = .ok page) (hslice : page.IsSlice entries (start + count)) :
    l.values link s (i + 1) =
        ((decoded.drop start).take (count + page.entries.length)).map .ok ∧
      allDecode l.item page.entries = true := by
  have hmap : page.entries.map l.item.decodeValue =
      ((decoded.drop (start + count)).take page.entries.length).map .ok :=
    calc page.entries.map l.item.decodeValue
      _ = ((entries.drop (start + count)).take page.entries.length).map l.item.decodeValue :=
        congrArg _ hslice.entries_eq
      _ = ((entries.map l.item.decodeValue).drop (start + count)).take page.entries.length := by
        rw [List.map_take, List.map_drop]
      _ = ((decoded.drop (start + count)).take page.entries.length).map .ok := by
        rw [hdecode, List.map_take, List.map_drop]
  obtain ⟨hread, hall⟩ := readEntries_of_map hmap
  refine ⟨?_, hall⟩
  rw [l.values_succ_of_ok link s hreach hp, h.values, hread, ← List.map_append, List.take_add,
    List.drop_drop]

/-- If the course goes on behind a page, it stands right behind the entries of the page. -/
theorem StandsAt.step {i count : Nat} (h : StandsAt link l s decoded size start i count)
    (hreach : l.reaches link s i = true) (hgoes : l.goesOn link s i = true)
    (hserved : ServedFrom link l s entries decoded size start) :
    ∃ next, StandsAt link l s decoded size start (i + 1) next := by
  obtain ⟨page, hp, hslice⟩ := hserved.slices i hreach _ _ _ h.place
  obtain ⟨page', hp', hne, -, hmore⟩ := (l.goesOn_eq_true_iff link s).mp hgoes
  obtain rfl : page = page' := by simpa [hp] using hp'
  rw [h.place] at hmore
  have hadvance := hslice.advance hserved.bound size true
  have hplace := l.place_succ link s i hp
  rw [h.place, Pager.afterPage, if_neg (by simpa using hne)] at hplace
  have hlen := hserved.length_eq
  have hgrow : 0 < page.entries.length := List.length_pos_iff.mpr hne
  have hgrown := h.grown
  split at hadvance
  · refine ⟨count + page.entries.length,
      { values := (h.values_succ hreach hserved.decodes hp hslice).1
        place := ?_
        grown := by omega
        within := .inr (by omega) }⟩
    rw [hplace, hadvance, Nat.add_assoc]
  · rw [hadvance] at hmore
    cases hmore

variable (link l s entries decoded size start)

/-- A listing of letters, one to a page. -/
def letters : Listing :=
  let url : Url :=
    { scheme := "https"
      authority := some { host := .name "example.org" }
      path := .segments ["letters"] }
  { client :=
      { authorization := "Bearer token"
        options := {}
        clock := .system
        baseUrl := url
        baseUploadUrl := url }
    url
    paging := .offset 1 0
    item := .leaf .string }

/-- The reply with one letter out of two. -/
def letterReply (letter : String) : ScriptedReply :=
  { headers := [("Content-Type", "application/json")]
    content := Text.utf8 ("\x7b\"entries\":[\"" ++ letter ++ "\"],\"total_count\":2\x7d") }

/-- A session with a server that has letters left to hand out. -/
def letterSession (left : List String) (received : List ReceivedRequest) :
    Session ScriptedServer :=
  ⟨.empty, ⟨left.map letterReply, received⟩, []⟩

end Listing

end ContentClient
