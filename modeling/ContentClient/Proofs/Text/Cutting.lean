import Mathlib.Data.List.Infix

/-!
# Cutting runs apart

Reading what has been written piece by piece. `cutAt` cuts a run at the first occurrence of a
separator, and `readItems` reads one item after another until nothing but an ending is left.

A separator whose first element occurs in it only once cannot occur across the seam between a
content and the separator behind it. So a run is cut at the separator that was written into it as
long as the content alone does not contain one (`cutAt_first`).
-/

namespace ContentClient.Text

variable {α : Type}

/-- A separator that begins before another one and reaches into it would repeat its first
element. -/
theorem begins_of_begins_append {a b : α} {sep before rest : List α} (h : a ∉ sep)
    (hbegins : a :: sep <+: b :: before ++ (a :: sep ++ rest)) : a :: sep <+: b :: before := by
  rcases List.prefix_or_prefix_of_prefix hbegins (List.prefix_append _ _) with hshort | hlong
  · exact hshort
  · obtain ⟨extra, hextra⟩ := hlong
    cases extra with
    | nil => exact ⟨[], by rw [List.append_nil, ← hextra, List.append_nil]⟩
    | cons c extra =>
      -- what reaches into the other separator begins as that does
      obtain ⟨hfirst, hsep⟩ := List.cons.inj hextra
      rw [← hextra, List.prefix_append_right_inj, List.cons_append, List.cons_append,
        List.cons_prefix_cons] at hbegins
      refine absurd ?_ h
      rw [← hsep, ← hfirst, ← hbegins.1]
      exact List.mem_append_right _ List.mem_cons_self

variable [DecidableEq α]

/-- What stands before the first occurrence of a separator in a run, and what stands behind it. -/
def cutAt (sep : List α) : List α → Option (List α × List α)
  | [] => none
  | a :: l =>
    if sep <+: a :: l then some ([], (a :: l).drop sep.length)
    else (cutAt sep l).map fun cut => (a :: cut.1, cut.2)

/-- What is left of a run behind a beginning. -/
def leave (beginning l : List α) : Option (List α) :=
  if beginning <+: l then some (l.drop beginning.length) else none

theorem leave_append (beginning rest : List α) : leave beginning (beginning ++ rest) = some rest := by
  rw [leave, if_pos (List.prefix_append _ _), List.drop_left]

variable {a : α} {sep before rest : List α}

theorem cutAt_append_self (hne : sep ≠ []) : cutAt sep (sep ++ rest) = some ([], rest) := by
  cases sep with
  | nil => exact absurd rfl hne
  | cons a sep =>
    rw [List.cons_append, cutAt, ← List.cons_append, if_pos (List.prefix_append _ _),
      List.drop_left]

/-- What does not contain the first element of a separator stands before it. -/
theorem cutAt_append_of_not_mem (h : a ∉ before) (l : List α) :
    cutAt (a :: sep) (before ++ l) =
      (cutAt (a :: sep) l).map fun cut => (before ++ cut.1, cut.2) := by
  induction before with
  | nil => exact Option.map_id.symm ▸ rfl
  | cons b before ih =>
    have hb : ¬a :: sep <+: b :: (before ++ l) := by
      rw [List.cons_prefix_cons]
      rintro ⟨rfl, -⟩
      exact h List.mem_cons_self
    rw [List.cons_append, cutAt, if_neg hb, ih fun hmem => h (List.mem_cons_of_mem _ hmem),
      Option.map_map]
    rfl

theorem cutAt_of_not_mem (h : a ∉ before) :
    cutAt (a :: sep) (before ++ (a :: sep ++ rest)) = some (before, rest) := by
  rw [cutAt_append_of_not_mem h, cutAt_append_self (List.cons_ne_nil _ _), Option.map_some,
    List.append_nil]

/-- **First occurrence.** A separator whose first element does not recur in it cuts a run behind a
content that does not contain it. -/
theorem cutAt_first (h : a ∉ sep) (hcontent : ¬a :: sep <:+: before) :
    cutAt (a :: sep) (before ++ (a :: sep ++ rest)) = some (before, rest) := by
  induction before with
  | nil => exact cutAt_append_self (List.cons_ne_nil _ _)
  | cons b before ih =>
    have hb : ¬a :: sep <+: b :: (before ++ (a :: sep ++ rest)) := fun hbegins =>
      hcontent (begins_of_begins_append h hbegins).isInfix
    have hrest : ¬a :: sep <:+: before := fun hinside =>
      hcontent (hinside.trans (List.suffix_cons b before).isInfix)
    rw [List.cons_append, cutAt, if_neg hb, ih hrest]
    rfl

/-- Reads items one after another until the ending is left. Every item takes something up. -/
def readItems {β : Type} (read : List α → Option (β × List α)) (ending l : List α) :
    Option (List β) :=
  match read l with
  | none => none
  | some (item, rest) =>
    if rest = ending then some [item]
    else if rest.length < l.length then (readItems read ending rest).map (item :: ·)
    else none
termination_by l.length

/-- **Items read back.** -/
theorem readItems_flatMap {β γ : Type} {read : List α → Option (β × List α)} {ending : List α}
    {write : γ → List α} {item : γ → β} {xs : List γ} (hne : xs ≠ [])
    (hwrite : ∀ x ∈ xs, write x ≠ [])
    (hread : ∀ x ∈ xs, ∀ rest, read (write x ++ rest) = some (item x, rest)) :
    readItems read ending (xs.flatMap write ++ ending) = some (xs.map item) := by
  induction xs with
  | nil => exact absurd rfl hne
  | cons x xs ih =>
    have hpos : 0 < (write x).length := List.length_pos_iff.mpr (hwrite x List.mem_cons_self)
    rw [List.flatMap_cons, List.append_assoc, readItems, hread x List.mem_cons_self]
    dsimp only
    cases xs with
    | nil =>
      rw [List.flatMap_nil, List.nil_append, if_pos rfl]
      rfl
    | cons x' xs =>
      -- the items to come take something up, so this is not the ending yet
      have hmore : 0 < ((x' :: xs).flatMap write).length := by
        have := List.length_pos_iff.mpr (hwrite x' (List.mem_cons_of_mem _ List.mem_cons_self))
        rw [List.flatMap_cons, List.length_append]
        omega
      have hgoes : (x' :: xs).flatMap write ++ ending ≠ ending := fun heq => by
        have := congrArg List.length heq
        rw [List.length_append] at this
        omega
      have hshorter : ((x' :: xs).flatMap write ++ ending).length <
          (write x ++ ((x' :: xs).flatMap write ++ ending)).length := by
        simp only [List.length_append]
        omega
      rw [if_neg hgoes, if_pos hshorter,
        ih (List.cons_ne_nil _ _) (fun y hy => hwrite y (List.mem_cons_of_mem _ hy))
          fun y hy => hread y (List.mem_cons_of_mem _ hy)]
      rfl

end ContentClient.Text
