import Forwarding.Text.Pieces
import Mathlib.Data.List.Basic

/-!
# Cutting texts apart and joining them

What `Text.beforeSuffix` and `Text.splitLast` give is said by how the text is put together:

* `beforeSuffix_eq_some_iff`: a text with an ending is the rest followed by that ending;
* `splitLast_eq_some_iff`: the cut is at an occurrence of the separator after which there is none;
* `splitLast_eq_none_iff`: there is no cut exactly when the separator does not occur;
* `exists_mem_pieces`, `separator_not_mem_pieces`: the pieces hold all characters but separators,
  and no separators;
* `pieces_eq_splitOnP`: the pieces as the library splits a list;
* `pieces_append`: at a separator the pieces fall into those before and those after it;
* `intercalate_stringPieces`: the pieces joined by the separator are the text;
* `mem_intercalate`: what is joined holds the characters of its parts and of the separator;
* `append_mark_inj`: a text is cut in one way at the first occurrence of a mark;
* `intercalate_inj`: what was joined can be told from the whole if no part has the mark that it is
  joined by.
-/

namespace Forwarding.Text

theorem beforeSuffix_eq_some_iff {suffix text start : List Char} :
    beforeSuffix suffix text = some start ↔ text = start ++ suffix := by
  unfold beforeSuffix
  constructor
  · intro h
    split at h
    · rename_i hsuffix
      obtain ⟨rest, rfl⟩ := List.isSuffixOf_iff_suffix.1 hsuffix
      simp only [List.length_append, Nat.add_sub_cancel, List.take_left, Option.some.injEq] at h
      rw [h]
    · cases h
  · rintro rfl
    have hsuffix : suffix.isSuffixOf (start ++ suffix) = true :=
      List.isSuffixOf_iff_suffix.2 (List.suffix_append start suffix)
    simp [hsuffix]

theorem splitLast_eq_none_iff {separator : Char} {text : List Char} :
    splitLast separator text = none ↔ separator ∉ text := by
  induction text with
  | nil => simp [splitLast]
  | cons c rest ih =>
    rw [splitLast]
    cases hrest : splitLast separator rest with
    | some cut =>
      -- the rest is cut already, so the separator occurs in it
      have hmem : separator ∈ rest := by
        by_contra hnot
        rw [ih.2 hnot] at hrest
        cases hrest
      simp [hmem]
    | none =>
      have hnot := ih.1 hrest
      by_cases hc : c = separator
      · simp [hc]
      · simp [hc, hnot, Ne.symm hc]

theorem splitLast_append {separator : Char} (before : List Char) {after : List Char}
    (h : separator ∉ after) :
    splitLast separator (before ++ separator :: after) = some (before, after) := by
  induction before with
  | nil => simp [splitLast, splitLast_eq_none_iff.2 h]
  | cons c before ih => rw [List.cons_append, splitLast, ih]

theorem splitLast_eq_some_iff {separator : Char} {text before after : List Char} :
    splitLast separator text = some (before, after) ↔
      text = before ++ separator :: after ∧ separator ∉ after := by
  constructor
  · intro h
    induction text generalizing before with
    | nil => cases h
    | cons c rest ih =>
      rw [splitLast] at h
      cases hrest : splitLast separator rest with
      | some cut =>
        obtain ⟨start, stop⟩ := cut
        rw [hrest] at h
        obtain ⟨rfl, rfl⟩ : c :: start = before ∧ stop = after := by simpa using h
        obtain ⟨rfl, hafter⟩ := ih hrest
        exact ⟨rfl, hafter⟩
      | none =>
        rw [hrest] at h
        simp only at h
        split_ifs at h with hc
        obtain ⟨rfl, rfl⟩ : [] = before ∧ rest = after := by simpa using h
        exact ⟨by rw [hc]; rfl, splitLast_eq_none_iff.1 hrest⟩
  · rintro ⟨rfl, h⟩
    exact splitLast_append before h

/-- A character of a text separates its pieces or is in one of them. -/
theorem exists_mem_pieces {isSeparator : Char → Bool} {text : List Char} {c : Char}
    (h : c ∈ text) : isSeparator c = true ∨ ∃ piece ∈ pieces isSeparator text, c ∈ piece := by
  induction text with
  | nil => cases h
  | cons d rest ih =>
    rw [pieces]
    split
    · rename_i hd
      rcases List.mem_cons.1 h with rfl | h
      · exact Or.inl hd
      · refine (ih h).imp_right ?_
        rintro ⟨piece, hpiece, hc⟩
        exact ⟨piece, List.mem_cons_of_mem _ hpiece, hc⟩
    · split
      · rename_i hnil
        exact absurd hnil (pieces_ne_nil isSeparator rest)
      · rename_i first others hothers
        rw [hothers] at ih
        rcases List.mem_cons.1 h with rfl | h
        · exact Or.inr ⟨c :: first, List.mem_cons_self, List.mem_cons_self⟩
        · rcases ih h with hc | ⟨piece, hpiece, hc⟩
          · exact Or.inl hc
          · rcases List.mem_cons.1 hpiece with rfl | hpiece
            · exact Or.inr ⟨d :: piece, List.mem_cons_self, List.mem_cons_of_mem d hc⟩
            · exact Or.inr ⟨piece, List.mem_cons_of_mem _ hpiece, hc⟩

theorem separator_not_mem_pieces {isSeparator : Char → Bool} {text piece : List Char}
    (hpiece : piece ∈ pieces isSeparator text) : ∀ c ∈ piece, isSeparator c = false := by
  induction text generalizing piece with
  | nil =>
    obtain rfl := List.mem_singleton.1 hpiece
    exact List.forall_mem_nil _
  | cons d rest ih =>
    unfold pieces at hpiece
    split at hpiece
    · rcases List.mem_cons.1 hpiece with rfl | hpiece
      · exact List.forall_mem_nil _
      · exact ih hpiece
    · rename_i hd
      split at hpiece
      · rename_i hnil
        exact absurd hnil (pieces_ne_nil isSeparator rest)
      · rename_i first others hothers
        rcases List.mem_cons.1 hpiece with rfl | hpiece
        · exact List.forall_mem_cons.2
            ⟨Bool.eq_false_iff.2 hd, ih (hothers ▸ List.mem_cons_self)⟩
        · exact ih (hothers ▸ List.mem_cons_of_mem first hpiece)

/-! ### Pieces as a list that is split -/

theorem pieces_eq_splitOnP (isSeparator : Char → Bool) (text : List Char) :
    pieces isSeparator text = text.splitOnP isSeparator := by
  induction text with
  | nil => rfl
  | cons c rest ih =>
    rw [pieces, ih, List.splitOnP_cons_eq_if_modifyHead]
    cases hrest : rest.splitOnP isSeparator with
    | nil => exact absurd hrest (List.splitOnP_ne_nil isSeparator rest)
    | cons piece others => rfl

theorem pieces_append {isSeparator : Char → Bool} {c : Char} (hc : isSeparator c = true)
    (before after : List Char) :
    pieces isSeparator (before ++ c :: after) =
      pieces isSeparator before ++ pieces isSeparator after := by
  simp only [pieces_eq_splitOnP]
  exact List.splitOnP_append_cons before after hc

theorem pieces_of_not_mem {isSeparator : Char → Bool} {text : List Char}
    (h : ∀ c ∈ text, isSeparator c = false) : pieces isSeparator text = [text] :=
  (pieces_eq_splitOnP isSeparator text).trans (List.splitOnP_eq_singleton h)

/-- The pieces joined by the separator are the text. -/
theorem intercalate_pieces (separator : Char) (text : List Char) :
    [separator].intercalate (pieces (· == separator) text) = text := by
  rw [pieces_eq_splitOnP, ← List.splitOn_eq_splitOnP, List.intercalate_splitOn]

theorem intercalate_stringPieces (separator : Char) (text : String) :
    (String.singleton separator).intercalate (stringPieces separator text) = text := by
  have hpieces : (stringPieces separator text).map String.toList =
      pieces (· == separator) text.toList := by
    have hsame : String.toList ∘ String.ofList = id := funext fun _ => String.toList_ofList
    rw [stringPieces, List.map_map, hsame, List.map_id]
  rw [← String.toList_inj, String.toList_intercalate, hpieces, String.toList_singleton,
    intercalate_pieces]

/-! ### What was joined -/

section Joined

variable {α : Type}

theorem mem_intercalate {separator : List α} {parts : List (List α)} {c : α}
    (h : c ∈ separator.intercalate parts) : c ∈ separator ∨ ∃ part ∈ parts, c ∈ part := by
  induction parts with
  | nil => cases h
  | cons part rest ih =>
    cases rest with
    | nil => exact Or.inr ⟨part, List.mem_cons_self, by simpa using h⟩
    | cons next rest =>
      rw [List.intercalate_cons_cons, List.mem_append, List.mem_append] at h
      rcases h with (h | h) | h
      · exact Or.inr ⟨part, List.mem_cons_self, h⟩
      · exact Or.inl h
      · exact (ih h).imp_right fun ⟨other, hother, hc⟩ =>
          ⟨other, List.mem_cons_of_mem part hother, hc⟩

theorem not_mem_intercalate {separator : String} {parts : List String} {c : Char}
    (hseparator : c ∉ separator.toList) (hparts : ∀ part ∈ parts, c ∉ part.toList) :
    c ∉ (separator.intercalate parts).toList := by
  rw [String.toList_intercalate]
  intro h
  rcases mem_intercalate h with hmem | ⟨part, hpart, hmem⟩
  · exact hseparator hmem
  · obtain ⟨text, htext, rfl⟩ := List.mem_map.1 hpart
    exact hparts text htext hmem

variable {mark : α}

theorem append_mark_inj {before other after rest : List α} (hbefore : mark ∉ before)
    (hother : mark ∉ other) :
    before ++ mark :: after = other ++ mark :: rest ↔ before = other ∧ after = rest := by
  refine ⟨fun h => ?_, fun ⟨hsame, hrest⟩ => by rw [hsame, hrest]⟩
  induction before generalizing other with
  | nil =>
    cases other with
    | nil => exact ⟨rfl, (List.cons.inj h).2⟩
    | cons c other => exact absurd (List.cons.inj h).1 (List.ne_of_not_mem_cons hother)
  | cons c before ih =>
    cases other with
    | nil => exact absurd (List.cons.inj h).1.symm (List.ne_of_not_mem_cons hbefore)
    | cons d other =>
      obtain ⟨rfl, htail⟩ := List.cons.inj h
      obtain ⟨rfl, rfl⟩ := ih (List.not_mem_of_not_mem_cons hbefore)
        (List.not_mem_of_not_mem_cons hother) htail
      exact ⟨rfl, rfl⟩

/-- What follows the mark in a separator can be counted to the part after it. -/
theorem intercalate_cons_mark (mark : α) (blank part : List α) (parts : List (List α)) :
    (mark :: blank).intercalate (part :: parts) =
      [mark].intercalate (part :: parts.map (blank ++ ·)) := by
  induction parts generalizing part with
  | nil => simp
  | cons next parts ih =>
    rw [List.map_cons, List.intercalate_cons_cons, List.intercalate_cons_cons, ih next]
    cases parts <;> simp [List.intercalate_cons_cons]

theorem intercalate_inj [DecidableEq α] {blank : List α} (hblank : mark ∉ blank)
    {parts others : List (List α)} (hparts : ∀ part ∈ parts, part ≠ [] ∧ mark ∉ part)
    (hothers : ∀ part ∈ others, part ≠ [] ∧ mark ∉ part)
    (h : (mark :: blank).intercalate parts = (mark :: blank).intercalate others) :
    parts = others := by
  have hne (part : List α) (rest : List (List α)) (hpart : part ≠ []) :
      (mark :: blank).intercalate (part :: rest) ≠ [] := by
    cases rest <;> simp [List.intercalate_cons_cons, hpart]
  have hmark (part : List α) (rest : List (List α)) (hrest : ∀ other ∈ part :: rest, mark ∉ other) :
      ((mark :: blank).intercalate (part :: rest)).splitOn mark =
        part :: rest.map (blank ++ ·) := by
    rw [intercalate_cons_mark]
    refine List.splitOn_intercalate mark ?_ (List.cons_ne_nil _ _)
    simpa [hblank] using hrest
  cases parts with
  | nil =>
    cases others with
    | nil => rfl
    | cons other others => exact absurd h.symm (hne other others (hothers _ List.mem_cons_self).1)
  | cons part parts =>
    cases others with
    | nil => exact absurd h (hne part parts (hparts _ List.mem_cons_self).1)
    | cons other others =>
      -- both are split at the mark
      have hsplit := congrArg (List.splitOn mark) h
      rw [hmark part parts fun p hp => (hparts p hp).2,
        hmark other others fun p hp => (hothers p hp).2] at hsplit
      obtain ⟨rfl, hrest⟩ := List.cons.inj hsplit
      rw [List.map_injective_iff.2 (List.append_right_injective blank) hrest]

end Joined

end Forwarding.Text
