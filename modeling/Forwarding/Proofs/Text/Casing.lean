import Forwarding.Proofs.Text.SnakeCase

/-!
# Ways to write a name of several words

A name of several words is written in camel case, with or without a capital at its beginning, or
with underscores, in small letters or in capitals.  Snake case finds the same words in all of them.

* `cutAt_cuts`: a text whose cuts are at the starts of its words comes apart into these words;
* `cutsFrom_titled`: the cuts of words with a capital each, except perhaps the first one, are at
  their starts;
* `snakeCase_spell`: the snake case of a name of several words, whichever way it is written.
-/

namespace Forwarding.Text

/-! ### Cutting a text at the starts of its words -/

/-- The places at which words start that are written one after the other. -/
def wordStarts (offset : Nat) : List (List Char) → List Nat
  | [] => []
  | word :: rest => offset :: wordStarts (offset + word.length) rest

theorem le_of_mem_wordStarts {offset place : Nat} {words : List (List Char)}
    (h : place ∈ wordStarts offset words) : offset ≤ place := by
  induction words generalizing offset with
  | nil => cases h
  | cons word rest ih =>
    rcases List.mem_cons.1 h with rfl | h
    · exact Nat.le_refl _
    · have := ih h
      omega

section Cutting

variable {places : List Nat} {offset : Nat} {c : Char} {text word : List Char}
  {words : List (List Char)}

theorem cutBefore_cons_of_not_mem (hplace : offset ∉ places)
    (h : cutBefore places (offset + c.utf8Size) text = word :: words) :
    cutBefore places offset (c :: text) = (c :: word) :: words := by
  simp [cutBefore, h, hplace]

theorem cutBefore_cons_of_mem (hplace : offset ∈ places)
    (h : cutBefore places (offset + c.utf8Size) text = word :: words) :
    cutBefore places offset (c :: text) = [] :: (c :: word) :: words := by
  simp [cutBefore, h, hplace]

/-- Before the first place nothing is cut. -/
theorem cutBefore_append {first : List Char} (hascii : ∀ c ∈ first, c.toNat < 128)
    (hplaces : ∀ place ∈ places, offset ≤ place → offset + first.length ≤ place)
    (h : cutBefore places (offset + first.length) text = word :: words) :
    cutBefore places offset (first ++ text) = (first ++ word) :: words := by
  induction first generalizing offset with
  | nil => exact h
  | cons c first ih =>
    obtain ⟨hc, hfirst⟩ := List.forall_mem_cons.1 hascii
    rw [List.length_cons] at hplaces h
    refine cutBefore_cons_of_not_mem (fun hmem => ?_) ?_
    · have := hplaces offset hmem (Nat.le_refl _)
      omega
    · rw [utf8Size_ascii hc]
      refine ih hfirst (fun place hplace hle => ?_) ?_
      · have := hplaces place hplace (by omega)
        omega
      · rwa [Nat.add_right_comm, Nat.add_assoc offset]

/-- Words come apart at their starts.  The first of them starts with a cut, before which nothing is
left. -/
theorem cutBefore_flatten (hascii : ∀ c ∈ words.flatten, c.toNat < 128)
    (hne : ∀ word ∈ words, word ≠ [])
    (hplaces : ∀ place, offset ≤ place → (place ∈ places ↔ place ∈ wordStarts offset words)) :
    cutBefore places offset words.flatten = [] :: words := by
  induction words generalizing offset with
  | nil => rfl
  | cons word rest ih =>
    obtain ⟨hword, hrest⟩ := List.forall_mem_cons.1 hne
    obtain ⟨c, tail, rfl⟩ := List.exists_cons_of_ne_nil hword
    rw [List.flatten_cons, List.forall_mem_append, List.forall_mem_cons] at hascii
    obtain ⟨⟨hc, htail⟩, hasciiRest⟩ := hascii
    have hlater {place : Nat} (hle : offset + 1 ≤ place) :
        place ∈ places ↔ place ∈ wordStarts (offset + (tail.length + 1)) rest := by
      rw [hplaces place (by omega), wordStarts, List.mem_cons]
      exact or_iff_right (by omega)
    have hstart : offset ∈ places := (hplaces offset (Nat.le_refl _)).2 List.mem_cons_self
    have htext : cutBefore places (offset + 1) (tail ++ rest.flatten) = (tail ++ []) :: rest := by
      refine cutBefore_append htail (fun place hplace hle => ?_)
        (ih hasciiRest hrest fun place hle => ?_)
      · have := le_of_mem_wordStarts ((hlater hle).1 hplace)
        omega
      · rw [hlater (by omega), Nat.add_assoc, Nat.add_comm 1]
    rw [List.append_nil] at htext
    exact cutBefore_cons_of_mem hstart (by rwa [utf8Size_ascii hc])

/-- A text whose cuts are at the starts of its words comes apart into these words. -/
theorem cutAt_cuts {first : List Char} {rest : List (List Char)}
    (hascii : ∀ c ∈ first ++ rest.flatten, c.toNat < 128) (hne : ∀ word ∈ rest, word ≠ [])
    (hcuts : cuts (first ++ rest.flatten) = wordStarts first.length rest) :
    cutAt (cuts (first ++ rest.flatten)) (first ++ rest.flatten) = some (first :: rest) := by
  obtain ⟨hfirst, hrest⟩ := List.forall_mem_append.1 hascii
  have hbefore : cutBefore (wordStarts first.length rest) 0 (first ++ rest.flatten) =
      (first ++ []) :: rest := by
    refine cutBefore_append hfirst (fun place hplace _ => ?_)
      (cutBefore_flatten hrest hne fun place _ => ?_)
    · rw [Nat.zero_add]
      exact le_of_mem_wordStarts hplace
    · rw [Nat.zero_add]
  obtain ⟨words, hwords⟩ := exists_cutAt_ascii hascii
  rw [hwords, eq_cutBefore_of_cutAt hwords, hcuts, hbefore, List.append_nil]

end Cutting

/-! ### Cuts between neighbours -/

/-- Whether a word ends between two neighbours that are followed by a text. -/
def splitsBefore (c d : Char) : List Char → Bool
  | [] => splitsBetween c d
  | e :: _ => splitsWithin c d e

/-- The cuts of a text that starts at a place, all of them counted in characters. -/
def cutsFrom (index : Nat) (text : List Char) : List Nat :=
  innerCuts index text ++ if splitsLast text then [index + text.length - 1] else []

theorem cuts_ascii {text : List Char} (h : ∀ c ∈ text, c.toNat < 128) :
    cuts text = cutsFrom 0 text := by
  rw [cuts, cutsFrom, byteLength_ascii h, Nat.zero_add]

theorem splitsLast_cons (c d e : Char) (rest : List Char) :
    splitsLast (c :: d :: e :: rest) = splitsLast (d :: e :: rest) := by
  have hlong : 2 ≤ (d :: e :: rest).reverse.length := by simp
  unfold splitsLast
  rw [List.reverse_cons]
  match (d :: e :: rest).reverse, hlong with
  | x :: y :: others, _ => rfl

/-- The rules for three neighbours and for the last two come to one rule for each pair. -/
theorem cutsFrom_cons_cons (index : Nat) (c d : Char) (rest : List Char) :
    cutsFrom index (c :: d :: rest) =
      (if splitsBefore c d rest then [index + 1] else []) ++ cutsFrom (index + 1) (d :: rest) := by
  cases rest with
  | nil =>
    cases hsplit : splitsBetween c d <;>
      simp [cutsFrom, innerCuts, splitsLast, splitsBefore, hsplit]
  | cons e rest =>
    have hlast : index + (c :: d :: e :: rest).length - 1 =
        index + 1 + (d :: e :: rest).length - 1 := by
      simp only [List.length_cons]
      omega
    rw [cutsFrom, innerCuts, splitsLast_cons, hlast, splitsBefore, cutsFrom]
    split_ifs <;> simp

/-! ### Letters -/

section Letters

variable {c d e : Char} {rest tail text : List Char}

theorem toNat_lt_of_isAlpha (h : c.isAlpha = true) : c.toNat < 128 :=
  toNat_lt_of_isWordChar (by simp [isWordChar, Char.isAlphanum, h])

theorem isAlpha_iff : c.isAlpha = true ↔ c.isUpper = true ∨ c.isLower = true :=
  Bool.or_eq_true_iff

theorem isAlpha_of_isLower (h : c.isLower = true) : c.isAlpha = true := isAlpha_iff.2 (.inr h)

theorem isAlpha_of_isUpper (h : c.isUpper = true) : c.isAlpha = true := isAlpha_iff.2 (.inl h)

/-- A decidable property of the letters is settled by trying them. -/
theorem alpha_forall {p : Char → Prop}
    (h : ∀ n < 128, (Char.ofNat n).isAlpha = true → p (Char.ofNat n)) (hc : c.isAlpha = true) :
    p c :=
  ascii_forall (p := fun c => c.isAlpha = true → p c) h (toNat_lt_of_isAlpha hc) hc

/-- A decidable property of the small letters is settled by trying them. -/
theorem lower_forall {p : Char → Prop}
    (h : ∀ n < 128, (Char.ofNat n).isLower = true → p (Char.ofNat n)) (hc : c.isLower = true) :
    p c :=
  ascii_forall (p := fun c => c.isLower = true → p c) h
    (toNat_lt_of_isAlpha (isAlpha_of_isLower hc)) hc

/-- No letter is both small and a capital. -/
theorem isUpper_of_isLower (h : c.isLower = true) : c.isUpper = false :=
  lower_forall (p := fun c => c.isUpper = false) (by decide) h

theorem isDigit_of_isAlpha (h : c.isAlpha = true) : c.isDigit = false :=
  alpha_forall (p := fun c => c.isDigit = false) (by decide) h

theorem isWordSeparator_of_isAlpha (h : c.isAlpha = true) : isWordSeparator c = false :=
  alpha_forall (p := fun c => isWordSeparator c = false) (by decide) h

theorem toLower_of_isLower (h : c.isLower = true) : c.toLower = c :=
  lower_forall (p := fun c => c.toLower = c) (by decide) h

theorem isUpper_toUpper (h : c.isLower = true) : c.toUpper.isUpper = true :=
  lower_forall (p := fun c => c.toUpper.isUpper = true) (by decide) h

theorem toLower_toUpper (h : c.isLower = true) : c.toUpper.toLower = c :=
  lower_forall (p := fun c => c.toUpper.toLower = c) (by decide) h

/-- Between letters a word ends where a capital follows a small letter. -/
theorem splitsBetween_letters (hc : c.isAlpha = true) (hd : d.isAlpha = true) :
    splitsBetween c d = (c.isLower && d.isUpper) := by
  rw [splitsBetween, isDigit_of_isAlpha hc, isDigit_of_isAlpha hd, isLowercase, isUppercase,
    ofRule_ascii (toNat_lt_of_isAlpha hc), ofRule_ascii (toNat_lt_of_isAlpha hd)]
  simp

/-- No word ends before a small letter. -/
theorem splitsBefore_small (hc : c.isAlpha = true) (hd : d.isLower = true) :
    splitsBefore c d rest = false := by
  have hdAlpha := isAlpha_of_isLower hd
  have hpair : splitsBetween c d = false := by
    rw [splitsBetween_letters hc hdAlpha, isUpper_of_isLower hd, Bool.and_false]
  cases rest with
  | nil => exact hpair
  | cons e rest =>
    rw [splitsBefore, splitsWithin, hpair, isUppercase, ofRule_ascii (toNat_lt_of_isAlpha hdAlpha),
      isUpper_of_isLower hd]
    simp

/-- No word ends between capitals that only capitals follow. -/
theorem splitsBefore_capitals (hc : c.isUpper = true) (hd : d.isUpper = true)
    (hrest : ∀ e ∈ rest, e.isUpper = true) : splitsBefore c d rest = false := by
  have hnot {c : Char} (hc : c.isUpper = true) : c.isLower = false := by
    cases hlower : c.isLower with
    | false => rfl
    | true => rw [isUpper_of_isLower hlower] at hc; cases hc
  have hpair : splitsBetween c d = false := by
    rw [splitsBetween_letters (isAlpha_of_isUpper hc) (isAlpha_of_isUpper hd), hnot hc,
      Bool.false_and]
  cases rest with
  | nil => exact hpair
  | cons e rest =>
    have he := hrest e List.mem_cons_self
    rw [splitsBefore, splitsWithin, hpair, isLowercase,
      ofRule_ascii (toNat_lt_of_isAlpha (isAlpha_of_isUpper he)), hnot he]
    simp

/-- A word ends before a capital that a small letter follows. -/
theorem splitsBefore_title (hc : c.isAlpha = true) (hd : d.isUpper = true) (he : e.isLower = true) :
    splitsBefore c d (e :: rest) = true := by
  have hdAlpha := isAlpha_of_isUpper hd
  rw [splitsBefore, splitsWithin, splitsBetween_letters hc hdAlpha, isUppercase, isLowercase,
    ofRule_ascii (toNat_lt_of_isAlpha hc), ofRule_ascii (toNat_lt_of_isAlpha hdAlpha),
    ofRule_ascii (toNat_lt_of_isAlpha (isAlpha_of_isLower he)), hd, he]
  simpa using isAlpha_iff.1 hc

/-- Nothing is cut in the small letters after a letter. -/
theorem exists_cutsFrom_small (index : Nat) (hc : c.isAlpha = true)
    (htail : ∀ d ∈ tail, d.isLower = true) (text : List Char) :
    ∃ last : Char, last.isAlpha = true ∧
      cutsFrom index (c :: (tail ++ text)) = cutsFrom (index + tail.length) (last :: text) := by
  induction tail generalizing c index with
  | nil => exact ⟨c, hc, rfl⟩
  | cons d tail ih =>
    obtain ⟨hd, htail⟩ := List.forall_mem_cons.1 htail
    obtain ⟨last, hlast, hcuts⟩ := ih (index + 1) (isAlpha_of_isLower hd) htail
    refine ⟨last, hlast, ?_⟩
    rw [List.cons_append, cutsFrom_cons_cons, splitsBefore_small hc hd, hcuts, List.length_cons,
      Nat.add_assoc, Nat.add_comm 1]
    rfl

/-- Nothing is cut in a word of capitals. -/
theorem cutsFrom_capitals (index : Nat) (htext : ∀ c ∈ text, c.isUpper = true) :
    cutsFrom index text = [] := by
  induction text generalizing index with
  | nil => rfl
  | cons c text ih =>
    obtain ⟨hc, htext⟩ := List.forall_mem_cons.1 htext
    cases text with
    | nil => rfl
    | cons d rest =>
      obtain ⟨hd, hrest⟩ := List.forall_mem_cons.1 htext
      rw [cutsFrom_cons_cons, splitsBefore_capitals hc hd hrest, ih (index + 1) htext]
      rfl

end Letters

/-! ### The words of a name -/

/-- A letter and small letters after it. -/
def IsBeginning (word : List Char) : Prop :=
  ∃ c tail, word = c :: tail ∧ c.isAlpha = true ∧ ∀ d ∈ tail, d.isLower = true

/-- A capital and small letters after it, at least one. -/
def IsTitled (word : List Char) : Prop :=
  ∃ c d tail, word = c :: d :: tail ∧ c.isUpper = true ∧ ∀ e ∈ d :: tail, e.isLower = true

theorem IsTitled.isBeginning {word : List Char} (h : IsTitled word) : IsBeginning word := by
  obtain ⟨c, d, tail, rfl, hc, htail⟩ := h
  exact ⟨c, d :: tail, rfl, isAlpha_of_isUpper hc, htail⟩

theorem IsBeginning.isAlpha {word : List Char} (h : IsBeginning word) :
    ∀ c ∈ word, c.isAlpha = true := by
  obtain ⟨c, tail, rfl, hc, htail⟩ := h
  exact List.forall_mem_cons.2 ⟨hc, fun d hd => isAlpha_of_isLower (htail d hd)⟩

theorem IsBeginning.ne_nil {word : List Char} (h : IsBeginning word) : word ≠ [] := by
  obtain ⟨c, tail, rfl, -, -⟩ := h
  exact List.cons_ne_nil c tail

/-- Titled words are cut at their starts, whatever word stands before them. -/
theorem cutsFrom_titled (index : Nat) {first : List Char} {rest : List (List Char)}
    (hfirst : IsBeginning first) (hrest : ∀ word ∈ rest, IsTitled word) :
    cutsFrom index (first ++ rest.flatten) = wordStarts (index + first.length) rest := by
  induction rest generalizing index first with
  | nil =>
    obtain ⟨c, tail, rfl, hc, htail⟩ := hfirst
    obtain ⟨last, -, hcuts⟩ := exists_cutsFrom_small index hc htail []
    exact hcuts
  | cons next rest ih =>
    obtain ⟨hnext, hrest⟩ := List.forall_mem_cons.1 hrest
    obtain ⟨c, tail, rfl, hc, htail⟩ := hfirst
    obtain ⟨last, hlast, hcuts⟩ := exists_cutsFrom_small index hc htail (next :: rest).flatten
    have hlater := ih (index + tail.length + 1) hnext.isBeginning hrest
    obtain ⟨d, e, others, rfl, hd, hothers⟩ := hnext
    rw [List.cons_append, hcuts, List.flatten_cons, List.cons_append, List.cons_append,
      cutsFrom_cons_cons, splitsBefore_title hlast hd (hothers e List.mem_cons_self)]
    exact congrArg (_ :: ·) hlater

theorem snakeWords_of_pieces {name : List Char} {parts : List (List (List Char))}
    (h : List.Forall₂ (fun piece words => cutAt (cuts piece) piece = some words)
      (pieces isWordSeparator name) parts) (hne : ∀ word ∈ parts.flatten, word ≠ []) :
    snakeWords name = some (parts.flatten.map lower) := by
  have hkept : parts.flatten.filter (· ≠ []) = parts.flatten :=
    List.filter_eq_self.2 fun word hword => by simpa using hne word hword
  rw [snakeWords, mapM_eq_some_iff.2 h, ← hkept]
  simp

/-- Titled words after another one are found again. -/
theorem snakeWords_titled {first : List Char} {rest : List (List Char)}
    (hfirst : IsBeginning first) (hrest : ∀ word ∈ rest, IsTitled word) :
    snakeWords (first ++ rest.flatten) = some ((first :: rest).map lower) := by
  have hwords : ∀ word ∈ first :: rest, IsBeginning word :=
    List.forall_mem_cons.2 ⟨hfirst, fun word hword => (hrest word hword).isBeginning⟩
  have halpha : ∀ c ∈ first ++ rest.flatten, c.isAlpha = true := by
    rw [← List.flatten_cons]
    intro c hc
    obtain ⟨word, hword, hc⟩ := List.mem_flatten.1 hc
    exact (hwords word hword).isAlpha c hc
  have hascii : ∀ c ∈ first ++ rest.flatten, c.toNat < 128 := fun c hc =>
    toNat_lt_of_isAlpha (halpha c hc)
  have hcuts : cuts (first ++ rest.flatten) = wordStarts first.length rest := by
    rw [cuts_ascii hascii, cutsFrom_titled 0 hfirst hrest, Nat.zero_add]
  have hpieces : pieces isWordSeparator (first ++ rest.flatten) = [first ++ rest.flatten] :=
    pieces_of_not_mem fun c hc => isWordSeparator_of_isAlpha (halpha c hc)
  have hcut := cutAt_cuts hascii (fun word hword => (hrest word hword).isBeginning.ne_nil) hcuts
  have hne : ∀ word ∈ [first :: rest].flatten, word ≠ [] := by
    simpa using fun word hword => (hwords word hword).ne_nil
  rw [snakeWords_of_pieces (hpieces ▸ .cons hcut .nil) hne, List.flatten_singleton]

/-- Letters between which no word ends, at least one. -/
structure IsUncut (word : List Char) : Prop where
  ne_nil : word ≠ []
  isAlpha : ∀ c ∈ word, c.isAlpha = true
  cutsFrom_eq_nil : cutsFrom 0 word = []

theorem IsBeginning.isUncut {word : List Char} (h : IsBeginning word) : IsUncut word where
  ne_nil := h.ne_nil
  isAlpha := h.isAlpha
  cutsFrom_eq_nil := by
    simpa [wordStarts] using cutsFrom_titled 0 h (List.forall_mem_nil _)

theorem IsUncut.cutAt_eq {word : List Char} (h : IsUncut word) :
    cutAt (cuts word) word = some [word] := by
  have hascii : ∀ c ∈ word ++ [].flatten, c.toNat < 128 := by
    simpa using fun c hc => toNat_lt_of_isAlpha (h.isAlpha c hc)
  have hnone : cuts (word ++ [].flatten) = wordStarts word.length [] := by
    rw [cuts_ascii hascii, List.flatten_nil, List.append_nil, h.cutsFrom_eq_nil]
    rfl
  simpa using cutAt_cuts hascii (List.forall_mem_nil _) hnone

/-- Words of letters that are joined by underscores are the pieces of the whole. -/
theorem pieces_joined {words : List (List Char)} (hne : words ≠ [])
    (hwords : ∀ word ∈ words, IsUncut word) :
    pieces isWordSeparator (['_'].intercalate words) = words := by
  induction words with
  | nil => exact absurd rfl hne
  | cons word rest ih =>
    obtain ⟨hword, hrest⟩ := List.forall_mem_cons.1 hwords
    have hpieces : pieces isWordSeparator word = [word] :=
      pieces_of_not_mem fun c hc => isWordSeparator_of_isAlpha (hword.isAlpha c hc)
    cases rest with
    | nil => rw [List.intercalate_singleton, hpieces]
    | cons next rest =>
      rw [List.intercalate_cons_cons, List.append_assoc, List.singleton_append,
        pieces_append (by decide), hpieces, ih (List.cons_ne_nil _ _) hrest]
      rfl

/-- Words that are joined by underscores are found again if no word ends inside one of them. -/
theorem snakeWords_joined {words : List (List Char)} (hne : words ≠ [])
    (hwords : ∀ word ∈ words, IsUncut word) :
    snakeWords (['_'].intercalate words) = some (words.map lower) := by
  have hparts : List.Forall₂ (fun piece parts => cutAt (cuts piece) piece = some parts)
      (pieces isWordSeparator (['_'].intercalate words)) (words.map ([·])) := by
    rw [pieces_joined hne hwords, List.forall₂_map_right_iff, List.forall₂_same]
    exact fun word hword => (hwords word hword).cutAt_eq
  have hflatten : (words.map ([·])).flatten = words := by simp [← List.flatMap_def]
  have hfound := snakeWords_of_pieces hparts fun word hword =>
    (hwords word (hflatten ▸ hword)).ne_nil
  rwa [hflatten] at hfound

/-! ### Ways to write a name -/

/-- A way to write a name of several words. -/
inductive Casing where
  | camel
  | pascal
  | snake
  | screamingSnake
  deriving DecidableEq, Repr

/-- A word with a capital at its beginning. -/
def capitalized : List Char → List Char
  | [] => []
  | c :: rest => c.toUpper :: rest

namespace Casing

/-- The name of some words, which are given in small letters. -/
def letters : Casing → List (List Char) → List Char
  | .camel, [] => []
  | .camel, first :: rest => first ++ (rest.map capitalized).flatten
  | .pascal, words => (words.map capitalized).flatten
  | .snake, words => ['_'].intercalate words
  | .screamingSnake, words => ['_'].intercalate (words.map (List.map Char.toUpper))

/-- The name of some words, as a string. -/
def spell (casing : Casing) (words : List String) : String :=
  String.ofList (casing.letters (words.map String.toList))

end Casing

section SmallLetters

variable {word : List Char}

theorem lower_letters (h : ∀ c ∈ word, c.isAlpha = true) : lower word = word.map Char.toLower :=
  lower_ascii fun c hc => toNat_lt_of_isAlpha (h c hc)

variable (h : ∀ c ∈ word, c.isLower = true)

include h

theorem isBeginning_of_isLower (hne : word ≠ []) : IsBeginning word := by
  obtain ⟨c, tail, rfl⟩ := List.exists_cons_of_ne_nil hne
  obtain ⟨hc, htail⟩ := List.forall_mem_cons.1 h
  exact ⟨c, tail, rfl, isAlpha_of_isLower hc, htail⟩

theorem isBeginning_capitalized (hne : word ≠ []) : IsBeginning (capitalized word) := by
  obtain ⟨c, tail, rfl⟩ := List.exists_cons_of_ne_nil hne
  obtain ⟨hc, htail⟩ := List.forall_mem_cons.1 h
  exact ⟨c.toUpper, tail, rfl, isAlpha_of_isUpper (isUpper_toUpper hc), htail⟩

theorem isTitled_capitalized (hlong : 2 ≤ word.length) : IsTitled (capitalized word) := by
  match word, hlong with
  | c :: d :: tail, _ =>
    obtain ⟨hc, htail⟩ := List.forall_mem_cons.1 h
    exact ⟨c.toUpper, d, tail, rfl, isUpper_toUpper hc, htail⟩

theorem isUpper_of_mem_capitals : ∀ c ∈ word.map Char.toUpper, c.isUpper = true :=
  List.forall_mem_map.2 fun c hc => isUpper_toUpper (h c hc)

theorem isUncut_capitals (hne : word ≠ []) : IsUncut (word.map Char.toUpper) where
  ne_nil := by simpa using hne
  isAlpha := fun c hc => isAlpha_of_isUpper (isUpper_of_mem_capitals h c hc)
  cutsFrom_eq_nil := cutsFrom_capitals 0 (isUpper_of_mem_capitals h)

theorem lower_of_isLower : lower word = word := by
  rw [lower_letters fun c hc => isAlpha_of_isLower (h c hc)]
  exact map_eq_self fun c hc => toLower_of_isLower (h c hc)

theorem lower_capitalized : lower (capitalized word) = word := by
  cases word with
  | nil => rfl
  | cons c tail =>
    have halpha := (isBeginning_capitalized h (List.cons_ne_nil c tail)).isAlpha
    obtain ⟨hc, htail⟩ := List.forall_mem_cons.1 h
    rw [lower_letters halpha, capitalized, List.map_cons, toLower_toUpper hc,
      map_eq_self fun d hd => toLower_of_isLower (htail d hd)]

theorem lower_capitals : lower (word.map Char.toUpper) = word := by
  rw [lower_letters fun c hc => isAlpha_of_isUpper (isUpper_of_mem_capitals h c hc), List.map_map]
  exact map_eq_self fun c hc => toLower_toUpper (h c hc)

end SmallLetters

/-- The words of a name are found again, whichever way it is written. -/
theorem snakeWords_letters (casing : Casing) {first : List Char} {rest : List (List Char)}
    (hfirst : first ≠ []) (hlower : ∀ word ∈ first :: rest, ∀ c ∈ word, c.isLower = true)
    (hlong : ∀ word ∈ rest, 2 ≤ word.length) :
    snakeWords (casing.letters (first :: rest)) = some (first :: rest) := by
  have hne : ∀ word ∈ first :: rest, word ≠ [] := by
    refine List.forall_mem_cons.2 ⟨hfirst, fun word hword => ?_⟩
    exact List.ne_nil_of_length_pos (Nat.lt_of_lt_of_le Nat.zero_lt_two (hlong word hword))
  obtain ⟨hfirstLower, hrestLower⟩ := List.forall_mem_cons.1 hlower
  have htitled : ∀ word ∈ rest.map capitalized, IsTitled word :=
    List.forall_mem_map.2 fun word hword =>
      isTitled_capitalized (hrestLower word hword) (hlong word hword)
  have hrest : (rest.map capitalized).map lower = rest := by
    rw [List.map_map]
    exact map_eq_self fun word hword => lower_capitalized (hrestLower word hword)
  cases casing with
  | camel =>
    rw [Casing.letters, snakeWords_titled (isBeginning_of_isLower hfirstLower hfirst) htitled,
      List.map_cons, hrest, lower_of_isLower hfirstLower]
  | pascal =>
    rw [Casing.letters, List.map_cons, List.flatten_cons,
      snakeWords_titled (isBeginning_capitalized hfirstLower hfirst) htitled, List.map_cons, hrest,
      lower_capitalized hfirstLower]
  | snake =>
    have huncut : ∀ word ∈ first :: rest, IsUncut word := fun word hword =>
      (isBeginning_of_isLower (hlower word hword) (hne word hword)).isUncut
    rw [Casing.letters, snakeWords_joined (List.cons_ne_nil first rest) huncut,
      map_eq_self fun word hword => lower_of_isLower (hlower word hword)]
  | screamingSnake =>
    have huncut : ∀ word ∈ (first :: rest).map (List.map Char.toUpper), IsUncut word :=
      List.forall_mem_map.2 fun word hword =>
        isUncut_capitals (hlower word hword) (hne word hword)
    rw [Casing.letters, snakeWords_joined (by simp) huncut, List.map_map]
    exact congrArg some (map_eq_self fun word hword => lower_capitals (hlower word hword))

/-- Words of small letters of ASCII, at least one, each but the first with two letters or more. -/
structure IsWordList (words : List String) : Prop where
  ne_nil : words ≠ []
  ne_empty : ∀ word ∈ words, word ≠ ""
  isLower : ∀ word ∈ words, ∀ c ∈ word.toList, c.isLower = true
  long : ∀ word ∈ words.tail, 2 ≤ word.length

/-- In snake case a name of several words is these joined by underscores, whichever way it was
written. -/
theorem snakeCase_spell (casing : Casing) {words : List String} (h : IsWordList words) :
    snakeCase (casing.spell words) = some ("_".intercalate words) := by
  obtain ⟨first, rest, rfl⟩ := List.exists_cons_of_ne_nil h.ne_nil
  have hfirst : first.toList ≠ [] := mt String.toList_eq_nil_iff.1 (h.ne_empty first (by simp))
  have hlower : ∀ word ∈ (first :: rest).map String.toList, ∀ c ∈ word, c.isLower = true :=
    List.forall_mem_map.2 h.isLower
  have hlong : ∀ word ∈ rest.map String.toList, 2 ≤ word.length :=
    List.forall_mem_map.2 fun word hword => String.length_toList ▸ h.long word hword
  have hjoined : ("_".intercalate (first :: rest)).toList =
      ['_'].intercalate ((first :: rest).map String.toList) := String.toList_intercalate
  rw [snakeCase, Casing.spell, String.toList_ofList, List.map_cons,
    snakeWords_letters casing hfirst hlower hlong, ← List.map_cons, Option.map_some, ← hjoined,
    String.ofList_toList]

end Forwarding.Text
