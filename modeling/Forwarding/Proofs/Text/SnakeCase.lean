import Forwarding.Proofs.Pointwise
import Forwarding.Proofs.Text.Ascii
import Forwarding.Proofs.Text.Pieces
import Forwarding.Text.SnakeCase

/-!
# Snake case of names in ASCII

Cutting a name into words moves no character: the words of a piece put together are the piece
(`flatten_of_cutAt`).  So the snake case of a name in ASCII has, apart from the underscores between
words, only characters of the name in lower case (`mem_snakeCase`).  Such a name always comes apart,
and its words put together are the name without its separators (`exists_snakeWords_ascii`).
Whatever the alphabet, no slash comes of a name without one (`slash_not_mem_snakeCase`).
-/

namespace Forwarding.Text

theorem flatten_cutBefore (places : List Nat) (offset : Nat) (text : List Char) :
    (cutBefore places offset text).flatten = text := by
  induction text generalizing offset with
  | nil => rfl
  | cons c rest ih =>
    have hrest := ih (offset + c.utf8Size)
    unfold cutBefore
    cases hwords : cutBefore places (offset + c.utf8Size) rest with
    | nil =>
      rw [hwords] at hrest
      split_ifs <;> simp [← hrest]
    | cons word others =>
      rw [hwords, List.flatten_cons] at hrest
      split_ifs <;> simp [hrest]

theorem eq_cutBefore_of_cutAt {places : List Nat} {text : List Char} {words : List (List Char)}
    (h : cutAt places text = some words) : words = cutBefore places 0 text := by
  unfold cutAt at h
  split_ifs at h
  exact (Option.some.inj h).symm

theorem flatten_of_cutAt {places : List Nat} {text : List Char} {words : List (List Char)}
    (h : cutAt places text = some words) : words.flatten = text := by
  rw [eq_cutBefore_of_cutAt h, flatten_cutBefore]

theorem mem_of_mem_pieces {isSeparator : Char → Bool} {text piece : List Char} {c : Char}
    (hpiece : piece ∈ pieces isSeparator text) (hc : c ∈ piece) : c ∈ text := by
  induction text generalizing piece with
  | nil =>
    obtain rfl := List.mem_singleton.1 hpiece
    exact hc
  | cons d rest ih =>
    unfold pieces at hpiece
    split at hpiece
    · rcases List.mem_cons.1 hpiece with rfl | hpiece
      · cases hc
      · exact List.mem_cons_of_mem d (ih hpiece hc)
    · split at hpiece
      · rename_i hnil
        exact absurd hnil (pieces_ne_nil isSeparator rest)
      · rename_i first others hothers
        rcases List.mem_cons.1 hpiece with rfl | hpiece
        · rcases List.mem_cons.1 hc with rfl | hc
          · exact List.mem_cons_self
          · exact List.mem_cons_of_mem d (ih (hothers ▸ List.mem_cons_self) hc)
        · exact List.mem_cons_of_mem d (ih (hothers ▸ List.mem_cons_of_mem first hpiece) hc)

/-- A word in snake case is the lower case of characters of the name. -/
theorem exists_of_mem_snakeWords {name word : List Char} {words : List (List Char)}
    (h : snakeWords name = some words) (hword : word ∈ words) :
    ∃ source, word = lower source ∧ ∀ c ∈ source, c ∈ name := by
  obtain ⟨cut, hcut, hwords⟩ := Option.bind_eq_some_iff.1 h
  obtain rfl := Option.some.inj hwords
  obtain ⟨source, hsource, rfl⟩ := List.mem_map.1 hword
  refine ⟨source, rfl, fun c hc => ?_⟩
  obtain ⟨parts, hparts, hsource⟩ := List.mem_flatten.1 (List.mem_filter.1 hsource).1
  obtain ⟨piece, hpiece, hpieceCut⟩ := exists_of_mem_right (mapM_eq_some_iff.1 hcut) hparts
  refine mem_of_mem_pieces hpiece ?_
  rw [← flatten_of_cutAt hpieceCut]
  exact List.mem_flatten.2 ⟨source, hsource, hc⟩

/-- The snake case of a name in ASCII consists of characters of the name in lower case and of
underscores. -/
theorem mem_snakeCase {name snake : String} (hname : ∀ c ∈ name.toList, c.toNat < 128)
    (h : snakeCase name = some snake) {c : Char} (hc : c ∈ snake.toList) :
    c = '_' ∨ ∃ d ∈ name.toList, c = d.toLower := by
  obtain ⟨words, hwords, rfl⟩ := Option.map_eq_some_iff.1 h
  rw [String.toList_ofList] at hc
  refine (mem_intercalate hc).imp List.mem_singleton.1 ?_
  rintro ⟨word, hword, hc⟩
  obtain ⟨source, rfl, hsource⟩ := exists_of_mem_snakeWords hwords hword
  rw [lower_ascii fun d hd => hname d (hsource d hd)] at hc
  obtain ⟨d, hd, rfl⟩ := List.mem_map.1 hc
  exact ⟨d, hsource d hd, rfl⟩

/-! ### The words of a name in ASCII -/

theorem utf8Size_ascii {c : Char} (h : c.toNat < 128) : c.utf8Size = 1 := by
  have hle : c.val ≤ 127 := UInt32.le_iff_toNat_le.2 (Nat.le_of_lt_succ h)
  unfold Char.utf8Size
  exact if_pos hle

/-- Characters of ASCII start one after the other. -/
theorem mem_characterStarts_ascii {text : List Char} (h : ∀ c ∈ text, c.toNat < 128)
    {offset place : Nat} :
    place ∈ characterStarts offset text ↔ offset ≤ place ∧ place < offset + text.length := by
  induction text generalizing offset with
  | nil =>
    rw [characterStarts, List.length_nil]
    exact iff_of_false List.not_mem_nil (by omega)
  | cons c rest ih =>
    obtain ⟨hc, hrest⟩ := List.forall_mem_cons.1 h
    rw [characterStarts, List.mem_cons, utf8Size_ascii hc, ih hrest, List.length_cons]
    omega

theorem length_le_byteLength (text : List Char) : text.length ≤ byteLength text := by
  induction text with
  | nil => exact Nat.le_refl 0
  | cons c rest ih =>
    have := c.utf8Size_pos
    simp only [byteLength, List.length_cons]
    omega

theorem byteLength_ascii {text : List Char} (h : ∀ c ∈ text, c.toNat < 128) :
    byteLength text = text.length := by
  induction text with
  | nil => rfl
  | cons c rest ih =>
    obtain ⟨hc, hrest⟩ := List.forall_mem_cons.1 h
    rw [byteLength, utf8Size_ascii hc, ih hrest, List.length_cons, Nat.add_comm]

/-- A cut between two characters is at the second one. -/
theorem lt_of_mem_innerCuts {text : List Char} {index place : Nat}
    (h : place ∈ innerCuts index text) : place < index + text.length := by
  induction text generalizing index with
  | nil => cases h
  | cons c rest ih =>
    rcases rest with _ | ⟨d, _ | ⟨e, others⟩⟩
    · cases h
    · cases h
    · have hlater : place ∈ innerCuts (index + 1) (d :: e :: others) →
          place < index + (c :: d :: e :: others).length := fun hmem => by
        have := ih hmem
        simp only [List.length_cons] at this ⊢
        omega
      rw [innerCuts] at h
      split_ifs at h
      · rcases List.mem_cons.1 h with rfl | h
        · simp only [List.length_cons]
          omega
        · exact hlater h
      · exact hlater h

/-- Every piece of ASCII comes apart, since all its cuts are at characters. -/
theorem exists_cutAt_ascii {piece : List Char} (h : ∀ c ∈ piece, c.toNat < 128) :
    ∃ words, cutAt (cuts piece) piece = some words := by
  refine ⟨_, if_pos (List.all_eq_true.2 fun place hplace => List.contains_iff_mem.2 ?_)⟩
  rw [mem_characterStarts_ascii h, Nat.zero_add]
  refine ⟨Nat.zero_le place, ?_⟩
  rcases List.mem_append.1 hplace with hinner | hlast
  · have := lt_of_mem_innerCuts hinner
    omega
  · split_ifs at hlast with hsplits
    · obtain rfl := List.mem_singleton.1 hlast
      have hne : piece ≠ [] := by
        rintro rfl
        cases hsplits
      have := List.length_pos_of_ne_nil hne
      rw [byteLength_ascii h]
      omega
    · cases hlast

/-- The pieces put together are the text without its separators. -/
theorem flatten_pieces (isSeparator : Char → Bool) (text : List Char) :
    (pieces isSeparator text).flatten = text.filter fun c => !isSeparator c := by
  induction text with
  | nil => rfl
  | cons c rest ih =>
    unfold pieces
    split_ifs with hc
    · rw [List.flatten_cons, ih, List.filter_cons_of_neg (by simp [hc])]
      rfl
    · rw [List.filter_cons_of_pos (by simp [hc]), ← ih]
      cases hpieces : pieces isSeparator rest with
      | nil => exact absurd hpieces (pieces_ne_nil isSeparator rest)
      | cons piece others => rfl

/-- A name in ASCII has words, none of them empty, and together they are the name without the
separators, in lower case. -/
theorem exists_snakeWords_ascii {name : List Char} (h : ∀ c ∈ name, c.toNat < 128) :
    ∃ words, snakeWords name = some words ∧ (∀ word ∈ words, word ≠ []) ∧
      words.flatten = (name.filter fun c => !isWordSeparator c).map Char.toLower := by
  have hpieces : ∀ piece ∈ pieces isWordSeparator name, ∃ words, _ := fun piece hpiece =>
    exists_cutAt_ascii fun c hc => h c (mem_of_mem_pieces hpiece hc)
  obtain ⟨parts, hparts⟩ := exists_forall₂ hpieces
  have hpiecewise : parts.map List.flatten = pieces isWordSeparator name := by
    rw [← List.forall₂_eq_eq_eq, List.forall₂_map_left_iff]
    exact hparts.flip.imp fun _ _ hcut => flatten_of_cutAt hcut
  have hflatten : parts.flatten.flatten = name.filter fun c => !isWordSeparator c := by
    rw [List.flatten_flatten, hpiecewise, flatten_pieces]
  have hwords : snakeWords name = some ((parts.flatten.filter (· ≠ [])).map lower) := by
    rw [snakeWords, mapM_eq_some_iff.2 hparts]
    rfl
  have hascii : ∀ word ∈ parts.flatten, lower word = word.map Char.toLower := by
    refine fun word hword => lower_ascii fun c hc => ?_
    have hmem : c ∈ parts.flatten.flatten := List.mem_flatten.2 ⟨word, hword, hc⟩
    rw [hflatten] at hmem
    exact h c (List.mem_filter.1 hmem).1
  have hlower : (parts.flatten.filter (· ≠ [])).map lower =
      (parts.flatten.filter (· ≠ [])).map (List.map Char.toLower) :=
    List.map_congr_left fun word hword => hascii word (List.mem_filter.1 hword).1
  refine ⟨_, hwords, ?_, ?_⟩
  · rw [hlower]
    refine List.forall_mem_map.2 fun word hword => ?_
    simpa using (List.mem_filter.1 hword).2
  · rw [hlower, ← List.map_flatten, List.flatten_filter_ne_nil, hflatten]

/-- Words that are put together with something between them begin as they do without it. -/
theorem head?_intercalate {α : Type} {separator : List α} {words : List (List α)}
    (h : ∀ word ∈ words, word ≠ []) :
    (separator.intercalate words).head? = words.flatten.head? := by
  cases words with
  | nil => rfl
  | cons word rest =>
    obtain ⟨first, others, rfl⟩ := List.exists_cons_of_ne_nil (h word List.mem_cons_self)
    cases rest with
    | nil => rfl
    | cons next rest => rw [List.intercalate_cons_cons]; rfl

/-- A single character comes of a single word. -/
theorem intercalate_eq_singleton_iff {α : Type} {mark c : α} {words : List (List α)}
    (h : ∀ word ∈ words, word ≠ []) :
    [mark].intercalate words = [c] ↔ words.flatten = [c] := by
  cases words with
  | nil => rfl
  | cons word rest =>
    have hword := List.length_pos_of_ne_nil (h word List.mem_cons_self)
    cases rest with
    | nil => simp
    | cons next rest =>
      have hnext := List.length_pos_of_ne_nil (h next (by simp))
      refine iff_of_false (fun hsame => ?_) fun hsame => ?_
      · have hlength := congrArg List.length hsame
        simp [List.intercalate_cons_cons] at hlength
        omega
      · have hlength := congrArg List.length hsame
        simp at hlength
        omega

/-! ### Slashes -/

/-- No run of the table leads into ASCII below the letters. -/
theorem slash_lt_of_mem_lowerRuns : ∀ run ∈ lowerRuns, (47 : Int) < run.first + run.offset := by
  decide +kernel

/-- A number that is the code point of no character stands for the first one. -/
theorem eq_toNat_of_ofNat {n : Nat} {c : Char} (h : Char.ofNat n = c) (hc : c ≠ Char.ofNat 0) :
    n = c.toNat := by
  by_cases hvalid : n.isValidChar
  · have hsame : (Char.ofNat n).toNat = n := by
      rw [Char.ofNat, dif_pos hvalid]
      rfl
    rw [← h, hsame]
  · have hfirst : Char.ofNat n = Char.ofNat 0 := by
      rw [Char.ofNat, dif_neg hvalid]
      rfl
    exact absurd (h.symm.trans hfirst) hc

theorem slash_mem_lowerChar {c : Char} (h : '/' ∈ lowerChar c) : c = '/' := by
  unfold lowerChar at h
  split_ifs at h with hascii hdotted
  · have hlower : '/' = c.toLower := List.mem_singleton.1 h
    exact ascii_forall (p := fun c => '/' = c.toLower → c = '/') (by decide) hascii hlower
  · exact absurd h (by decide)
  · split at h
    · rename_i run hrun
      exfalso
      have hcovers := List.find?_some hrun
      have hoffset := slash_lt_of_mem_lowerRuns run (List.mem_of_find?_eq_some hrun)
      simp only [CaseRun.covers, Bool.and_eq_true, decide_eq_true_eq] at hcovers
      have hslash : (c.toNat + run.offset).toNat = 47 :=
        eq_toNat_of_ofNat (List.mem_singleton.1 h).symm (by decide)
      omega
    · exact (List.mem_singleton.1 h).symm

theorem slash_mem_lowerAfter {before text : List Char} (h : '/' ∈ lowerAfter before text) :
    '/' ∈ text := by
  induction text generalizing before with
  | nil => cases h
  | cons c rest ih =>
    rw [lowerAfter, List.mem_append] at h
    rcases h with h | h
    · split_ifs at h with hsigma hfinal
      · exact absurd h (by decide)
      · exact absurd h (by decide)
      · exact List.mem_cons.2 (Or.inl (slash_mem_lowerChar h).symm)
    · exact List.mem_cons_of_mem c (ih h)

/-- No slash comes of a name without one. -/
theorem slash_not_mem_snakeCase {name snake : String} (hname : '/' ∉ name.toList)
    (h : snakeCase name = some snake) : '/' ∉ snake.toList := by
  obtain ⟨words, hwords, rfl⟩ := Option.map_eq_some_iff.1 h
  rw [String.toList_ofList]
  intro hslash
  rcases mem_intercalate hslash with hmark | ⟨word, hword, hslash⟩
  · exact absurd (List.mem_singleton.1 hmark) (by decide)
  · obtain ⟨source, rfl, hsource⟩ := exists_of_mem_snakeWords hwords hword
    exact hname (hsource '/' (slash_mem_lowerAfter hslash))

end Forwarding.Text
