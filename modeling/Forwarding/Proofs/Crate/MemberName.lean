import Forwarding.Crate.TraitImpl
import Forwarding.Proofs.Crate.Naming

/-!
# Names of members that have no identifier

The name of a method, parameter or field goes through three steps before it is read as an
identifier: it is cut into words, its dollar signs become underscores, and a path keyword gets an
underscore at its end.  In ASCII all that can go wrong is decided by the name without its
underscores.

* `IsCrateName.exists_ident_iff`: a name in a crate has an identifier unless it is empty, begins
  with a digit or is an underscore;
* `head?_crateName`, `crateName_eq_underscore_iff`: how the crate name of a name begins, and when it
  is an underscore;
* `Ident.ofMemberName_error_iff`: exactly which names of members have no identifier.
-/

namespace Forwarding

open Text

/-! ### Identifiers of names in a crate -/

theorem isIdentifierStart_word {c : Char} (hc : isWordChar c = true) :
    isIdentifierStart c = !c.isDigit :=
  ascii_forall (p := fun c => isWordChar c = true → isIdentifierStart c = !c.isDigit) (by decide)
    (toNat_lt_of_isWordChar hc) hc

/-- A word is built like an identifier unless it is empty or begins with a digit. -/
theorem isIdentifierText_word {text : List Char} (h : ∀ c ∈ text, isWordChar c = true) :
    isIdentifierText text = true ↔ ∃ c, text.head? = some c ∧ c.isDigit = false := by
  cases text with
  | nil => simp [isIdentifierText]
  | cons c rest =>
    obtain ⟨hc, hrest⟩ := List.forall_mem_cons.1 h
    have hall : rest.all isIdentifierPart = true :=
      List.all_eq_true.2 fun d hd => isIdentifierPart_word (hrest d hd)
    simp [isIdentifierText, isIdentifierStart_word hc, hall]

/-- Names that have no identifier are not cut. -/
theorem Ident.ofName_ne_cut (name : String) : Ident.ofName name ≠ .error .cutInsideCharacter := by
  -- not `rw [ofName]`: to prove its equation the reading of the name would be evaluated
  delta Ident.ofName
  rcases soleIdentifier (safeName name).toList with _ | ident
  · dsimp only
    rw [rawIdent]
    split_ifs <;> simp
  · simp

/-- A name in a crate has an identifier unless it is empty, begins with a digit or is an
underscore. -/
theorem IsCrateName.exists_ident_iff {name : String} (h : IsCrateName name) :
    (∃ ident, Ident.ofName name = .ok ident) ↔
      isIdentifierText name.toList = true ∧ name ≠ "_" := by
  delta Ident.ofName
  rw [safeName_eq_self h.word h.not_keyword, soleIdentifier_word h.word, String.ofList_toList]
  by_cases hplain : isIdentifierText name.toList = true ∧ name ∉ "_" :: keywords
  · rw [if_pos hplain]
    refine iff_of_true ⟨_, rfl⟩ ⟨hplain.1, ?_⟩
    rintro rfl
    exact hplain.2 List.mem_cons_self
  · rw [if_neg hplain]
    dsimp only
    simp only [rawIdent_eq_ok_iff, exists_eq_left, withoutRawForm, List.mem_cons, h.not_keyword,
      or_false, ne_eq]

/-! ### The crate name of a name in ASCII -/

/-- The characters of a name that go into its words. -/
def wordChars (name : String) : List Char := name.toList.filter (· ≠ '_')

/-- What becomes of a character of a word. -/
def crateChar (c : Char) : Char := if c.toLower = '$' then '_' else c.toLower

/-- Letters are small in a crate name. -/
theorem crateChar_cases {c : Char} (hc : isNameChar c = true) :
    (crateChar c).isLower = true ∨ (crateChar c).isDigit = true ∨ crateChar c = '_' :=
  ascii_forall (p := fun c => isNameChar c = true →
    (crateChar c).isLower = true ∨ (crateChar c).isDigit = true ∨ crateChar c = '_') (by decide)
    (toNat_lt_of_isNameChar hc) hc

theorem isDigit_crateChar {c : Char} (hc : isNameChar c = true) :
    (crateChar c).isDigit = c.isDigit :=
  ascii_forall (p := fun c => isNameChar c = true → (crateChar c).isDigit = c.isDigit) (by decide)
    (toNat_lt_of_isNameChar hc) hc

/-- Only underscores and dollar signs become underscores. -/
theorem crateChar_eq_underscore_iff {c : Char} (hc : isNameChar c = true) :
    crateChar c = '_' ↔ c = '_' ∨ c = '$' :=
  ascii_forall (p := fun c => isNameChar c = true → (crateChar c = '_' ↔ c = '_' ∨ c = '$'))
    (by decide) (toNat_lt_of_isNameChar hc) hc

section CrateName

variable {name : String} (h : ∀ c ∈ name.toList, isNameChar c = true)

include h

theorem isNameChar_of_mem_wordChars {c : Char} (hc : c ∈ wordChars name) :
    isNameChar c = true ∧ c ≠ '_' := by
  obtain ⟨hmem, hne⟩ := List.mem_filter.1 hc
  exact ⟨h c hmem, by simpa using hne⟩

/-- A name in ASCII always has a crate name.  It is made of its words. -/
theorem exists_crateName :
    ∃ (words : List (List Char)) (plain : String), (∀ word ∈ words, word ≠ []) ∧
      words.flatten = (wordChars name).map Char.toLower ∧
      plain.toList = (['_'].intercalate words).map (fun c => if c = '$' then '_' else c) ∧
      (plain ∉ pathKeywords ∧ crateName name = .ok plain ∨
        plain ∈ pathKeywords ∧ crateName name = .ok (plain ++ "_")) := by
  have hascii : ∀ c ∈ name.toList, c.toNat < 128 := fun c hc => toNat_lt_of_isNameChar (h c hc)
  obtain ⟨words, hwords, hne, hflatten⟩ := exists_snakeWords_ascii hascii
  have hsame : name.toList.filter (fun c => !isWordSeparator c) = wordChars name := by
    refine List.filter_congr fun c hc => ?_
    exact ascii_forall (p := fun c => isNameChar c = true →
      (!isWordSeparator c) = decide (c ≠ '_')) (by decide) (hascii c hc) (h c hc)
  have hcrate : crateName name = .ok (safeName (String.ofList (['_'].intercalate words))) := by
    rw [crateName, snakeCase, hwords]
    rfl
  obtain ⟨plain, hplain, hsafe⟩ := safeName_cases (String.ofList (['_'].intercalate words))
  rw [String.toList_ofList] at hplain
  refine ⟨words, plain, hne, by rw [hflatten, hsame], hplain, hsafe.imp ?_ ?_⟩
  · rintro ⟨hnot, hself⟩
    exact ⟨hnot, by rw [hcrate, hself]⟩
  · rintro ⟨hkeyword, hmore⟩
    exact ⟨hkeyword, by rw [hcrate, hmore]⟩

/-- A crate name consists of small letters, digits and underscores. -/
theorem mem_crateName {rust : String} (hrust : crateName name = .ok rust) {c : Char}
    (hc : c ∈ rust.toList) : c.isLower = true ∨ c.isDigit = true ∨ c = '_' := by
  obtain ⟨words, plain, -, hflatten, hplain, hcases⟩ := exists_crateName h
  have hchar : ∀ d ∈ plain.toList, d.isLower = true ∨ d.isDigit = true ∨ d = '_' := by
    intro d hd
    rw [hplain] at hd
    obtain ⟨e, he, rfl⟩ := List.mem_map.1 hd
    rcases mem_intercalate he with hmark | ⟨word, hword, he⟩
    · obtain rfl := List.mem_singleton.1 hmark
      exact Or.inr (Or.inr rfl)
    · have hmem : e ∈ words.flatten := List.mem_flatten.2 ⟨word, hword, he⟩
      rw [hflatten] at hmem
      obtain ⟨source, hsource, rfl⟩ := List.mem_map.1 hmem
      exact crateChar_cases (isNameChar_of_mem_wordChars h hsource).1
  rcases hcases with ⟨-, hself⟩ | ⟨-, hmore⟩
  · obtain rfl := Except.ok.inj (hrust.symm.trans hself)
    exact hchar c hc
  · obtain rfl := Except.ok.inj (hrust.symm.trans hmore)
    rw [String.toList_append, List.mem_append] at hc
    rcases hc with hc | hc
    · exact hchar c hc
    · exact Or.inr (Or.inr (List.mem_singleton.1 hc))

/-- A crate name begins with what becomes of the first character that goes into a word. -/
theorem head?_crateName {rust : String} (hrust : crateName name = .ok rust) :
    rust.toList.head? = (wordChars name).head?.map crateChar := by
  obtain ⟨words, plain, hne, hflatten, hplain, hcases⟩ := exists_crateName h
  have hfirst : plain.toList.head? = (wordChars name).head?.map crateChar := by
    rw [hplain, List.head?_map, head?_intercalate hne, hflatten, List.head?_map, Option.map_map]
    rfl
  rcases hcases with ⟨-, hself⟩ | ⟨hkeyword, hmore⟩
  · obtain rfl := Except.ok.inj (hrust.symm.trans hself)
    exact hfirst
  · obtain rfl := Except.ok.inj (hrust.symm.trans hmore)
    have hnil : plain.toList ≠ [] := by
      intro hnil
      have hnot : "" ∉ pathKeywords := by decide
      exact hnot (String.toList_eq_nil_iff.1 hnil ▸ hkeyword)
    rw [String.toList_append, List.head?_append_of_ne_nil _ hnil, hfirst]

/-- The crate name is a single underscore if a single dollar sign goes into the words. -/
theorem crateName_eq_underscore_iff {rust : String} (hrust : crateName name = .ok rust) :
    rust = "_" ↔ wordChars name = ['$'] := by
  obtain ⟨words, plain, hne, hflatten, hplain, hcases⟩ := exists_crateName h
  have hmark : plain = "_" ↔ wordChars name = ['$'] := by
    rw [← String.toList_inj, hplain]
    change List.map _ _ = ['_'] ↔ _
    rw [List.map_eq_singleton_iff]
    simp only [intercalate_eq_singleton_iff hne, hflatten, List.map_eq_singleton_iff]
    constructor
    · rintro ⟨c, ⟨d, hchars, rfl⟩, hc⟩
      obtain ⟨hd, hnot⟩ := isNameChar_of_mem_wordChars h (hchars ▸ List.mem_singleton_self d)
      rw [hchars, ((crateChar_eq_underscore_iff hd).1 hc).resolve_left hnot]
    · intro hchars
      exact ⟨'$', ⟨'$', hchars, by decide⟩, by decide⟩
  rcases hcases with ⟨-, hself⟩ | ⟨hkeyword, hmore⟩
  · obtain rfl := Except.ok.inj (hrust.symm.trans hself)
    exact hmark
  · obtain rfl := Except.ok.inj (hrust.symm.trans hmore)
    have hlonger : ∀ keyword ∈ pathKeywords, keyword ≠ "_" ∧ keyword ++ "_" ≠ "_" := by decide
    exact iff_of_false (hlonger plain hkeyword).2 fun hchars =>
      (hlonger plain hkeyword).1 (hmark.2 hchars)

end CrateName

/-! ### Names without an identifier -/

/-- No character goes into a word. -/
theorem wordChars_eq_nil_iff {name : String} :
    wordChars name = [] ↔ ∀ c ∈ name.toList, c = '_' := by
  simp [wordChars]

/-- A single dollar sign goes into the words. -/
theorem wordChars_eq_dollar_iff {name : String} :
    wordChars name = ['$'] ↔
      name.toList.count '$' = 1 ∧ ∀ c ∈ name.toList, c = '$' ∨ c = '_' := by
  have hcount : (wordChars name).count '$' = name.toList.count '$' :=
    List.count_filter (by decide)
  have hall : (∀ c ∈ wordChars name, c = '$') ↔ ∀ c ∈ name.toList, c = '$' ∨ c = '_' := by
    simp only [wordChars, List.mem_filter, decide_eq_true_eq, and_imp]
    exact forall₂_congr fun c _ => (or_iff_not_imp_right).symm
  rw [← hcount, ← hall]
  constructor
  · intro hchars
    simp [hchars]
  · rintro ⟨hone, hsame⟩
    have hreplicate := List.eq_replicate_of_mem hsame
    rw [hreplicate, List.count_replicate_self] at hone
    rw [hreplicate, hone]
    rfl

/-- **Exactly which names of members have no identifier.**  A name of letters, digits, underscores
and dollar signs that does not begin with a digit always has a crate name, of small letters, digits
and underscores.  It has no identifier if it consists of underscores, or of one dollar sign and
underscores, or if its first character apart from underscores is a digit; otherwise it has the
identifier of its crate name, raw or not. -/
theorem Ident.ofMemberName_error_iff {name : String} (h : isName name = true) :
    ∃ rust, crateName name = .ok rust ∧
      (∀ c ∈ rust.toList, c.isLower = true ∨ c.isDigit = true ∨ c = '_') ∧
      Ident.ofMemberName name = Ident.ofName rust ∧
      Ident.ofName rust ≠ .error .cutInsideCharacter ∧
      ((∃ fault, Ident.ofName rust = .error fault) ↔
        (∀ c ∈ name.toList, c = '_') ∨
          (name.toList.count '$' = 1 ∧ ∀ c ∈ name.toList, c = '$' ∨ c = '_') ∨
          ∃ c, name.toList.find? (· ≠ '_') = some c ∧ c.isDigit = true) ∧
      ∀ ident, Ident.ofName rust = .ok ident →
        ident.text = if ident.raw then "r#" ++ rust else rust := by
  have hchars : ∀ c ∈ name.toList, isNameChar c = true := fun c => isNameChar_of_isName h
  obtain ⟨rust, hrust⟩ : ∃ rust, crateName name = .ok rust := by
    obtain ⟨_, plain, -, -, -, ⟨-, hself⟩ | ⟨-, hmore⟩⟩ := exists_crateName hchars
    · exact ⟨_, hself⟩
    · exact ⟨_, hmore⟩
  have hcrate := isCrateName_of_crateName h hrust
  refine ⟨rust, hrust, fun c => mem_crateName hchars hrust, by rw [ofMemberName, hrust]; rfl,
    Ident.ofName_ne_cut rust, ?_, fun ident hident => ?_⟩
  · have herror : (∃ fault, Ident.ofName rust = .error fault) ↔
        ¬ ∃ ident, Ident.ofName rust = .ok ident := by
      cases Ident.ofName rust <;> simp
    have hfirst : isIdentifierText rust.toList = true ↔
        ∃ c, (wordChars name).head? = some c ∧ c.isDigit = false := by
      rw [isIdentifierText_word hcrate.word, head?_crateName hchars hrust]
      constructor
      · rintro ⟨c, hc, hdigit⟩
        obtain ⟨d, hd, rfl⟩ := Option.map_eq_some_iff.1 hc
        obtain ⟨hname, -⟩ := isNameChar_of_mem_wordChars hchars (List.mem_of_head? hd)
        exact ⟨d, hd, (isDigit_crateChar hname).symm.trans hdigit⟩
      · rintro ⟨d, hd, hdigit⟩
        obtain ⟨hname, -⟩ := isNameChar_of_mem_wordChars hchars (List.mem_of_head? hd)
        exact ⟨crateChar d, by rw [hd]; rfl, (isDigit_crateChar hname).trans hdigit⟩
    rw [herror, hcrate.exists_ident_iff, hfirst, ne_eq, crateName_eq_underscore_iff hchars hrust,
      ← wordChars_eq_nil_iff, ← wordChars_eq_dollar_iff, ← List.head?_filter]
    change ¬ _ ↔ _ ∨ _ ∨ ∃ c, (wordChars name).head? = some c ∧ _
    cases wordChars name with
    | nil => simp
    | cons c rest =>
      cases hdigit : c.isDigit with
      | true => simp [hdigit]
      | false => simp [hdigit]
  · rw [text, hcrate.name_of_ofName hident]

/-- The crate name of the first name is empty and that of the second an underscore, the third one
begins with a digit, and the last one is a keyword. -/
theorem Ident.ofMemberName_error_iff_names :
    (isName "__" = true ∧ ∃ fault, Ident.ofMemberName "__" = .error fault) ∧
      (isName "_$_" = true ∧ ∃ fault, Ident.ofMemberName "_$_" = .error fault) ∧
      (isName "_1a" = true ∧ ∃ fault, Ident.ofMemberName "_1a" = .error fault) ∧
      isName "Type_" = true ∧ ¬ ∃ fault, Ident.ofMemberName "Type_" = .error fault := by
  have hname : ∀ name ∈ ["__", "_$_", "_1a", "Type_"], isName name = true := by decide
  simp only [List.forall_mem_cons] at hname
  obtain ⟨hempty, hmark, hdigit, hkeyword, -⟩ := hname
  refine ⟨⟨hempty, ?_⟩, ⟨hmark, ?_⟩, ⟨hdigit, ?_⟩, hkeyword, ?_⟩
  · obtain ⟨rust, -, -, hident, -, herror, -⟩ := ofMemberName_error_iff hempty
    rw [hident, herror]
    exact Or.inl (by simp)
  · obtain ⟨rust, -, -, hident, -, herror, -⟩ := ofMemberName_error_iff hmark
    rw [hident, herror]
    exact Or.inr (Or.inl (by simp))
  · obtain ⟨rust, -, -, hident, -, herror, -⟩ := ofMemberName_error_iff hdigit
    rw [hident, herror]
    exact Or.inr (Or.inr ⟨'1', by simp⟩)
  · obtain ⟨rust, -, -, hident, -, herror, -⟩ := ofMemberName_error_iff hkeyword
    rw [hident, herror]
    simp

end Forwarding
