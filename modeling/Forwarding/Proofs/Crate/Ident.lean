import Forwarding.Crate.Ident
import Forwarding.Proofs.Text.Ascii
import Mathlib.Data.List.TakeWhile

/-!
# Identifiers for names in ASCII

A text of letters, digits and underscores has no blanks or comments that could be left out, so it is
read as an identifier as a whole or not at all.

* `soleIdentifier_word`: when such a text is an identifier by itself;
* `safeName_not_keyword`, `safeName_eq_self_iff`: a safe form is no path keyword, and what has no
  dollar sign and is no path keyword stays as it is;
* `Ident.ofName_safeName`: a safe form has the identifier of the name;
* `rawIdent_eq_ok_iff`: which names have a raw identifier;
* `Ident.name_of_ofName`: the identifier of a name in ASCII has the safe form of the name as its
  name, raw or not;
* `Ident.head?_ne_dot_of_ofName`: no name with an identifier begins with a dot.
-/

namespace Forwarding

open Text

/-! ### Reading words -/

section Words

variable {text : List Char} (h : ∀ c ∈ text, isWordChar c = true)

theorem isTokenBlank_word {c : Char} (hc : isWordChar c = true) : isTokenBlank c = false :=
  ascii_forall (p := fun c => isWordChar c = true → isTokenBlank c = false) (by decide)
    (toNat_lt_of_isWordChar hc) hc

theorem isIdentifierPart_word {c : Char} (hc : isWordChar c = true) : isIdentifierPart c = true :=
  (ofRule_ascii (toNat_lt_of_isWordChar hc)).trans hc

theorem ne_of_isWordChar {c d : Char} (hc : isWordChar c = true) (hd : isWordChar d = false) :
    c ≠ d := by
  rintro rfl
  rw [hc] at hd
  cases hd

include h

theorem withoutByteOrderMark_word : withoutByteOrderMark text = text := by
  cases text with
  | nil => rfl
  | cons c rest =>
    have hc := toNat_lt_of_isWordChar (h c List.mem_cons_self)
    exact if_neg (by omega)

/-- No blanks and no comment stand before a word. -/
theorem afterGaps_word : afterGaps .blank text = some text := by
  cases text with
  | nil => rfl
  | cons c rest =>
    have hc := h c List.mem_cons_self
    have hslash := ne_of_isWordChar hc (d := '/') (by decide)
    have hline : opensLineComment (c :: rest) = false := by
      unfold opensLineComment
      split <;> simp_all
    have hblock : opensBlockComment (c :: rest) = false := by
      unfold opensBlockComment
      split <;> simp_all
    rw [afterGaps, isTokenBlank_word hc, hline, hblock]
    rfl

theorem leadingIdentifier_word :
    leadingIdentifier text = if isIdentifierText text then some (text, []) else none := by
  cases text with
  | nil => rfl
  | cons c rest =>
    have hrest : ∀ d ∈ rest, isIdentifierPart d = true := fun d hd =>
      isIdentifierPart_word (h d (List.mem_cons_of_mem c hd))
    have htake : rest.takeWhile isIdentifierPart = rest :=
      List.takeWhile_eq_self_iff.2 hrest
    have hdrop : rest.dropWhile isIdentifierPart = [] :=
      List.dropWhile_eq_nil_iff.2 hrest
    have hall : rest.all isIdentifierPart = true := List.all_eq_true.2 hrest
    rw [leadingIdentifier, htake, hdrop, isIdentifierText, hall, Bool.and_true]

/-- A word is an identifier by itself if it is built like one and is no keyword. -/
theorem soleIdentifier_word :
    soleIdentifier text =
      if isIdentifierText text ∧ String.ofList text ∉ "_" :: keywords then
        some ⟨String.ofList text, false⟩
      else none := by
  have hleading : leadingIdent text =
      (leadingIdentifier text).bind fun part =>
        if ("_" :: keywords).contains (String.ofList part.1) then none
        else some (⟨String.ofList part.1, false⟩, part.2) := by
    -- a word has no `#`, so it does not begin like a raw identifier
    unfold leadingIdent
    split
    · exact absurd (h '#' (by simp)) (by decide)
    · cases leadingIdentifier text <;> rfl
  rw [soleIdentifier, withoutByteOrderMark_word h, afterGaps_word h]
  simp only [hleading, leadingIdentifier_word h, List.contains_iff_mem]
  by_cases htext : isIdentifierText text = true
  · by_cases hkeyword : String.ofList text ∈ "_" :: keywords
    · simp only [htext, hkeyword, if_true, Option.bind_some, not_true_eq_false, and_false, if_false]
    · simp [-List.mem_cons, htext, hkeyword, afterGaps]
  · simp [htext]

end Words

/-! ### Safe names -/

/-- In the safe form dollar signs are underscores, and a path keyword has one more at its end. -/
theorem safeName_cases (name : String) :
    ∃ plain : String, plain.toList = name.toList.map (fun c => if c = '$' then '_' else c) ∧
      (plain ∉ pathKeywords ∧ safeName name = plain ∨
        plain ∈ pathKeywords ∧ safeName name = plain ++ "_") := by
  refine ⟨_, String.toList_ofList, ?_⟩
  simp only [safeName]
  split_ifs with hkeyword
  · exact Or.inr ⟨List.contains_iff_mem.1 hkeyword, rfl⟩
  · exact Or.inl ⟨fun hmem => hkeyword (List.contains_iff_mem.2 hmem), rfl⟩

theorem safeName_eq_empty_iff {name : String} : safeName name = "" ↔ name = "" := by
  obtain ⟨plain, hplain, hsafe⟩ := safeName_cases name
  have hempty : plain = "" ↔ name = "" := by
    rw [← String.toList_eq_nil_iff, hplain, List.map_eq_nil_iff, String.toList_eq_nil_iff]
  rcases hsafe with ⟨-, hsafe⟩ | ⟨hkeyword, hsafe⟩
  · rw [hsafe, hempty]
  · have hnot : "" ∉ pathKeywords := by decide
    rw [hsafe, ← hempty]
    refine iff_of_false (fun h => ?_) fun h => hnot (h ▸ hkeyword)
    simpa using congrArg String.toList h

/-- The safe form of a name in ASCII is a word. -/
theorem isWordChar_safeName {name : String} (h : ∀ c ∈ name.toList, isNameChar c = true) {c : Char}
    (hc : c ∈ (safeName name).toList) : isWordChar c = true := by
  obtain ⟨plain, hplain, hsafe⟩ := safeName_cases name
  have hword : ∀ d ∈ plain.toList, isWordChar d = true := by
    intro d hd
    rw [hplain] at hd
    obtain ⟨e, he, rfl⟩ := List.mem_map.1 hd
    have hname := h e he
    split_ifs with hdollar
    · decide
    · simpa [isNameChar, hdollar] using hname
  rcases hsafe with ⟨-, hsafe⟩ | ⟨-, hsafe⟩
  · exact hword c (hsafe ▸ hc)
  · rw [hsafe, String.toList_append, List.mem_append] at hc
    rcases hc with hc | hc
    · exact hword c hc
    · obtain rfl := List.mem_singleton.1 hc
      decide

/-- A safe form is no path keyword. -/
theorem safeName_not_keyword (name : String) : safeName name ∉ pathKeywords := by
  obtain ⟨plain, -, ⟨hnot, hsafe⟩ | ⟨hkeyword, hsafe⟩⟩ := safeName_cases name
  · rwa [hsafe]
  · have hextended : ∀ keyword ∈ pathKeywords, keyword ++ "_" ∉ pathKeywords := by decide
    rw [hsafe]
    exact hextended plain hkeyword

theorem dollar_not_mem_safeName (name : String) : '$' ∉ (safeName name).toList := by
  obtain ⟨plain, hplain, hsafe⟩ := safeName_cases name
  have hmap : '$' ∉ plain.toList := by
    rw [hplain, List.mem_map]
    rintro ⟨c, -, hc⟩
    split_ifs at hc with hdollar
    · exact absurd hc (by decide)
    · exact hdollar hc
  rcases hsafe with ⟨-, hsafe⟩ | ⟨-, hsafe⟩
  · rwa [hsafe]
  · rw [hsafe, String.toList_append, List.mem_append]
    exact not_or.2 ⟨hmap, by decide⟩

/-- A name is its own safe form exactly if it has no dollar sign and is no path keyword. -/
theorem safeName_eq_self_iff {name : String} :
    safeName name = name ↔ '$' ∉ name.toList ∧ name ∉ pathKeywords := by
  constructor
  · intro hsame
    have hdollar := dollar_not_mem_safeName name
    have hkeyword := safeName_not_keyword name
    rw [hsame] at hdollar hkeyword
    exact ⟨hdollar, hkeyword⟩
  · rintro ⟨hdollar, hkeyword⟩
    obtain ⟨plain, hplain, hsafe⟩ := safeName_cases name
    have hsame : plain = name := by
      rw [← String.toList_inj, hplain]
      conv_rhs => rw [← List.map_id name.toList]
      refine List.map_congr_left fun c hc => if_neg ?_
      rintro rfl
      exact hdollar hc
    rw [hsame] at hsafe
    rcases hsafe with ⟨-, hsafe⟩ | ⟨hmem, -⟩
    · exact hsafe
    · exact absurd hmem hkeyword

/-- A safe form is its own safe form. -/
@[simp]
theorem safeName_safeName (name : String) : safeName (safeName name) = safeName name :=
  safeName_eq_self_iff.2 ⟨dollar_not_mem_safeName name, safeName_not_keyword name⟩

/-- A word that is no path keyword is its own safe form. -/
theorem safeName_eq_self {name : String} (h : ∀ c ∈ name.toList, isWordChar c = true)
    (hkeyword : name ∉ pathKeywords) : safeName name = name :=
  safeName_eq_self_iff.2 ⟨fun hdollar => absurd (h '$' hdollar) (by decide), hkeyword⟩

/-! ### Identifiers -/

/-- The raw identifier of a name has this name. -/
theorem name_of_rawIdent {name : String} {ident : Ident} (h : rawIdent name = .ok ident) :
    ident = ⟨name, true⟩ := by
  unfold rawIdent at h
  split_ifs at h
  exact (Except.ok.inj h).symm

/-- What is built like an identifier is not empty and does not consist of digits. -/
theorem not_all_digits_of_isIdentifierText {text : List Char} (h : isIdentifierText text = true) :
    text ≠ [] ∧ text.all Char.isDigit = false := by
  cases text with
  | nil => cases h
  | cons c rest =>
    have hc : c.isDigit = false := by
      by_contra hdigit
      have hstart := (Bool.and_eq_true_iff.1 h).1
      rw [Bool.not_eq_false] at hdigit
      have hword : isWordChar c = true := by simp [isWordChar, Char.isAlphanum, hdigit]
      exact ascii_forall (p := fun c => c.isDigit = true → ¬ isIdentifierStart c = true) (by decide)
        (toNat_lt_of_isWordChar hword) hdigit hstart
    simp [hc]

/-- A name has a raw identifier exactly if it is built like an identifier and is neither an
underscore nor a path keyword. -/
theorem rawIdent_eq_ok_iff {name : String} {ident : Ident} :
    rawIdent name = .ok ident ↔
      ident = ⟨name, true⟩ ∧ isIdentifierText name.toList = true ∧ name ∉ withoutRawForm := by
  constructor
  · intro h
    refine ⟨name_of_rawIdent h, ?_⟩
    unfold rawIdent at h
    split_ifs at h with hempty hdigits htext hform
    exact ⟨by simpa using htext, fun hmem => hform (List.contains_iff_mem.2 hmem)⟩
  · rintro ⟨rfl, htext, hform⟩
    obtain ⟨hne, hdigits⟩ := not_all_digits_of_isIdentifierText htext
    rw [rawIdent, if_neg (mt String.toList_eq_nil_iff.2 hne), if_neg (by simp [hdigits]), htext,
      if_neg (by simp), if_neg (mt List.contains_iff_mem.1 hform)]

/-- A name and its safe form have the same identifier, or none for the same fault. -/
theorem Ident.ofName_safeName (name : String) :
    Ident.ofName (safeName name) = Ident.ofName name := by
  -- not `rw [ofName]`: to prove its equation the reading of the name would be evaluated
  delta ofName
  rw [safeName_safeName]

/-- The identifier of a name in ASCII has the name's safe form. -/
theorem Ident.name_of_ofName {name : String} (hname : ∀ c ∈ name.toList, isNameChar c = true)
    {ident : Ident} (h : Ident.ofName name = .ok ident) : ident.name = safeName name := by
  have hword : ∀ c ∈ (safeName name).toList, isWordChar c = true := fun c =>
    isWordChar_safeName hname
  delta ofName at h
  rw [soleIdentifier_word hword, String.ofList_toList] at h
  split_ifs at h
  · rw [← Except.ok.inj h]
  · rw [name_of_rawIdent h]

/-- No identifier is read from a text that begins with a dot. -/
theorem soleIdentifier_dot (rest : List Char) : soleIdentifier ('.' :: rest) = none := by
  have hmark : withoutByteOrderMark ('.' :: rest) = '.' :: rest := by
    rw [withoutByteOrderMark, if_neg (by decide)]
  have hblank : isTokenBlank '.' = false := by decide
  have hstart : isIdentifierStart '.' = false := by decide
  have hgaps : afterGaps .blank ('.' :: rest) = some ('.' :: rest) := by
    simp [afterGaps, hblank, opensLineComment, opensBlockComment]
  have hleading : leadingIdent ('.' :: rest) = none := by
    simp [leadingIdent, leadingIdentifier, hstart]
  rw [soleIdentifier, hmark, hgaps]
  simp only [hleading]

/-- A name that begins with a dot has no identifier. -/
theorem Ident.head?_ne_dot_of_ofName {name : String} {ident : Ident}
    (h : Ident.ofName name = .ok ident) : name.toList.head? ≠ some '.' := by
  intro hhead
  obtain ⟨rest, hname⟩ : ∃ rest, name.toList = '.' :: rest := List.head?_eq_some_iff.1 hhead
  obtain ⟨rest, hsafe⟩ : ∃ rest, (safeName name).toList = '.' :: rest := by
    obtain ⟨plain, hplain, ⟨-, hsafe⟩ | ⟨-, hsafe⟩⟩ := safeName_cases name
    · exact ⟨_, by rw [hsafe, hplain, hname]; rfl⟩
    · exact ⟨_, by rw [hsafe, String.toList_append, hplain, hname]; rfl⟩
  delta ofName at h
  rw [hsafe, soleIdentifier_dot] at h
  obtain ⟨-, htext, -⟩ := rawIdent_eq_ok_iff.1 h
  have hstart : isIdentifierStart '.' = false := by decide
  rw [hsafe, isIdentifierText, hstart, Bool.false_and] at htext
  cases htext

end Forwarding
