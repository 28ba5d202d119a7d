import Forwarding.Proofs.Crate.Legality

/-!
# Names of modules

A declaration is resolved by the name of its identifier, which need not be the name that it was made
for.  It is the same exactly for the names that are built like identifiers and have a raw form, and
no declaration has another name.

* `IsModuleName`: the names that identifiers have;
* `soleIdentifier_of_isIdentifierText`: the reading of such a name;
* `Ident.isModuleName_iff`: the name of the identifier of a name is that name exactly if it is one
  of these.
-/

namespace Forwarding

open Text

/-- The name is built like an identifier, and is not one of those without a raw form. -/
structure IsModuleName (name : String) : Prop where
  built : isIdentifierText name.toList = true
  formed : name ∉ withoutRawForm

instance (name : String) : Decidable (IsModuleName name) :=
  decidable_of_iff (isIdentifierText name.toList = true ∧ name ∉ withoutRawForm)
    ⟨fun ⟨built, formed⟩ => ⟨built, formed⟩, fun h => ⟨h.built, h.formed⟩⟩

/-! ### The first characters of identifiers -/

/-- The code points of ranges. -/
def codesOf (ranges : CodeRanges) : List ℕ :=
  ranges.flatMap fun range => List.range' range.1 (range.2 + 1 - range.1)

theorem mem_codesOf_of_contains {ranges : CodeRanges} {c : Char} (h : ranges.contains c = true) :
    c.toNat ∈ codesOf ranges := by
  obtain ⟨range, hrange, hc⟩ := List.any_eq_true.1 h
  rw [Bool.and_eq_true, decide_eq_true_eq, decide_eq_true_eq] at hc
  exact List.mem_flatMap.2 ⟨range, hrange, List.mem_range'_1.2 (by omega)⟩

/-- The code points of the white space between tokens. -/
def blankCodes : List ℕ :=
  [0x9, 0xa, 0xb, 0xc, 0xd, 0x20] ++ codesOf blankRanges ++ [0x200e, 0x200f]

theorem mem_blankCodes_of_isTokenBlank {c : Char} (h : isTokenBlank c = true) :
    c.toNat ∈ blankCodes := by
  simp only [isTokenBlank, isBlank, ofRule, Bool.or_eq_true, beq_iff_eq] at h
  rcases h with (h | h) | h
  · refine List.mem_append_left _ ?_
    split_ifs at h with hascii
    · have hblank : c = ' ' ↔ c.toNat = 0x20 := Char.toNat_inj.symm
      simp only [Bool.or_eq_true, Bool.and_eq_true, beq_iff_eq, decide_eq_true_eq, hblank] at h
      refine List.mem_append_left _ ?_
      simp only [List.mem_cons, List.not_mem_nil, or_false]
      omega
    · exact List.mem_append_right _ (mem_codesOf_of_contains h)
  · simp [blankCodes, h]
  · simp [blankCodes, h]

theorem isTokenBlank_of_isIdentifierStart {c : Char} (h : isIdentifierStart c = true) :
    isTokenBlank c = false := by
  have hnone : ∀ code ∈ blankCodes, isIdentifierStart (Char.ofNat code) = false := by
    decide +kernel
  rw [← Bool.not_eq_true]
  intro hblank
  have hstart := hnone c.toNat (mem_blankCodes_of_isTokenBlank hblank)
  rw [Char.ofNat_toNat, h] at hstart
  cases hstart

/-! ### Reading names of modules -/

section Names

variable {text : List Char} (h : isIdentifierText text = true)

include h

theorem exists_cons_of_isIdentifierText :
    ∃ c rest, text = c :: rest ∧ isIdentifierStart c = true ∧
      ∀ d ∈ rest, isIdentifierPart d = true := by
  cases text with
  | nil => cases h
  | cons c rest =>
    rw [isIdentifierText, Bool.and_eq_true, List.all_eq_true] at h
    exact ⟨c, rest, rfl, h⟩

theorem withoutByteOrderMark_of_isIdentifierText : withoutByteOrderMark text = text := by
  obtain ⟨c, rest, rfl, hc, -⟩ := exists_cons_of_isIdentifierText h
  refine if_neg fun hmark => ?_
  have hnot : isIdentifierStart (Char.ofNat 0xfeff) = false := by decide +kernel
  rw [← hmark, Char.ofNat_toNat, hc] at hnot
  cases hnot

/-- No blanks and no comment stand before the name. -/
theorem afterGaps_of_isIdentifierText : afterGaps .blank text = some text := by
  obtain ⟨c, rest, rfl, hc, -⟩ := exists_cons_of_isIdentifierText h
  have hslash : c ≠ '/' := by
    rintro rfl
    exact absurd hc (by decide)
  have hline : opensLineComment (c :: rest) = false := by
    unfold opensLineComment
    split <;> simp_all
  have hblock : opensBlockComment (c :: rest) = false := by
    unfold opensBlockComment
    split <;> simp_all
  rw [afterGaps, isTokenBlank_of_isIdentifierStart hc, hline, hblock]
  rfl

theorem leadingIdentifier_of_isIdentifierText : leadingIdentifier text = some (text, []) := by
  obtain ⟨c, rest, rfl, hc, hrest⟩ := exists_cons_of_isIdentifierText h
  rw [leadingIdentifier, if_pos hc, List.takeWhile_eq_self_iff.2 hrest,
    List.dropWhile_eq_nil_iff.2 hrest]

/-- The name is an identifier by itself unless it is a keyword. -/
theorem soleIdentifier_of_isIdentifierText :
    soleIdentifier text =
      if String.ofList text ∈ "_" :: keywords then none else some ⟨String.ofList text, false⟩ := by
  have hleading : leadingIdent text =
      if ("_" :: keywords).contains (String.ofList text) then none
      else some (⟨String.ofList text, false⟩, []) := by
    -- the name has no `#`, so it does not begin like a raw identifier
    unfold leadingIdent
    split
    · obtain ⟨c, rest, hsame, -, hrest⟩ := exists_cons_of_isIdentifierText h
      obtain ⟨rfl, rfl⟩ := List.cons.inj hsame
      exact absurd (hrest '#' List.mem_cons_self) (by decide)
    · rw [leadingIdentifier_of_isIdentifierText h]
  rw [soleIdentifier, withoutByteOrderMark_of_isIdentifierText h, afterGaps_of_isIdentifierText h]
  simp only [hleading, List.contains_iff_mem]
  split_ifs <;> rfl

end Names

namespace Ident

/-- The name of an identifier that was made for any name is that of a module. -/
theorem isModuleName_of_ofName {name : String} {ident : Ident} (h : Ident.ofName name = .ok ident) :
    IsModuleName ident.name :=
  have hread := isRead_of_ofName h
  ⟨hread.built, hread.formed⟩

theorem safeName_of_isModuleName {name : String} (h : IsModuleName name) :
    safeName name = name := by
  refine safeName_eq_self_iff.2 ⟨fun hdollar => ?_, fun hkeyword =>
    h.formed (List.mem_cons_of_mem _ hkeyword)⟩
  obtain ⟨c, rest, htext, hc, hrest⟩ := exists_cons_of_isIdentifierText h.built
  rw [htext] at hdollar
  rcases List.mem_cons.1 hdollar with rfl | hdollar
  · exact absurd hc (by decide)
  · exact absurd (hrest '$' hdollar) (by decide)

/-- Such a name is that of its own identifier, and no other name is. -/
theorem isModuleName_iff {name : String} :
    IsModuleName name ↔ ∃ ident, Ident.ofName name = .ok ident ∧ ident.name = name := by
  constructor
  · intro h
    have hsole := soleIdentifier_of_isIdentifierText h.built
    rw [String.ofList_toList] at hsole
    -- not `rw [ofName]`: to prove its equation the reading of the name would be evaluated
    delta Ident.ofName
    rw [safeName_of_isModuleName h, hsole]
    split_ifs with hkeyword
    · exact ⟨⟨name, true⟩, rawIdent_eq_ok_iff.2 ⟨rfl, h.built, h.formed⟩, rfl⟩
    · exact ⟨⟨name, false⟩, rfl, rfl⟩
  · rintro ⟨ident, hident, rfl⟩
    exact isModuleName_of_ofName hident

end Ident

end Forwarding
