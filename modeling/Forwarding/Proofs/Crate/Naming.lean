import Forwarding.Crate.Naming
import Forwarding.Proofs.Crate.Ident
import Forwarding.Proofs.Text.Casing
import Mathlib.Data.List.Nodup
import Mathlib.Data.List.Range
import Mathlib.Data.Nat.Find

/-!
# Distinct names

A name that is taken gets the least number that makes it free.

* `numbered_injective`: different numbers make different names;
* `le_length_of_attempts_mem`: no more names are tried in vain than there are taken names;
* `freeName_eq_attempt`: the name that is given is the first of those tried that is not taken;
* `getElem?_freeNames`, `nodup_freeNames`: names made free one after the other, each made free of
  those before it, are distinct;
* `IsCrateName`: the names of methods and parameters in a crate, whose identifiers have just these
  names (`IsCrateName.name_of_ofName`);
* `distinctNames_ok`: the names given to a list of names in ASCII are such names and distinct;
* `crateName_spell`: the name in a crate of a name of several words, whichever way it is written.
-/

namespace Forwarding

open Text

/-! ### Free names -/

theorem toList_numbered (base : String) (number : Nat) :
    (numbered base number).toList = base.toList ++ '_' :: Nat.toDigits 10 number := by
  rw [numbered, String.toList_append, String.toList_append, Nat.toString_eq_repr, Nat.toList_repr]
  simp

theorem numbered_injective (base : String) : Function.Injective (numbered base) := by
  intro m n h
  have hdigits := congrArg String.toList h
  rw [toList_numbered, toList_numbered, List.append_cancel_left_eq, List.cons.injEq] at hdigits
  have hvalue := congrArg (fun digits => Nat.ofDigitChars 10 digits 0) hdigits.2
  simpa using hvalue

/-- The names that are tried for a base one after the other: the base itself, and then the base with
each number. -/
def attempt (base : String) : ℕ → String
  | 0 => base
  | number + 1 => numbered base number

theorem attempt_injective (base : String) : Function.Injective (attempt base) := by
  have hlonger (number : ℕ) : numbered base number ≠ base := by
    intro h
    have hlength := congrArg (fun name => name.toList.length) h
    simp [toList_numbered] at hlength
  intro m n h
  cases m with
  | zero =>
    cases n with
    | zero => rfl
    | succ n => exact absurd h.symm (hlonger n)
  | succ m =>
    cases n with
    | zero => exact absurd h (hlonger m)
    | succ n => exact congrArg (· + 1) (numbered_injective base h)

/-- There are no more attempts in a row that are taken than there are taken names. -/
theorem le_length_of_attempts_mem {taken : List String} {base : String} {n : ℕ}
    (h : ∀ m < n, attempt base m ∈ taken) : n ≤ taken.length := by
  have hnodup : ((List.range n).map (attempt base)).Nodup :=
    List.nodup_range.map (attempt_injective base)
  have hsubset : (List.range n).map (attempt base) ⊆ taken := by
    intro name hname
    obtain ⟨m, hm, rfl⟩ := List.mem_map.1 hname
    exact h m (List.mem_range.1 hm)
  have hlength := hnodup.length_le_of_subset hsubset
  rwa [List.length_map, List.length_range] at hlength

/-- There is a first attempt that is not taken. -/
theorem exists_first_attempt (taken : List String) (base : String) :
    ∃ n, attempt base n ∉ taken ∧ ∀ m < n, attempt base m ∈ taken := by
  have hfree : ∃ n, attempt base n ∉ taken := by
    by_contra hnone
    have hall : ∀ n, attempt base n ∈ taken := by simpa using hnone
    have hbound : taken.length + 1 ≤ taken.length := le_length_of_attempts_mem fun m _ => hall m
    omega
  classical
  exact ⟨Nat.find hfree, Nat.find_spec hfree, fun m hm => not_not.1 (Nat.find_min hfree hm)⟩

theorem freeName_of_not_mem {taken : List String} {base : String} (h : base ∉ taken) :
    freeName taken base = base := by
  simp [freeName, h]

/-- The name that is given is the first attempt that is not taken. -/
theorem freeName_eq_attempt {taken : List String} {base : String} {n : ℕ}
    (hfree : attempt base n ∉ taken) (htaken : ∀ m < n, attempt base m ∈ taken) :
    freeName taken base = attempt base n := by
  cases n with
  | zero => exact freeName_of_not_mem hfree
  | succ number =>
    have hbase : taken.contains base = true := List.contains_iff_mem.2 (htaken 0 number.succ_pos)
    have hbound : number + 1 ≤ taken.length := le_length_of_attempts_mem htaken
    have hfind : ((List.range (taken.length + 1)).find? fun number =>
        !taken.contains (numbered base number)) = some number := by
      rw [List.find?_range_eq_some]
      refine ⟨by simpa [attempt] using hfree, List.mem_range.2 (by omega), fun m hm => ?_⟩
      simpa [attempt] using htaken (m + 1) (by omega)
    rw [freeName, if_pos hbase, hfind]
    rfl

theorem freeName_not_mem (taken : List String) (base : String) : freeName taken base ∉ taken := by
  obtain ⟨n, hfree, htaken⟩ := exists_first_attempt taken base
  rwa [freeName_eq_attempt hfree htaken]

/-- Only a name that is taken is not left as it is. -/
theorem freeName_eq_self_iff {taken : List String} {base : String} :
    freeName taken base = base ↔ base ∉ taken :=
  ⟨fun h => h ▸ freeName_not_mem taken base, freeName_of_not_mem⟩

theorem freeName_cases (taken : List String) (base : String) :
    freeName taken base = base ∨ ∃ number, freeName taken base = numbered base number := by
  obtain ⟨n, hfree, htaken⟩ := exists_first_attempt taken base
  rw [freeName_eq_attempt hfree htaken]
  cases n with
  | zero => exact Or.inl rfl
  | succ number => exact Or.inr ⟨number, rfl⟩

theorem length_freeNames (taken names : List String) :
    (freeNames taken names).length = names.length := by
  induction names generalizing taken with
  | nil => rfl
  | cons base others ih => simp [freeNames, ih]

/-- A name is made free of the taken ones and of those given before it. -/
theorem getElem?_freeNames (taken names : List String) (i : ℕ) :
    (freeNames taken names)[i]? =
      names[i]?.map (freeName (taken ++ (freeNames taken names).take i)) := by
  induction names generalizing taken i with
  | nil => rfl
  | cons base others ih =>
    cases i with
    | zero => simp [freeNames]
    | succ i => simp [freeNames, ih]

/-- Names made free avoid the taken ones. -/
theorem not_mem_of_mem_freeNames {taken names : List String} {name : String}
    (h : name ∈ freeNames taken names) : name ∉ taken := by
  induction names generalizing taken with
  | nil => cases h
  | cons base others ih =>
    rw [freeNames, List.mem_cons] at h
    rcases h with rfl | h
    · exact freeName_not_mem taken base
    · exact fun hmem => ih h (List.mem_append_left _ hmem)

/-- Names made free one after the other are distinct. -/
theorem nodup_freeNames (taken names : List String) : (freeNames taken names).Nodup := by
  induction names generalizing taken with
  | nil => exact List.nodup_nil
  | cons base others ih =>
    rw [freeNames]
    refine List.nodup_cons.2 ⟨fun hmem => ?_, ih _⟩
    exact not_mem_of_mem_freeNames hmem (List.mem_append_right _ List.mem_cons_self)

/-- What holds of the names and is kept by numbers holds of the names made free. -/
theorem forall_mem_freeNames {P : String → Prop} {names : List String}
    (hnames : ∀ name ∈ names, P name) (hnumbered : ∀ name number, P name → P (numbered name number))
    (taken : List String) : ∀ name ∈ freeNames taken names, P name := by
  induction names generalizing taken with
  | nil => exact List.forall_mem_nil _
  | cons base others ih =>
    obtain ⟨hbase, hothers⟩ := List.forall_mem_cons.1 hnames
    rw [freeNames]
    refine List.forall_mem_cons.2 ⟨?_, ih hothers _⟩
    rcases freeName_cases taken base with h | ⟨number, h⟩
    · rwa [h]
    · rw [h]
      exact hnumbered base number hbase

/-! ### Names in a crate -/

/-- The name consists of letters, digits and underscores of ASCII and is no path keyword. -/
structure IsCrateName (name : String) : Prop where
  word : ∀ c ∈ name.toList, isWordChar c = true
  not_keyword : name ∉ pathKeywords

/-- A number at the end keeps a name free of other characters and makes it no path keyword. -/
theorem IsCrateName.numbered {name : String} (h : IsCrateName name) (number : Nat) :
    IsCrateName (numbered name number) where
  word := by
    intro c hc
    rw [toList_numbered, List.mem_append, List.mem_cons] at hc
    rcases hc with hc | rfl | hc
    · exact h.word c hc
    · decide
    · have hdigit := Nat.isDigit_of_mem_toDigits (by decide) (by decide) hc
      simp [isWordChar, Char.isAlphanum, hdigit]
  not_keyword := by
    intro hmem
    have hmark : ∀ keyword ∈ pathKeywords, '_' ∉ keyword.toList := by decide
    exact hmark _ hmem (by rw [toList_numbered]; simp)

/-- The identifier of a name in a crate has this name. -/
theorem IsCrateName.name_of_ofName {name : String} (h : IsCrateName name) {ident : Ident}
    (hident : Ident.ofName name = .ok ident) : ident.name = name := by
  have hname : ∀ c ∈ name.toList, isNameChar c = true := fun c hc =>
    isNameChar_of_isWordChar (h.word c hc)
  rw [Ident.name_of_ofName hname hident, safeName_eq_self h.word h.not_keyword]

/-- What is made of sources under names in a crate, with the identifiers of these, has the names. -/
theorem map_name_of_zip {α β : Type} (ident : β → Ident) {sources : List α} {names : List String}
    {items : List β} (hlength : names.length = sources.length)
    (hnames : ∀ name ∈ names, IsCrateName name)
    (h : List.Forall₂ (fun source item => Ident.ofName source.2 = .ok (ident item))
      (sources.zip names) items) : items.map (fun item => (ident item).name) = names := by
  have hpointwise : List.Forall₂ (fun name item => Ident.ofName name = .ok (ident item)) names
      items := (forall₂_zip_right_iff hlength.symm).1 h
  clear h hlength
  induction hpointwise with
  | nil => rfl
  | cons hident _ ih =>
    obtain ⟨hname, hothers⟩ := List.forall_mem_cons.1 hnames
    rw [List.map_cons, hname.name_of_ofName hident, ih hothers]

/-- The safe form of the snake case of a name in ASCII is a name in a crate. -/
theorem isCrateName_of_crateName {name result : String} (hname : isName name = true)
    (h : crateName name = .ok result) : IsCrateName result := by
  unfold crateName at h
  cases hsnake : snakeCase name with
  | none => simp [hsnake] at h
  | some snake =>
    rw [hsnake] at h
    obtain rfl := Except.ok.inj h
    refine ⟨fun c => isWordChar_safeName fun d hd => ?_, safeName_not_keyword snake⟩
    have hascii : ∀ e ∈ name.toList, e.toNat < 128 := fun e he =>
      toNat_lt_of_isNameChar (isNameChar_of_isName hname he)
    rcases mem_snakeCase hascii hsnake hd with rfl | ⟨e, he, rfl⟩
    · decide
    · exact isNameChar_toLower (isNameChar_of_isName hname he)

/-- Names that do not come apart inside a character have crate names. -/
theorem exists_mapM_crateName {names : List String}
    (h : ∀ name ∈ names, snakeCase name ≠ none) :
    ∃ bases, names.mapM crateName = .ok bases := by
  have hcrate : ∀ name ∈ names, ∃ base, crateName name = .ok base := by
    intro name hname
    obtain ⟨snake, hsnake⟩ := Option.ne_none_iff_exists'.1 (h name hname)
    exact ⟨safeName snake, by rw [crateName, hsnake]⟩
  obtain ⟨bases, hbases⟩ := exists_forall₂ hcrate
  exact ⟨bases, mapM_eq_ok_iff.2 hbases⟩

theorem length_distinctNames {names results : List String} (h : distinctNames names = .ok results) :
    results.length = names.length := by
  obtain ⟨bases, hbases, rfl⟩ := map_eq_ok_iff.1 h
  rw [length_freeNames, (mapM_eq_ok_iff.1 hbases).length_eq]

/-- The names given to names in ASCII are as many, are names in a crate, and are distinct. -/
theorem distinctNames_ok {names results : List String} (hnames : ∀ name ∈ names, isName name = true)
    (h : distinctNames names = .ok results) :
    results.length = names.length ∧ results.Nodup ∧ ∀ result ∈ results, IsCrateName result := by
  have hlength := length_distinctNames h
  obtain ⟨bases, hbases, rfl⟩ := map_eq_ok_iff.1 h
  refine ⟨hlength, nodup_freeNames [] bases, ?_⟩
  refine forall_mem_freeNames (fun base hbase => ?_) (fun _ number h => h.numbered number) []
  obtain ⟨name, hname, hcrate⟩ := exists_of_mem_right (mapM_eq_ok_iff.1 hbases) hbase
  exact isCrateName_of_crateName (hnames name hname) hcrate

/-! ### Names of several words -/

theorem isLower_of_mem_joined {words : List String} (h : IsWordList words) {c : Char}
    (hc : c ∈ ("_".intercalate words).toList) : c = '_' ∨ c.isLower = true := by
  rw [String.toList_intercalate] at hc
  refine (mem_intercalate hc).imp List.mem_singleton.1 ?_
  rintro ⟨letters, hletters, hc⟩
  obtain ⟨word, hword, rfl⟩ := List.mem_map.1 hletters
  exact h.isLower word hword c hc

/-- A name of several words has one name in a crate, whichever way it is written: the words joined
by underscores, with one more underscore at the end of a path keyword. -/
theorem crateName_spell (casing : Casing) {words : List String} (h : IsWordList words) :
    crateName (casing.spell words) =
      .ok (if "_".intercalate words ∈ ["self", "super", "crate"] then "_".intercalate words ++ "_"
        else "_".intercalate words) := by
  have hkeyword : ∀ keyword ∈ ["self", "super", "crate"], safeName keyword = keyword ++ "_" := by
    decide
  rw [crateName, snakeCase_spell casing h]
  refine congrArg Except.ok ?_
  split_ifs with hmem
  · exact hkeyword _ hmem
  · refine safeName_eq_self (fun c hc => ?_) fun hpath => ?_
    · rcases isLower_of_mem_joined h hc with rfl | hlower
      · decide
      · simp [isWordChar, Char.isAlphanum, isAlpha_of_isLower hlower]
    · -- the fourth path keyword has a capital
      have hcapital : "_".intercalate words = "Self" := by
        simp only [pathKeywords, List.mem_cons, List.not_mem_nil, or_false] at hpath hmem
        tauto
      have hS : 'S' ∈ ("_".intercalate words).toList := by
        rw [hcapital]
        decide
      exact absurd (isLower_of_mem_joined h hS) (by decide)

theorem crateName_spell_axis :
    Casing.pascal.spell ["x", "axis"] = "XAxis" ∧ crateName "XAxis" = .ok "x_axis" ∧
      Casing.screamingSnake.spell ["crate"] = "CRATE" ∧ crateName "CRATE" = .ok "crate_" := by
  have haxis : IsWordList ["x", "axis"] := ⟨by decide, by decide, by simp, by decide⟩
  have hcrate : IsWordList ["crate"] := ⟨by decide, by decide, by simp, by decide⟩
  have hpascal : Casing.pascal.spell ["x", "axis"] = "XAxis" := by decide
  have hscreaming : Casing.screamingSnake.spell ["crate"] = "CRATE" := by decide
  refine ⟨hpascal, ?_, hscreaming, ?_⟩
  · rw [← hpascal, crateName_spell .pascal haxis]
    decide
  · rw [← hscreaming, crateName_spell .screamingSnake hcrate]
    decide

end Forwarding
