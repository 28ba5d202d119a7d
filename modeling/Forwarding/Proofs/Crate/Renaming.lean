import Forwarding.Proofs.Crate.TraitImpl

/-!
# Which names of a crate get a number

A name gets a number if its crate name is taken by one of the names before it.  That is so if an
earlier name has the same crate name, but also if an earlier name got just this crate name when it
was renamed: of `put`, `put` and `put0`, with the crate names `put`, `put` and `put_0`, the second
becomes `put_0` and the third `put_0_0`.

* `IsTakenAt`: a crate name that is a repeat, or that an earlier name was renamed to;
* `renamesTaken_freeNames`: the crate names that are taken are renamed, and no others;
* `renamed_without_repeat`: a name is renamed that repeats no other;
* `distinctNames_renamesTaken`: the names of a list, and of the methods and parameters of a class.
-/

namespace Forwarding

/-- The crate name in the place `i` stands in an earlier place too, or the name in an earlier place
was renamed to it. -/
def IsTakenAt (bases results : List String) (i : ℕ) : Prop :=
  ∃ j < i, bases[j]? = bases[i]? ∨ results[j]? ≠ bases[j]? ∧ results[j]? = bases[i]?

/-- The names `results` are given to the crate names `bases`.  Those which are taken are renamed, by
a number, and no others. -/
structure RenamesTaken (bases results : List String) : Prop where
  length_eq : results.length = bases.length
  renamed_iff : ∀ i < bases.length, results[i]? ≠ bases[i]? ↔ IsTakenAt bases results i
  renamed_numbered : ∀ (i : ℕ) (base result : String), bases[i]? = some base →
    results[i]? = some result → result ≠ base → ∃ number, result = numbered base number

theorem mem_take_iff {names : List String} {i : ℕ} {name : String} :
    name ∈ names.take i ↔ ∃ j < i, names[j]? = some name := by
  rw [List.mem_iff_getElem?]
  refine exists_congr fun j => ?_
  rw [List.getElem?_take]
  by_cases hj : j < i <;> simp [hj]

/-- A crate name in an earlier place was given by then, there or before. -/
theorem mem_take_freeNames {bases : List String} {i j : ℕ} {base : String} (hj : j < i)
    (hbase : bases[j]? = some base) : base ∈ (freeNames [] bases).take i := by
  have hresult := getElem?_freeNames [] bases j
  rw [hbase, List.nil_append, Option.map_some] at hresult
  by_cases hgiven : base ∈ (freeNames [] bases).take j
  · exact List.take_subset_take_left _ hj.le hgiven
  · rw [freeName_of_not_mem hgiven] at hresult
    exact mem_take_iff.2 ⟨j, hj, hresult⟩

theorem isTakenAt_freeNames_iff {bases : List String} {i : ℕ} {base : String}
    (hbase : bases[i]? = some base) :
    IsTakenAt bases (freeNames [] bases) i ↔ base ∈ (freeNames [] bases).take i := by
  constructor
  · rintro ⟨j, hj, hsame | ⟨-, hrenamed⟩⟩
    · exact mem_take_freeNames hj (hsame.trans hbase)
    · exact mem_take_iff.2 ⟨j, hj, hrenamed.trans hbase⟩
  · intro hgiven
    obtain ⟨j, hj, hresult⟩ := mem_take_iff.1 hgiven
    refine ⟨j, hj, ?_⟩
    by_cases hsame : bases[j]? = some base
    · exact Or.inl (hsame.trans hbase.symm)
    · refine Or.inr ⟨?_, hresult.trans hbase.symm⟩
      rw [hresult]
      exact Ne.symm hsame

theorem renamesTaken_freeNames (bases : List String) :
    RenamesTaken bases (freeNames [] bases) where
  length_eq := length_freeNames [] bases
  renamed_iff := by
    intro i hi
    have hbase : bases[i]? = some bases[i] := List.getElem?_eq_getElem hi
    rw [isTakenAt_freeNames_iff hbase, getElem?_freeNames, hbase, List.nil_append, Option.map_some,
      ne_eq, Option.some_inj, freeName_eq_self_iff, not_not]
  renamed_numbered := by
    intro i base result hbase hresult hne
    rw [getElem?_freeNames, hbase, Option.map_some] at hresult
    obtain rfl := Option.some.inj hresult
    exact (freeName_cases _ base).resolve_left hne

/-- The names of two overloads, and of a method whose name in snake case is the second of them with
its number. -/
def clashingNames : List String := ["put", "put", "put0"]

theorem mapM_crateName_clashingNames :
    clashingNames.mapM crateName = .ok ["put", "put", "put_0"] :=
  toOption_eq_some_iff.1 (by decide +kernel)

theorem distinctNames_clashingNames :
    distinctNames clashingNames = .ok ["put", "put_0", "put_0_0"] := by
  rw [distinctNames, mapM_crateName_clashingNames]
  exact toOption_eq_some_iff.1 (by decide +kernel)

/-- The third name is renamed, though no name before it has its crate name. -/
theorem renamed_without_repeat :
    ¬ ∀ names bases results : List String, names.mapM crateName = .ok bases →
      distinctNames names = .ok results → ∀ (i : ℕ) (base result : String),
        bases[i]? = some base → results[i]? = some result → result ≠ base →
          ∃ j < i, bases[j]? = some base := by
  intro hrepeats
  obtain ⟨j, hj, hbase⟩ := hrepeats clashingNames _ _ mapM_crateName_clashingNames
    distinctNames_clashingNames 2 "put_0" "put_0_0" rfl rfl (by decide)
  have hearlier : j = 0 ∨ j = 1 := by omega
  rcases hearlier with rfl | rfl
  · exact absurd hbase (by decide)
  · exact absurd hbase (by decide)

/-! ### Methods and parameters -/

/-- The names have the identifiers `idents`, and one whose crate name is not taken has the
identifier of its crate name. -/
def KeepsFree (names : List String) (idents : List Ident) : Prop :=
  ∃ bases results, names.mapM crateName = .ok bases ∧ distinctNames names = .ok results ∧
    List.Forall₂ (fun result ident => Ident.ofName result = .ok ident) results idents ∧
    ∀ (i : ℕ) (name : String) (ident : Ident), names[i]? = some name → idents[i]? = some ident →
      ¬ IsTakenAt bases results i → Ident.ofMemberName name = .ok ident

theorem keepsFree_of_distinctNames {names results : List String} {idents : List Ident}
    (h : distinctNames names = .ok results)
    (hidents : List.Forall₂ (fun result ident => Ident.ofName result = .ok ident) results idents) :
    KeepsFree names idents := by
  obtain ⟨bases, hbases, rfl⟩ := map_eq_ok_iff.1 h
  refine ⟨bases, _, hbases, h, hidents, fun i name ident hname hident hfree => ?_⟩
  obtain ⟨base, hbase, hcrate⟩ := exists_getElem?_left (mapM_eq_ok_iff.1 hbases) hname
  have hi : i < bases.length := (List.getElem?_eq_some_iff.1 hbase).1
  have hkept : (freeNames [] bases)[i]? = bases[i]? := by
    by_contra hne
    exact hfree (((renamesTaken_freeNames bases).renamed_iff i hi).1 hne)
  obtain ⟨given, hgiven, hofName⟩ := exists_getElem?_left hidents.flip hident
  rw [hkept, hbase] at hgiven
  obtain rfl := Option.some.inj hgiven
  rw [Ident.ofMemberName]
  exact bind_eq_ok_iff.2 ⟨base, hcrate, hofName⟩

/-- The same for what is made of sources under the names given to them. -/
theorem keepsFree_of_zip {α β : Type} (name : α → String) (ident : β → Ident) {sources : List α}
    {names : List String} {items : List β} (h : distinctNames (sources.map name) = .ok names)
    (hitems : List.Forall₂ (fun source item => Ident.ofName source.2 = .ok (ident item))
      (sources.zip names) items) : KeepsFree (sources.map name) (items.map ident) := by
  have hlength := length_distinctNames h
  rw [List.length_map] at hlength
  refine keepsFree_of_distinctNames h (List.forall₂_map_right_iff.2 ?_)
  exact (forall₂_zip_right_iff hlength.symm).1 hitems

theorem FnItem.keepsFree_of_ofMethod {trait : CratePath} {method : Method} {name : String}
    {function : FnItem} (h : FnItem.ofMethod trait method name = .ok function) :
    KeepsFree (method.parameters.map (·.name)) (function.parameters.map (·.name)) := by
  obtain ⟨names, hnames, -, hparameters, -⟩ := ofMethod_eq_ok h
  refine keepsFree_of_zip Parameter.name Binding.name hnames (hparameters.imp ?_)
  exact fun parameter binding hbinding => (Parameter.bindingAs_eq_ok_iff.1 hbinding).1

theorem Forwarder.keepsFree_of_traitImpl {unit : Forwarder} {item : TraitImpl}
    (h : unit.traitImpl.2 = .ok item) :
    KeepsFree (unit.methods.map (·.name)) (item.functions.map (·.name)) ∧
      List.Forall₂ (fun method function =>
        KeepsFree (method.parameters.map (·.name)) (function.parameters.map (·.name)))
        unit.methods item.functions := by
  obtain ⟨-, -, -, -, -, names, hnames, hfunctions⟩ := traitImpl_eq_ok h
  have hitems := functionItems_eq_ok_iff.1 hfunctions
  constructor
  · refine keepsFree_of_zip Method.name FnItem.name hnames (hitems.imp ?_)
    intro method function hfunction
    obtain ⟨-, -, hident, -⟩ := FnItem.ofMethod_eq_ok hfunction
    exact hident
  · have hlength := length_distinctNames hnames
    rw [List.length_map] at hlength
    rw [← forall₂_zip_left_iff hlength.symm]
    exact hitems.imp fun method function hfunction => FnItem.keepsFree_of_ofMethod hfunction

/-- **A name of a crate is renamed exactly if its crate name is taken by a name before it**, by one
of the same crate name or by one that was renamed to it.  So a method or parameter whose crate name
is not taken keeps it. -/
theorem distinctNames_renamesTaken :
    (∀ names : List String, (∀ name ∈ names, Text.snakeCase name ≠ none) →
      ∃ bases results, names.mapM crateName = .ok bases ∧ distinctNames names = .ok results ∧
        RenamesTaken bases results) ∧
      ∀ (unit : Forwarder) (item : TraitImpl), unit.traitImpl.2 = .ok item →
        KeepsFree (unit.methods.map (·.name)) (item.functions.map (·.name)) ∧
          List.Forall₂ (fun method function =>
            KeepsFree (method.parameters.map (·.name)) (function.parameters.map (·.name)))
            unit.methods item.functions := by
  refine ⟨fun names hnames => ?_, fun unit item => Forwarder.keepsFree_of_traitImpl⟩
  obtain ⟨bases, hmapM⟩ := exists_mapM_crateName hnames
  have hresults : distinctNames names = .ok (freeNames [] bases) := by
    rw [distinctNames, hmapM]
    rfl
  exact ⟨bases, freeNames [] bases, hmapM, hresults, renamesTaken_freeNames bases⟩

theorem distinctNames_renamesTaken_clashing :
    (∀ name ∈ clashingNames, Text.snakeCase name ≠ none) ∧
      IsTakenAt ["put", "put", "put_0"] ["put", "put_0", "put_0_0"] 1 ∧
      IsTakenAt ["put", "put", "put_0"] ["put", "put_0", "put_0_0"] 2 ∧
      ¬ IsTakenAt ["put", "put", "put_0"] ["put", "put_0", "put_0_0"] 0 ∧
      Interface.directoryForwarder.traitImpl.2 = .ok Interface.directoryImpl ∧
      KeepsFree ["put", "put"] [⟨"put", false⟩, ⟨"put_0", false⟩] := by
  obtain ⟨hnames, hclasses⟩ := distinctNames_renamesTaken
  have hsnake : ∀ name ∈ clashingNames, Text.snakeCase name ≠ none := by decide +kernel
  obtain ⟨bases, results, hbases, hresults, hrenames⟩ := hnames clashingNames hsnake
  obtain rfl := Except.ok.inj (hbases.symm.trans mapM_crateName_clashingNames)
  obtain rfl := Except.ok.inj (hresults.symm.trans distinctNames_clashingNames)
  have hitem : Interface.directoryForwarder.traitImpl.2 = .ok Interface.directoryImpl :=
    Interface.traitImpl_directoryForwarder
  obtain ⟨hmethods, -⟩ := hclasses _ _ hitem
  refine ⟨hsnake, (hrenames.renamed_iff 1 (by decide)).1 (by decide),
    (hrenames.renamed_iff 2 (by decide)).1 (by decide), ?_, hitem, hmethods⟩
  rw [← hrenames.renamed_iff 0 (by decide)]
  decide

end Forwarding
