import Forwarding.Proofs.CompilationUnit.Resolution

/-!
# The import lines of a Java compilation unit

A class is imported where it is written by its simple name and a reader could not find it
otherwise.  So no import line can be left out, and none imports what is visible anyway.

* `importsOf_erase`: what is imported when one line is left out;
* `Forwarder.Dotless.resolve_erase_ne`: without its import line a class is not found;
* `Forwarder.NeedsImport`: why a class is imported;
* `Forwarder.imports_minimal`: the import lines of a class are ascending, import different simple
  names, and are all needed.
-/

namespace Forwarding

/-- Without one of its import lines a text imports one name less. -/
theorem importsOf_erase {lines : List String} {imported : String}
    (h : imported ∈ importsOf lines) :
    (importsOf lines).Perm
      (imported :: importsOf (lines.erase ("import " ++ imported ++ ";"))) := by
  obtain ⟨line, hline, himports⟩ := List.mem_filterMap.1 h
  obtain rfl := eq_import_of_importOf? himports
  have hperm := (List.perm_cons_erase hline).filterMap importOf?
  rwa [List.filterMap_cons_some himports] at hperm

namespace Forwarder

/-- The class is of another package and has an import line, without which its simple name, which is
written somewhere after the import lines, does not denote it. -/
structure NeedsImport (unit : Forwarder) (name : ClassName) : Prop where
  simpleName_ne : name.simpleName ≠ unit.name.simpleName
  package_ne : name.package ≠ "" ∧ name.package ≠ "java.lang" ∧ name.package ≠ unit.name.package
  written : ∃ before after, before ++ .mention name :: after ∈ unit.template ∧
    spellLine (Scope.of unit).className before ++ name.simpleName ++
      spellLine (Scope.of unit).className after ∈ unit.javaLines
  denoted : unit.resolve unit.javaLines name.simpleName = some name
  lost : unit.resolve (unit.javaLines.erase ("import " ++ name.qualified ++ ";"))
    name.simpleName ≠ some name

/-- A class that is mentioned is written in some line after the import lines. -/
theorem exists_line_of_mention {unit : Forwarder} {name : ClassName}
    (hname : name ∈ unit.references) :
    ∃ before after, before ++ .mention name :: after ∈ unit.template ∧
      spellLine (Scope.of unit).className before ++ (Scope.of unit).className name ++
        spellLine (Scope.of unit).className after ∈ unit.javaLines := by
  rw [← unit.mentions_template] at hname
  obtain ⟨line, hline, hmention⟩ := mem_mentions_iff.1 hname
  obtain ⟨before, after, rfl⟩ := List.append_of_mem hmention
  refine ⟨before, after, hline, ?_⟩
  have hprinted := List.mem_map_of_mem (f := spellLine (Scope.of unit).className) hline
  rw [spellLine_append, spellLine_cons, ← String.append_assoc] at hprinted
  rw [javaLines_eq]
  exact List.mem_append_right _ hprinted

namespace Dotless

variable {unit : Forwarder} (h : unit.Dotless)

include h

/-- Without its import line the simple name of an imported class is not read as this class. -/
theorem resolve_erase_ne {name : ClassName} (hname : name ∈ unit.references)
    (huncontested : Scope.contested (unit.name :: unit.references) name.simpleName = false)
    (hvisible : Scope.visible unit.name.package name = false) :
    unit.resolve (unit.javaLines.erase ("import " ++ name.qualified ++ ";")) name.simpleName ≠
      some name := by
  have hdot := h _ (List.mem_cons_of_mem _ hname)
  obtain ⟨hdefault, hlang, hown⟩ := Scope.visible_eq_false_iff.1 hvisible
  have himported : name.qualified ∈ importsOf unit.javaLines := by
    rw [importsOf_javaLines]
    exact Scope.mem_imports_iff.2 ⟨name, hname, huncontested, hvisible, rfl⟩
  -- there was one line for the simple name, so none is left
  have hnone : (importsOf (unit.javaLines.erase ("import " ++ name.qualified ++ ";"))).filter
      (importsAs name.simpleName) = [] := by
    have hperm := (importsOf_erase himported).filter (importsAs name.simpleName)
    rw [importsOf_javaLines, h.filter_imports_of_imported hname huncontested hvisible,
      List.filter_cons_of_pos ((importsAs_iff hdot hdot hdefault).2 rfl)] at hperm
    exact (List.Perm.cons_inv hperm).nil_eq.symm
  rw [resolve, if_neg hdot, if_neg (h.simpleName_ne_of_imported hname huncontested hvisible), hnone]
  simp only
  split_ifs
  · intro hsame
    exact hown (congrArg ClassName.package (Option.some.inj hsame)).symm
  · intro hsame
    exact hlang (congrArg ClassName.package (Option.some.inj hsame)).symm

/-- A class that is imported has to be. -/
theorem needsImport {name : ClassName} (hname : name ∈ unit.references)
    (huncontested : Scope.contested (unit.name :: unit.references) name.simpleName = false)
    (hvisible : Scope.visible unit.name.package name = false) : unit.NeedsImport name where
  simpleName_ne := h.simpleName_ne_of_imported hname huncontested hvisible
  package_ne := Scope.visible_eq_false_iff.1 hvisible
  written := by
    obtain ⟨before, after, htemplate, hline⟩ := exists_line_of_mention hname
    rw [h.className_eq hname, huncontested, if_neg (by decide)] at hline
    exact ⟨before, after, htemplate, hline⟩
  denoted := h.resolve_imported hname huncontested hvisible
  lost := h.resolve_erase_ne hname huncontested hvisible

end Dotless

/-- **The import lines of a class are all needed.**  They are strictly ascending, and no two of them
are for one simple name.  Each of them is for a class of another package that is written by its
simple name in the text and would not be found by it without the line.  The lines that are printed
are those of the text, unless a name has a line feed. -/
theorem imports_minimal (unit : Forwarder) (h : unit.Dotless) :
    (unit.IsFeedless → linesOf unit.javaSource = unit.javaLines) ∧
      Ascends compare (importsOf unit.javaLines) ∧
      ((importsOf unit.javaLines).map fun imported =>
        (ClassName.ofQualified imported).simpleName).Nodup ∧
      ∀ imported ∈ importsOf unit.javaLines,
        (ClassName.ofQualified imported).qualified = imported ∧
          unit.NeedsImport (ClassName.ofQualified imported) := by
  rw [importsOf_javaLines]
  have himports : ∀ imported ∈ (Scope.of unit).imports, ∃ name ∈ unit.references,
      Scope.contested (unit.name :: unit.references) name.simpleName = false ∧
        Scope.visible unit.name.package name = false ∧ name.qualified = imported ∧
          ClassName.ofQualified imported = name := by
    intro imported himported
    obtain ⟨name, hname, huncontested, hvisible, rfl⟩ := Scope.mem_imports_iff.1 himported
    exact ⟨name, hname, huncontested, hvisible, rfl,
      ClassName.ofQualified_qualified (h _ (List.mem_cons_of_mem _ hname))⟩
  refine ⟨linesOf_javaSource, ascends_ascending _, ?_, fun imported himported => ?_⟩
  · refine (List.nodup_map_iff_inj_on (nodup_ascending _)).2 fun a ha b hb hsimple => ?_
    obtain ⟨first, hfirst, -, -, rfl, hcut⟩ := himports a ha
    obtain ⟨second, hsecond, huncontested, -, rfl, hcut'⟩ := himports b hb
    rw [hcut, hcut'] at hsimple
    rw [h.eq_of_uncontested (List.mem_cons_of_mem _ hfirst) (List.mem_cons_of_mem _ hsecond)
      hsimple huncontested]
  · obtain ⟨name, hname, huncontested, hvisible, hqualified, hcut⟩ := himports imported himported
    rw [hcut]
    exact ⟨hqualified, h.needsImport hname huncontested hvisible⟩

theorem imports_minimal_store :
    importsOf store.javaLines = ["com.example.impl.DefaultStore", "java.util.List"] ∧
      store.Dotless ∧ linesOf store.javaSource = store.javaLines ∧
      Ascends compare (importsOf store.javaLines) ∧
      ((importsOf store.javaLines).map fun imported =>
        (ClassName.ofQualified imported).simpleName).Nodup ∧
      ∀ imported ∈ importsOf store.javaLines,
        store.NeedsImport (ClassName.ofQualified imported) := by
  have hdotless : store.Dotless := by
    unfold Dotless
    decide
  have himports :
      importsOf store.javaLines = ["com.example.impl.DefaultStore", "java.util.List"] := by
    rw [importsOf_javaLines]
    decide
  obtain ⟨hlines, hascends, hnodup, hneeds⟩ := imports_minimal store hdotless
  exact ⟨himports, hdotless, hlines isFeedless_store, hascends, hnodup,
    fun imported himported => (hneeds imported himported).2⟩

end Forwarder

end Forwarding
