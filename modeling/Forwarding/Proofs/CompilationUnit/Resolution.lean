import Forwarding.Proofs.CompilationUnit.Lines
import Mathlib.Data.List.Nodup

/-!
# What the class names in a Java compilation unit denote

A class is written by its simple name or by its qualified name.  A reader finds the class that a
text denotes from the class that is declared, the import lines, the package, and `java.lang`.

* `importOf?`, `Forwarder.resolve`: how the text of a class is read;
* `Forwarder.WellNamed`: names that can be told apart at all;
* `Forwarder.importsOf_javaLines`: the import lines among the printed lines;
* `Forwarder.resolve_className`: a reference is read as the class that it refers to;
* `Forwarder.mentions_resolve`: every mention in the printed text is read as its class.
-/

namespace Forwarding

/-! ### Reading class names -/

/-- The name that a line imports, if it is an import line. -/
def importOf? (line : String) : Option String :=
  if "import ".toList.isPrefixOf line.toList then
    (Text.beforeSuffix [';'] (line.toList.drop 7)).map String.ofList
  else none

/-- The names that are imported by lines, in order. -/
def importsOf (lines : List String) : List String := lines.filterMap importOf?

/-- Whether an imported name ends in a dot and the simple name. -/
def importsAs (simpleName imported : String) : Bool :=
  ('.' :: simpleName.toList).isSuffixOf imported.toList

namespace Forwarder

/-- The class that a text denotes beside the given lines.  A text with a dot denotes itself.  Any
other denotes the declared class of that simple name, or else the one imported by that simple
name, or else the class of the unit's own package if it is referred to, or else the class of
`java.lang`.  If two import lines end in the simple name, it denotes nothing. -/
def resolve (unit : Forwarder) (lines : List String) (text : String) : Option ClassName :=
  if '.' ∈ text.toList then some (ClassName.ofQualified text)
  else if text = unit.name.simpleName then some unit.name
  else
    match (importsOf lines).filter (importsAs text) with
    | [imported] => some (ClassName.ofQualified imported)
    | _ :: _ :: _ => none
    | [] =>
        if ⟨unit.name.package, text⟩ ∈ unit.references then some ⟨unit.name.package, text⟩
        else some ⟨"java.lang", text⟩

/-- No simple name of the class and its references has a dot. -/
def Dotless (unit : Forwarder) : Prop :=
  ∀ name ∈ unit.name :: unit.references, '.' ∉ name.simpleName.toList

/-- The class and its references have simple names that are names of classes, and the default
package is referred to from the default package only. -/
structure WellNamed (unit : Forwarder) : Prop where
  ne_empty : ∀ name ∈ unit.name :: unit.references, name.simpleName ≠ ""
  no_dot : ∀ name ∈ unit.name :: unit.references, '.' ∉ name.simpleName.toList
  not_builtin : ∀ name ∈ unit.name :: unit.references,
    name.simpleName ∉ "void" :: TypeRef.primitives
  default_package : ∀ name ∈ unit.references, name.package = "" → unit.name.package = ""

end Forwarder

/-! ### Import lines -/

theorem importOf?_import (name : String) : importOf? ("import " ++ name ++ ";") = some name := by
  have htext : ("import " ++ name ++ ";").toList = "import ".toList ++ (name.toList ++ [';']) := by
    simp
  have hprefix : "import ".toList.isPrefixOf ("import ".toList ++ (name.toList ++ [';'])) = true :=
    List.isPrefixOf_iff_prefix.2 (List.prefix_append _ _)
  have hname : Text.beforeSuffix [';'] (name.toList ++ [';']) = some name.toList :=
    Text.beforeSuffix_eq_some_iff.2 rfl
  rw [importOf?, htext, if_pos hprefix, show 7 = "import ".toList.length from rfl,
    List.drop_left, hname, Option.map_some, String.ofList_toList]

/-- An import line is settled by the name that it imports. -/
theorem eq_import_of_importOf? {line name : String} (h : importOf? line = some name) :
    line = "import " ++ name ++ ";" := by
  unfold importOf? at h
  split_ifs at h with hprefix
  obtain ⟨rest, hrest⟩ := List.isPrefixOf_iff_prefix.1 hprefix
  obtain ⟨start, hstart, rfl⟩ := Option.map_eq_some_iff.1 h
  have hdrop : line.toList.drop 7 = rest := by
    rw [← hrest, show 7 = "import ".toList.length from rfl, List.drop_left]
  rw [hdrop, Text.beforeSuffix_eq_some_iff] at hstart
  rw [← String.toList_inj, ← hrest, hstart]
  simp

theorem importOf?_eq_none {line : String} (h : line.toList.head? ≠ some 'i') :
    importOf? line = none := by
  refine if_neg fun hprefix => h ?_
  obtain ⟨rest, hrest⟩ := List.isPrefixOf_iff_prefix.1 hprefix
  rw [← hrest]
  rfl

/-- The lines of which none is an import line. -/
def NoImports (lines : List String) : Prop := ∀ line ∈ lines, line.toList.head? ≠ some 'i'

theorem importsOf_eq_nil {lines : List String} (h : NoImports lines) : importsOf lines = [] :=
  List.filterMap_eq_nil_iff.2 fun line hline => importOf?_eq_none (h line hline)

theorem importsOf_importLines (scope : Scope) : importsOf scope.importLines = scope.imports := by
  unfold Scope.importLines
  split_ifs with h
  · rw [h]
    rfl
  · have himports : importsOf (scope.imports.map fun name => "import " ++ name ++ ";") =
        scope.imports := by
      rw [importsOf, List.filterMap_map]
      conv_rhs => rw [← List.filterMap_some (l := scope.imports)]
      congr 1
      funext name
      exact importOf?_import name
    rw [importsOf, List.filterMap_append, ← importsOf, himports]
    simp [importOf?_eq_none]

theorem NoImports.append {first second : List String} (hfirst : NoImports first)
    (hsecond : NoImports second) : NoImports (first ++ second) :=
  List.forall_mem_append.2 ⟨hfirst, hsecond⟩

theorem NoImports.cons {line : String} {lines : List String} (hline : line.toList.head? ≠ some 'i')
    (hlines : NoImports lines) : NoImports (line :: lines) :=
  List.forall_mem_cons.2 ⟨hline, hlines⟩

theorem noImports_nil : NoImports [] := List.forall_mem_nil _

theorem head?_indented_succ (steps : Nat) (line : String) :
    (indented (steps + 1) line).toList.head? = some ' ' := by
  rw [indented, String.toList_append, String.toList_ofList, show 4 * (steps + 1) = 4 * steps + 3 + 1
    by omega, List.replicate_succ]
  rfl

theorem head?_append {first second : String} {c : Char} (h : first.toList.head? = some c) :
    (first ++ second).toList.head? = some c := by
  rw [String.toList_append, List.head?_append, h, Option.some_or]

/-- White space at the end is cut off no further than the last other character. -/
theorem trimEnd_append {c : Char} (h : Text.isBlank c = false) (before after : List Char) :
    ∃ rest, Text.trimEnd (before ++ c :: after) = before ++ c :: rest := by
  unfold Text.trimEnd
  rw [List.reverse_append, List.reverse_cons, List.append_assoc, List.dropWhile_append]
  split_ifs
  · exact ⟨[], by simp [h]⟩
  · exact ⟨(after.reverse.dropWhile Text.isBlank).reverse, by simp⟩

theorem noImports_commentLines (doc : Option String) : NoImports (commentLines doc) := by
  cases doc with
  | none => exact noImports_nil
  | some text =>
    refine .cons (by decide) (.append ?_ (.cons (by decide) noImports_nil))
    intro line hline
    obtain ⟨content, -, rfl⟩ := List.mem_map.1 hline
    obtain ⟨rest, hrest⟩ := trimEnd_append (c := '*') (by decide) [' '] (' ' :: content)
    have htext : " * ".toList ++ content = [' '] ++ '*' :: ' ' :: content := rfl
    rw [commentLine, htext, hrest, String.toList_ofList]
    simp

theorem noImports_bodyLines (head : String) (body : List Statement) :
    NoImports (bodyLines head body) := by
  intro line hline
  have hindented : ∃ steps text, line = indented (steps + 1) text := by
    simp only [bodyLines, List.mem_append, List.mem_cons, List.mem_map, List.not_mem_nil,
      or_false] at hline
    rcases hline with (rfl | ⟨statement, -, rfl⟩) | rfl
    · exact ⟨0, _, rfl⟩
    · exact ⟨1, _, rfl⟩
    · exact ⟨0, _, rfl⟩
  obtain ⟨steps, text, rfl⟩ := hindented
  rw [head?_indented_succ]
  decide

theorem noImports_method (scope : Scope) (method : Method) :
    NoImports (method.javaLines scope) := by
  refine .append ?_ (noImports_bodyLines _ _)
  split_ifs
  · exact .cons (by rw [head?_indented_succ]; decide) noImports_nil
  · exact noImports_nil

theorem noImports_packageLines (package : String) : NoImports (packageLines package) := by
  unfold packageLines
  split_ifs
  · exact noImports_nil
  · refine .cons ?_ (.cons (by decide) noImports_nil)
    have hhead : ("package " ++ package ++ ";").toList.head? = some 'p' :=
      head?_append (head?_append (by decide))
    rw [hhead]
    decide

theorem head?_headLine (scope : Scope) (unit : Forwarder) :
    (unit.headLine scope).toList.head? = some 'p' := by
  have hkeyword : unit.modifier.keyword.toList.head? = some 'p' := by
    cases unit.modifier <;> decide
  exact head?_append (head?_append (head?_append (head?_append (head?_append hkeyword))))

/-- After the import lines there are no others. -/
theorem Forwarder.exists_noImports (unit : Forwarder) :
    ∃ rest, NoImports rest ∧ unit.javaLines =
      packageLines unit.name.package ++ (Scope.of unit).importLines ++ rest := by
  let scope := Scope.of unit
  have hhead : NoImports [unit.headLine scope] :=
    .cons (by rw [head?_headLine]; decide) noImports_nil
  have hfields : NoImports (unit.fields.map (·.javaLine scope)) := by
    intro line hline
    obtain ⟨field, -, rfl⟩ := List.mem_map.1 hline
    rw [Field.javaLine, head?_indented_succ]
    decide
  have hconstructor : NoImports ("" :: unit.constructor.javaLines scope unit.name.simpleName) :=
    .cons (by decide) (noImports_bodyLines _ _)
  have hmethods : NoImports (unit.methods.flatMap fun method => "" :: method.javaLines scope) := by
    intro line hline
    obtain ⟨method, -, hline⟩ := List.mem_flatMap.1 hline
    exact NoImports.cons (by decide) (noImports_method _ method) line hline
  have hend : NoImports ["\x7d"] := .cons (by decide) noImports_nil
  refine ⟨_, (noImports_commentLines unit.doc).append (hhead.append (hfields.append
    (hconstructor.append (hmethods.append hend)))), ?_⟩
  simp only [javaLines, List.append_assoc, scope]

/-- The import lines among the printed lines are those of the scope. -/
theorem Forwarder.importsOf_javaLines (unit : Forwarder) :
    importsOf unit.javaLines = (Scope.of unit).imports := by
  obtain ⟨rest, hrest, hlines⟩ := unit.exists_noImports
  rw [hlines, importsOf, List.filterMap_append, List.filterMap_append, ← importsOf, ← importsOf,
    ← importsOf, importsOf_eq_nil (noImports_packageLines _), importsOf_importLines,
    importsOf_eq_nil hrest, List.nil_append, List.append_nil]

/-! ### The scope -/

theorem importsAs_iff {simpleName : String} (hsimple : '.' ∉ simpleName.toList) {name : ClassName}
    (hname : '.' ∉ name.simpleName.toList) (hpackage : name.package ≠ "") :
    importsAs simpleName name.qualified = true ↔ name.simpleName = simpleName := by
  rw [importsAs, List.isSuffixOf_iff_suffix, ClassName.toList_qualified hpackage]
  constructor
  · -- the last dot is the one before the simple name, in both readings of the text
    rintro ⟨start, hstart⟩
    have hcut := Text.splitLast_append start hsimple
    rw [hstart, Text.splitLast_append name.package.toList hname] at hcut
    simp only [Option.some.injEq, Prod.mk.injEq] at hcut
    exact String.toList_inj.1 hcut.2
  · rintro rfl
    exact List.suffix_append _ _

namespace Scope

theorem contested_eq_false_iff {claimants : List ClassName} {simpleName : String} :
    contested claimants simpleName = false ↔
      ∀ a ∈ claimants, ∀ b ∈ claimants, a.simpleName = simpleName → b.simpleName = simpleName →
        a.qualified = b.qualified := by
  have hclaim (qualified : String) :
      qualified ∈ (claimants.filter (·.simpleName == simpleName)).map (·.qualified) ↔
        ∃ name ∈ claimants, name.simpleName = simpleName ∧ name.qualified = qualified := by
    simp [and_assoc]
  unfold contested
  constructor
  · intro h a ha b hb hsa hsb
    by_contra hne
    rw [← Bool.not_eq_true, List.any_eq_true] at h
    refine h ⟨_, (hclaim _).2 ⟨a, ha, hsa, rfl⟩, ?_⟩
    exact List.any_eq_true.2 ⟨_, (hclaim _).2 ⟨b, hb, hsb, rfl⟩, bne_iff_ne.2 hne⟩
  · intro h
    rw [← Bool.not_eq_true, List.any_eq_true]
    rintro ⟨first, hfirst, hany⟩
    obtain ⟨second, hsecond, hne⟩ := List.any_eq_true.1 hany
    obtain ⟨a, ha, hsa, rfl⟩ := (hclaim first).1 hfirst
    obtain ⟨b, hb, hsb, rfl⟩ := (hclaim second).1 hsecond
    exact bne_iff_ne.1 hne (h a ha b hb hsa hsb)

theorem mem_short_iff {unit : Forwarder} {qualified : String} :
    qualified ∈ (Scope.of unit).short ↔
      ∃ name ∈ unit.references, contested (unit.name :: unit.references) name.simpleName = false ∧
        name.qualified = qualified := by
  simp only [Scope.of, List.mem_map, List.mem_filter, Bool.not_eq_true', and_assoc]

theorem visible_iff {package : String} {name : ClassName} :
    visible package name = true ↔
      name.package = "" ∨ name.package = "java.lang" ∨ name.package = package := by
  simp [visible, or_assoc]

theorem visible_eq_false_iff {package : String} {name : ClassName} :
    visible package name = false ↔
      name.package ≠ "" ∧ name.package ≠ "java.lang" ∧ name.package ≠ package := by
  simp [visible, and_assoc]

end Scope

namespace Forwarder.Dotless

variable {unit : Forwarder} (h : unit.Dotless)

include h

/-- Classes of one simple name are one class if the name is not contested. -/
theorem eq_of_uncontested {a b : ClassName} (ha : a ∈ unit.name :: unit.references)
    (hb : b ∈ unit.name :: unit.references) (hsimple : a.simpleName = b.simpleName)
    (huncontested : Scope.contested (unit.name :: unit.references) b.simpleName = false) :
    a = b := by
  have hqualified := Scope.contested_eq_false_iff.1 huncontested a ha b hb hsimple rfl
  exact (ClassName.qualified_inj (h a ha) (h b hb)).1 hqualified

/-- A reference is written short exactly if its simple name is not contested. -/
theorem className_eq {name : ClassName} (hname : name ∈ unit.references) :
    (Scope.of unit).className name =
      if Scope.contested (unit.name :: unit.references) name.simpleName then name.qualified
      else name.simpleName := by
  have hshort : name.qualified ∈ (Scope.of unit).short ↔
      Scope.contested (unit.name :: unit.references) name.simpleName = false := by
    rw [Scope.mem_short_iff]
    constructor
    · rintro ⟨other, hother, huncontested, hqualified⟩
      have hsame := (ClassName.qualified_inj (h _ (List.mem_cons_of_mem _ hother))
        (h _ (List.mem_cons_of_mem _ hname))).1 hqualified
      rwa [← hsame]
    · intro huncontested
      exact ⟨name, hname, huncontested, rfl⟩
  unfold Scope.className
  cases hcontested : Scope.contested (unit.name :: unit.references) name.simpleName with
  | true =>
    have hnot : name.qualified ∉ (Scope.of unit).short := by simp [hshort, hcontested]
    simp [hnot]
  | false =>
    have hmem : name.qualified ∈ (Scope.of unit).short := hshort.2 hcontested
    simp [hmem]

/-- What is imported by a simple name is a reference of that name which is not contested and could
not be written short without an import. -/
theorem importsAs_imports {simpleName imported : String} (hdot : '.' ∉ simpleName.toList)
    (himported : imported ∈ (Scope.of unit).imports) (has : importsAs simpleName imported = true) :
    ∃ name ∈ unit.references, name.simpleName = simpleName ∧ name.qualified = imported ∧
      Scope.contested (unit.name :: unit.references) simpleName = false ∧
      Scope.visible unit.name.package name = false := by
  obtain ⟨name, hname, huncontested, hvisible, rfl⟩ := Scope.mem_imports_iff.1 himported
  have hpackage := (Scope.visible_eq_false_iff.1 hvisible).1
  have hsimple := (importsAs_iff hdot (h _ (List.mem_cons_of_mem _ hname)) hpackage).1 has
  exact ⟨name, hname, hsimple, rfl, hsimple ▸ huncontested, hvisible⟩

/-- A class that is imported is imported by exactly one line that ends in its simple name. -/
theorem filter_imports_of_imported {name : ClassName} (hname : name ∈ unit.references)
    (huncontested : Scope.contested (unit.name :: unit.references) name.simpleName = false)
    (hvisible : Scope.visible unit.name.package name = false) :
    (Scope.of unit).imports.filter (importsAs name.simpleName) = [name.qualified] := by
  have hdot := h _ (List.mem_cons_of_mem _ hname)
  have hnodup : ((Scope.of unit).imports.filter (importsAs name.simpleName)).Nodup :=
    (nodup_ascending _).filter _
  -- both lists are free of repetitions, so it is enough to compare their elements
  rw [← List.perm_singleton, List.perm_ext_iff_of_nodup hnodup (List.nodup_singleton _)]
  intro imported
  rw [List.mem_filter, List.mem_singleton]
  constructor
  · rintro ⟨himported, has⟩
    obtain ⟨other, hother, hsimple, rfl, -⟩ := h.importsAs_imports hdot himported has
    rw [h.eq_of_uncontested (List.mem_cons_of_mem _ hother) (List.mem_cons_of_mem _ hname) hsimple
      huncontested]
  · rintro rfl
    refine ⟨Scope.mem_imports_iff.2 ⟨name, hname, huncontested, hvisible, rfl⟩, ?_⟩
    exact (importsAs_iff hdot hdot (Scope.visible_eq_false_iff.1 hvisible).1).2 rfl

/-- No import line ends in the simple name of a reference that is not imported. -/
theorem filter_imports_of_not_imported {name : ClassName} (hname : name ∈ unit.references)
    (hnot : Scope.contested (unit.name :: unit.references) name.simpleName = true ∨
      Scope.visible unit.name.package name = true) :
    (Scope.of unit).imports.filter (importsAs name.simpleName) = [] := by
  refine List.filter_eq_nil_iff.2 fun imported himported has => ?_
  have hdot := h _ (List.mem_cons_of_mem _ hname)
  obtain ⟨other, hother, hsimple, -, huncontested, hvisible⟩ :=
    h.importsAs_imports hdot himported has
  rcases hnot with hcontested | hseen
  · rw [hcontested] at huncontested
    cases huncontested
  · have hsame := h.eq_of_uncontested (List.mem_cons_of_mem _ hother)
      (List.mem_cons_of_mem _ hname) hsimple huncontested
    rw [hsame, hseen] at hvisible
    cases hvisible

/-- A class that is imported is not called like the declared class. -/
theorem simpleName_ne_of_imported {name : ClassName} (hname : name ∈ unit.references)
    (huncontested : Scope.contested (unit.name :: unit.references) name.simpleName = false)
    (hvisible : Scope.visible unit.name.package name = false) :
    name.simpleName ≠ unit.name.simpleName := by
  intro hsimple
  have hsame := h.eq_of_uncontested List.mem_cons_self (List.mem_cons_of_mem _ hname) hsimple.symm
    huncontested
  exact (Scope.visible_eq_false_iff.1 hvisible).2.2 (congrArg ClassName.package hsame.symm)

/-- The simple name of an imported class is read as this class. -/
theorem resolve_imported {name : ClassName} (hname : name ∈ unit.references)
    (huncontested : Scope.contested (unit.name :: unit.references) name.simpleName = false)
    (hvisible : Scope.visible unit.name.package name = false) :
    unit.resolve unit.javaLines name.simpleName = some name := by
  have hdot := h _ (List.mem_cons_of_mem _ hname)
  rw [resolve, if_neg hdot, if_neg (h.simpleName_ne_of_imported hname huncontested hvisible),
    importsOf_javaLines, h.filter_imports_of_imported hname huncontested hvisible]
  simp only [ClassName.ofQualified_qualified hdot]

end Forwarder.Dotless

namespace Forwarder.WellNamed

variable {unit : Forwarder} (h : unit.WellNamed)

include h

theorem dotless : unit.Dotless := h.no_dot

/-- A class that needs no import is of the unit's own package or of `java.lang`. -/
theorem package_of_visible {name : ClassName} (hname : name ∈ unit.references)
    (hvisible : Scope.visible unit.name.package name = true) :
    name.package = unit.name.package ∨ name.package = "java.lang" := by
  rcases Scope.visible_iff.1 hvisible with hdefault | hlang | hown
  · exact Or.inl (by rw [hdefault, h.default_package name hname hdefault])
  · exact Or.inr hlang
  · exact Or.inl hown

/-- The qualified name of a contested class is read as this class, also in the default package,
where it is the simple name. -/
theorem resolve_qualified {name : ClassName} (hname : name ∈ unit.references)
    (hcontested : Scope.contested (unit.name :: unit.references) name.simpleName = true) :
    unit.resolve unit.javaLines name.qualified = some name := by
  have hdot := h.no_dot name (List.mem_cons_of_mem _ hname)
  by_cases hpackage : name.package = ""
  · have hown := h.default_package name hname hpackage
    have hself : (⟨unit.name.package, name.simpleName⟩ : ClassName) = name := by
      rw [hown, ← hpackage]
    rw [ClassName.qualified_of_default hpackage, resolve, if_neg hdot, importsOf_javaLines,
      h.dotless.filter_imports_of_not_imported hname (Or.inl hcontested), hself]
    split_ifs with hsimple
    · rw [← hself, hsimple]
    · rfl
  · rw [resolve, if_pos ((ClassName.dot_mem_qualified hdot).2 hpackage),
      ClassName.ofQualified_qualified hdot]

/-- The simple name of a class that is not contested is read as this class. -/
theorem resolve_simpleName {name : ClassName} (hname : name ∈ unit.references)
    (huncontested : Scope.contested (unit.name :: unit.references) name.simpleName = false) :
    unit.resolve unit.javaLines name.simpleName = some name := by
  have hmem : name ∈ unit.name :: unit.references := List.mem_cons_of_mem _ hname
  cases hvisible : Scope.visible unit.name.package name with
  | false => exact h.dotless.resolve_imported hname huncontested hvisible
  | true =>
    rw [resolve, if_neg (h.no_dot name hmem), importsOf_javaLines,
      h.dotless.filter_imports_of_not_imported hname (Or.inr hvisible)]
    by_cases hsimple : name.simpleName = unit.name.simpleName
    · rw [if_pos hsimple,
        h.dotless.eq_of_uncontested List.mem_cons_self hmem hsimple.symm huncontested]
    · rw [if_neg hsimple]
      simp only
      split_ifs with hown
      · rw [h.dotless.eq_of_uncontested (List.mem_cons_of_mem _ hown) hmem rfl huncontested]
      · -- no reference is in the unit's own package under this name
        rcases h.package_of_visible hname hvisible with hpackage | hlang
        · exact absurd (by rwa [← hpackage]) hown
        · rw [← hlang]

/-- A reference is read as the class that it refers to. -/
theorem resolve_className {name : ClassName} (hname : name ∈ unit.references) :
    unit.resolve unit.javaLines ((Scope.of unit).className name) = some name := by
  rw [h.dotless.className_eq hname]
  split_ifs with hcontested
  · exact h.resolve_qualified hname hcontested
  · exact h.resolve_simpleName hname (Bool.not_eq_true _ ▸ hcontested)

/-- A class is never written like a built-in type. -/
theorem className_not_builtin {name : ClassName} (hname : name ∈ unit.references) :
    (Scope.of unit).className name ∉ "void" :: TypeRef.primitives := by
  have hmem : name ∈ unit.name :: unit.references := List.mem_cons_of_mem _ hname
  have hdot := h.no_dot _ hmem
  have hnodot : ∀ text ∈ "void" :: TypeRef.primitives, '.' ∉ text.toList := by decide
  rw [h.dotless.className_eq hname]
  split_ifs
  · by_cases hpackage : name.package = ""
    · rw [ClassName.qualified_of_default hpackage]
      exact h.not_builtin _ hmem
    · exact fun hbuiltin => hnodot _ hbuiltin ((ClassName.dot_mem_qualified hdot).2 hpackage)
  · exact h.not_builtin _ hmem

end Forwarder.WellNamed

namespace Forwarder

/-- **Every class that is mentioned in the printed text is read as the class that it stands for.**
The text is a template whose gaps are the references of the class; what is written in each gap
denotes the reference, is no built-in type, and is not used for another class.  The lines that are
printed are those of the text, unless a name has a line feed. -/
theorem mentions_resolve (unit : Forwarder) (h : unit.WellNamed) :
    (unit.IsFeedless → linesOf unit.javaSource = unit.javaLines) ∧
      unit.javaLines = packageLines unit.name.package ++ (Scope.of unit).importLines ++
        unit.template.map (spellLine (Scope.of unit).className) ∧
      mentions unit.template = unit.references ∧
      (∀ name ∈ mentions unit.template,
        unit.resolve unit.javaLines ((Scope.of unit).className name) = some name ∧
          (Scope.of unit).className name ∉ "void" :: TypeRef.primitives) ∧
      ∀ first ∈ mentions unit.template, ∀ second ∈ mentions unit.template,
        (Scope.of unit).className first = (Scope.of unit).className second → first = second := by
  rw [mentions_template]
  refine ⟨linesOf_javaSource, unit.javaLines_eq, rfl, fun name hname =>
    ⟨h.resolve_className hname, h.className_not_builtin hname⟩, ?_⟩
  intro first hfirst second hsecond hsame
  have hresolve := h.resolve_className hfirst
  rw [hsame, h.resolve_className hsecond] at hresolve
  exact (Option.some.inj hresolve).symm

/-- A store whose methods mention two classes called `Date`, one of its own package, an imported
one, one of `java.lang`, and itself. -/
def store : Forwarder where
  name := ⟨"com.example", "StoreImpl"⟩
  interface := ⟨"com.example", "Store"⟩
  fields := [⟨"delegate", ⟨"com.example.impl", "DefaultStore"⟩, .isPrivate⟩]
  constructor := { parameters := [⟨"delegate", ⟨"com.example.impl.DefaultStore", false⟩⟩] }
  methods := [
    { name := "load", returnType := ⟨"java.util.List", false⟩,
      parameters := [⟨"key", ⟨"com.example.Key", true⟩⟩] },
    { name := "date", returnType := ⟨"java.util.Date", false⟩,
      parameters := [⟨"other", ⟨"java.sql.Date", false⟩⟩, ⟨"zone", ⟨"java.lang.String", false⟩⟩] },
    { name := "copy", returnType := ⟨"com.example.StoreImpl", false⟩,
      parameters := [⟨"depth", ⟨"int", false⟩⟩] }]

theorem isFeedless_store : store.IsFeedless := by
  unfold IsFeedless
  decide +kernel

theorem mentions_resolve_store :
    (Scope.of store).imports = ["com.example.impl.DefaultStore", "java.util.List"] ∧
      (Scope.of store).className ⟨"java.sql", "Date"⟩ = "java.sql.Date" ∧
      store.WellNamed ∧ linesOf store.javaSource = store.javaLines ∧
      ∀ name ∈ mentions store.template,
        store.resolve store.javaLines ((Scope.of store).className name) = some name := by
  have hnamed : store.WellNamed := ⟨by decide, by decide, by decide, by decide⟩
  obtain ⟨hlines, -, -, hresolve, -⟩ := mentions_resolve store hnamed
  exact ⟨by decide, by decide, hnamed, hlines isFeedless_store,
    fun name hname => (hresolve name hname).1⟩

end Forwarder

end Forwarding
