import Forwarding.Proofs.CompilationUnit.DelegateType
import Forwarding.Proofs.CompilationUnit.PlainNames

/-!
# What the Java text of a class tells about its interface

The text is read back: it tells its lines, the lines after the constructor tell the methods five
by five, the head of a method tells its name and how its types are written.  How a type is written
tells its class, except that a simple name without an import line can stand for several.

* `unlines_inj`: a text tells its lines;
* `Interface.javaLines_eq_blocks`: the lines of the methods, one block for each signature;
* `Forwarder.Dotless.eq_or_bare`: references that are written alike are one class, or bare;
* `TypeRef.Agrees`, `Signature.Agrees`: what signatures have in common that are written alike;
* `Interface.forwarder_legible`: classes of one text forward the same methods.
-/

namespace Forwarding

/-! ### Lines -/

/-- A text tells its lines. -/
theorem unlines_inj {lines others : List String} (hlines : NoFeeds lines) (hothers : NoFeeds others)
    (h : unlines lines = unlines others) : lines = others := by
  rw [← linesOf_unlines hlines, h, linesOf_unlines hothers]

theorem Unmarked.no_feed {text : String} (h : Unmarked text) : '\n' ∉ text.toList :=
  h.not_mem (by decide) (by decide)

/-! ### Methods -/

namespace Signature

/-- The types of the result and of the parameters. -/
def types (signature : Signature) : List TypeRef :=
  signature.returnType :: signature.parameters.map (·.type)

theorem IsPlain.types {signature : Signature} (h : signature.IsPlain) :
    ∀ type ∈ signature.types, type.IsPlain := by
  refine List.forall_mem_cons.2 ⟨h.returnType, fun type htype => ?_⟩
  obtain ⟨parameter, hmem, rfl⟩ := List.mem_map.1 htype
  exact (h.parameters parameter hmem).2

/-- The head of a method that forwards the signature. -/
def head (scope : Scope) (signature : Signature) : String :=
  "public " ++ scope.type signature.returnType ++ " " ++ signature.name ++ "(" ++
    scope.parameters signature.parameters ++ ")"

/-- The line that forwards the signature. -/
def call (field : String) (signature : Signature) : String :=
  (if signature.returnType.isVoid then "" else "return ") ++ field ++ "." ++ signature.name ++
    "(" ++ callArguments (signature.parameters.map (·.name)) ++ ");"

/-- The lines of a method that forwards the signature, after a blank one. -/
def block (scope : Scope) (field : String) (signature : Signature) : List String :=
  ["", indented 1 "@Override", indented 1 (signature.head scope ++ " \x7b"),
    indented 2 (signature.call field), indented 1 "\x7d"]

theorem block_eq (scope : Scope) (field : String) (signature : Signature) :
    "" :: (signature.forward field).javaLines scope = signature.block scope field := by
  simp only [forward, Method.addParameters_eq, Method.edit, List.nil_append, Method.javaLines,
    bodyLines, Statement.javaLine, Modifier.keyword, block, head, call]
  cases signature.returnType.isVoid <;> simp [String.append_assoc]

/-- Heads that are written alike agree in the name and are of types written alike. -/
theorem head_inj {scope other : Scope} {first second : Signature} (hfirst : first.IsPlain)
    (hsecond : second.IsPlain) (h : first.head scope = second.head other) :
    scope.type first.returnType = other.type second.returnType ∧ first.name = second.name ∧
      scope.parameters first.parameters = other.parameters second.parameters := by
  have hhead (scope : Scope) (signature : Signature) : (signature.head scope).toList =
      "public ".toList ++ ((scope.type signature.returnType).toList ++ ' ' ::
        (signature.name.toList ++ '(' ::
          ((scope.parameters signature.parameters).toList ++ [')']))) := by
    simp [head]
  have hlist := congrArg String.toList h
  rw [hhead, hhead, List.append_cancel_left_eq, Text.append_mark_inj
    (Scope.not_mem_type hfirst.returnType (by decide))
    (Scope.not_mem_type hsecond.returnType (by decide)), Text.append_mark_inj
    (hfirst.name.2 _ (by decide)) (hsecond.name.2 _ (by decide)), List.append_cancel_right_eq]
    at hlist
  obtain ⟨htype, hname, hparameters⟩ := hlist
  exact ⟨String.toList_inj.1 htype, String.toList_inj.1 hname, String.toList_inj.1 hparameters⟩

end Signature

/-! ### Generated classes -/

/-- All names from which a class is generated are plain. -/
structure Interface.IsPlain (interface : Interface) (delegate : Delegate) (output : String) :
    Prop where
  qualifiedName : IsDottedName interface.qualifiedName
  simpleName : IsPlainName interface.simpleName
  output : IsPlainName output
  delegate_package : delegate.package = "" ∨ IsDottedName delegate.package
  delegate_className : IsPlainName delegate.className
  fieldName : IsPlainName delegate.fieldName
  methods : ∀ signature, .method signature ∈ interface.members → signature.IsPlain

theorem Interface.IsPlain.of_mem_signatures {interface : Interface} {delegate : Delegate}
    {output : String} (h : interface.IsPlain delegate output) {signature : Signature}
    (hsignature : signature ∈ interface.signatures) : signature.IsPlain :=
  h.methods signature (mem_signatures_iff.1 hsignature)

/-- The lines of a class before its methods. -/
def Forwarder.openingLines (unit : Forwarder) : List String :=
  let scope := Scope.of unit
  packageLines unit.name.package ++ scope.importLines ++ commentLines unit.doc ++
    [unit.headLine scope] ++ unit.fields.map (·.javaLine scope) ++
    "" :: unit.constructor.javaLines scope unit.name.simpleName

/-- The number of lines before the methods. -/
theorem Forwarder.length_openingLines (unit : Forwarder) :
    unit.openingLines.length = (packageLines unit.name.package).length +
      (Scope.of unit).importLines.length + (commentLines unit.doc).length +
        unit.fields.length + unit.constructor.body.length + 4 := by
  simp [openingLines, Constructor.javaLines, bodyLines]
  omega

namespace Interface

section Generated

variable {interface : Interface} {delegate : Delegate} {output : String} {unit : Forwarder}
  (hunit : interface.forwarder delegate output = .ok unit)

include hunit

/-- The comment and the methods of a generated class. -/
theorem doc_and_methods_of_forwarder :
    unit.doc = some classDoc ∧
      unit.methods = interface.signatures.map (·.forward delegate.fieldName) := by
  rw [forwarder_eq] at hunit
  obtain ⟨name, -, rfl⟩ := map_eq_ok_iff.1 hunit
  exact ⟨rfl, rfl⟩

theorem javaLines_eq_blocks :
    unit.javaLines = unit.openingLines ++
      interface.signatures.flatMap (·.block (Scope.of unit) delegate.fieldName) ++ ["\x7d"] := by
  have hblocks : unit.methods.flatMap (fun method => "" :: method.javaLines (Scope.of unit)) =
      interface.signatures.flatMap (·.block (Scope.of unit) delegate.fieldName) := by
    rw [(doc_and_methods_of_forwarder hunit).2, List.flatMap_map]
    simp only [Signature.block_eq]
  rw [← hblocks]
  simp only [Forwarder.javaLines, Forwarder.openingLines, List.append_assoc]

/-- The references of a generated class. -/
theorem mem_references_iff (hdot : '.' ∉ delegate.className.toList) {name : ClassName} :
    name ∈ unit.references ↔
      name = unit.interface ∨ name = delegate.name ∨
        ∃ signature ∈ interface.signatures, ∃ type ∈ signature.types,
          type.isBuiltin = false ∧ ClassName.ofQualified type.className = name := by
  obtain ⟨-, himplements⟩ := implements_of_forwarder hunit
  have hcut : ClassName.ofQualified delegate.name.qualified = delegate.name :=
    ClassName.ofQualified_qualified hdot
  have htypes : unit.types =
      delegate.name.typeRef :: interface.signatures.flatMap Signature.types := by
    rw [Forwarder.types, himplements.constructor_parameters,
      (doc_and_methods_of_forwarder hunit).2, List.flatMap_map]
    simp only [Signature.forward, Method.addParameters_eq, Method.edit, List.nil_append]
    rfl
  rw [Forwarder.references, himplements.fields, htypes]
  simp only [List.map_cons, List.map_nil, List.mem_append, List.mem_cons, List.not_mem_nil,
    or_false, List.mem_map, List.mem_filter, List.mem_flatMap, Bool.not_eq_true']
  constructor
  · rintro ((hname | hname) | ⟨type, ⟨htype, hclass⟩, rfl⟩)
    · exact Or.inl hname
    · exact Or.inr (Or.inl hname)
    · rcases htype with rfl | ⟨signature, hsignature, htype⟩
      · exact Or.inr (Or.inl hcut)
      · exact Or.inr (Or.inr ⟨signature, hsignature, type, htype, hclass, rfl⟩)
  · rintro (hname | hname | ⟨signature, hsignature, type, htype, hclass, rfl⟩)
    · exact Or.inl (Or.inl hname)
    · exact Or.inl (Or.inr hname)
    · exact Or.inr ⟨type, ⟨Or.inr ⟨signature, hsignature, htype⟩, hclass⟩, rfl⟩

variable (hplain : interface.IsPlain delegate output)

include hplain

theorem mem_references_of_type {signature : Signature}
    (hsignature : signature ∈ interface.signatures) {type : TypeRef}
    (htype : type ∈ signature.types) (hclass : type.isBuiltin = false) :
    ClassName.ofQualified type.className ∈ unit.references :=
  (mem_references_iff hunit hplain.delegate_className.no_dot).2
    (Or.inr (Or.inr ⟨signature, hsignature, type, htype, hclass, rfl⟩))

theorem unmarked_references {name : ClassName} (hname : name ∈ unit.references) :
    Unmarked name.qualified := by
  rcases (mem_references_iff hunit hplain.delegate_className.no_dot).1 hname with
    rfl | rfl | ⟨signature, hsignature, type, htype, hclass, rfl⟩
  · rw [(implements_of_forwarder hunit).2.interface_qualified]
    exact hplain.qualifiedName.unmarked
  · refine ClassName.unmarked_qualified_iff.2 ⟨?_, hplain.delegate_className.unmarked⟩
    rcases hplain.delegate_package with hdefault | hdotted
    · simp [Delegate.name, hdefault, Unmarked]
    · exact hdotted.unmarked
  · have htyped := (hplain.of_mem_signatures hsignature).types type htype
    obtain ⟨hdotted, -⟩ := htyped.resolve_left (by simp [hclass])
    rw [hdotted.qualified_ofQualified]
    exact hdotted.unmarked

theorem dotless_of_forwarder : unit.Dotless := by
  obtain ⟨-, himplements⟩ := implements_of_forwarder hunit
  refine List.forall_mem_cons.2 ⟨?_, fun name hname => ?_⟩
  · rw [himplements.name]
    exact hplain.output.no_dot
  · rcases (mem_references_iff hunit hplain.delegate_className.no_dot).1 hname with
      rfl | rfl | ⟨signature, hsignature, type, htype, hclass, rfl⟩
    · rw [himplements.interface_simpleName]
      exact hplain.simpleName.no_dot
    · exact hplain.delegate_className.no_dot
    · exact ClassName.dot_not_mem_ofQualified type.className

/-- No line of the class has a line feed. -/
theorem noFeeds_javaLines : NoFeeds unit.javaLines := by
  obtain ⟨-, himplements⟩ := implements_of_forwarder hunit
  have hfield := hplain.fieldName.unmarked.no_feed
  have hreferences : ∀ name ∈ unit.references, '\n' ∉ name.qualified.toList := fun name hname =>
    (unmarked_references hunit hplain hname).no_feed
  have hpackage : '\n' ∉ unit.name.package.toList := by
    have hinterface := unmarked_references hunit hplain
      (List.mem_cons_self : unit.interface ∈ unit.references)
    rw [himplements.name]
    exact (ClassName.unmarked_qualified_iff.1 hinterface).1.no_feed
  refine (Forwarder.isFeedless_iff.2 ⟨hpackage, ?_, hreferences, ?_, ?_, ?_⟩).noFeeds_javaLines
  · rw [himplements.name]
    exact hplain.output.unmarked.no_feed
  · rw [himplements.fields]
    exact List.forall_mem_singleton.2 hfield
  · rw [himplements.constructor_parameters, himplements.constructor_body]
    simpa [bodyNames, Statement.names] using hfield
  · intro method hmethod
    obtain ⟨signature, hsignature, hforwards⟩ := himplements.exists_forwards hmethod
    obtain ⟨returns, -, hbody⟩ := hforwards.body
    have hnames := hplain.of_mem_signatures hsignature
    have hparameters : ∀ parameter ∈ signature.parameters, '\n' ∉ parameter.name.toList :=
      fun parameter hmem => (hnames.parameters parameter hmem).1.unmarked.no_feed
    rw [hforwards.name, hforwards.parameters, hbody]
    simpa [bodyNames, Statement.names, hfield, hnames.name.unmarked.no_feed, or_imp, forall_and]
      using hparameters

end Generated

end Interface

/-! ### Classes that are written alike -/

/-- The class is written by its simple name, and no import line says where it is from: it is of
`java.lang`, of the package of the unit, or of the default package. -/
structure Forwarder.WritesBare (unit : Forwarder) (name : ClassName) : Prop where
  written : (Scope.of unit).className name = name.simpleName
  not_imported : (importsOf unit.javaLines).filter (importsAs name.simpleName) = []
  package : name.package ∈ ["", "java.lang", unit.name.package]

namespace Forwarder.Dotless

section

variable {unit : Forwarder} (h : unit.Dotless) {name : ClassName} (hname : name ∈ unit.references)

include h hname

theorem className_of_dot (hdot : '.' ∈ ((Scope.of unit).className name).toList) :
    (Scope.of unit).className name = name.qualified :=
  ((Scope.of unit).className_cases name).resolve_left fun hshort =>
    h name (List.mem_cons_of_mem _ hname) (hshort ▸ hdot)

theorem className_of_no_dot (hdot : '.' ∉ ((Scope.of unit).className name).toList) :
    (Scope.of unit).className name = name.simpleName := by
  refine ((Scope.of unit).className_cases name).elim id fun hlong => ?_
  have hpackage : name.package = "" := by
    by_contra hne
    rw [hlong, ClassName.dot_mem_qualified (h name (List.mem_cons_of_mem _ hname))] at hdot
    exact hdot hne
  rw [hlong, ClassName.qualified_of_default hpackage]

/-- What the import lines say of the simple name of a reference. -/
theorem filter_importsOf_cases :
    (importsOf unit.javaLines).filter (importsAs name.simpleName) = [name.qualified] ∨
      (importsOf unit.javaLines).filter (importsAs name.simpleName) = [] ∧
        (Scope.contested (unit.name :: unit.references) name.simpleName = true ∨
          Scope.visible unit.name.package name = true) := by
  rw [importsOf_javaLines]
  cases hcontested : Scope.contested (unit.name :: unit.references) name.simpleName with
  | true =>
    exact Or.inr ⟨h.filter_imports_of_not_imported hname (Or.inl hcontested), Or.inl rfl⟩
  | false =>
    cases hvisible : Scope.visible unit.name.package name with
    | true => exact Or.inr ⟨h.filter_imports_of_not_imported hname (Or.inr hvisible), Or.inr rfl⟩
    | false => exact Or.inl (h.filter_imports_of_imported hname hcontested hvisible)

theorem qualified_of_imported {imported : String} {others : List String}
    (himported : (importsOf unit.javaLines).filter (importsAs name.simpleName) =
      imported :: others) : name.qualified = imported := by
  rcases h.filter_importsOf_cases hname with hsole | ⟨hnone, -⟩
  · rw [hsole] at himported
    exact (List.cons.inj himported).1
  · rw [hnone] at himported
    cases himported

theorem writesBare (hdot : '.' ∉ ((Scope.of unit).className name).toList)
    (hnone : (importsOf unit.javaLines).filter (importsAs name.simpleName) = []) :
    unit.WritesBare name := by
  refine ⟨h.className_of_no_dot hname hdot, hnone, ?_⟩
  rcases h.filter_importsOf_cases hname with hsole | ⟨-, hcontested | hvisible⟩
  · rw [hsole] at hnone
    cases hnone
  · -- a contested name is written with its package, if it has one
    rw [h.className_eq hname, if_pos hcontested,
      ClassName.dot_mem_qualified (h name (List.mem_cons_of_mem _ hname)), not_not] at hdot
    rw [hdot]
    exact List.mem_cons_self
  · simpa using Scope.visible_iff.1 hvisible

end

variable {unit other : Forwarder}

/-- References that are written alike in two classes of the same lines are one class, or bare. -/
theorem eq_or_bare (h : unit.Dotless) (hother : other.Dotless)
    (hlines : unit.javaLines = other.javaLines) {name named : ClassName}
    (hname : name ∈ unit.references) (hnamed : named ∈ other.references)
    (hsame : (Scope.of unit).className name = (Scope.of other).className named) :
    name = named ∨
      name.simpleName = named.simpleName ∧ unit.WritesBare name ∧ other.WritesBare named := by
  have hinj : name.qualified = named.qualified → name = named :=
    (ClassName.qualified_inj (h name (List.mem_cons_of_mem _ hname))
      (hother named (List.mem_cons_of_mem _ hnamed))).1
  by_cases hdot : '.' ∈ ((Scope.of unit).className name).toList
  · refine Or.inl (hinj ?_)
    rw [← h.className_of_dot hname hdot, hsame, hother.className_of_dot hnamed (hsame ▸ hdot)]
  · have hnodot : '.' ∉ ((Scope.of other).className named).toList := hsame ▸ hdot
    have hsimple : name.simpleName = named.simpleName := by
      rw [← h.className_of_no_dot hname hdot, hsame, hother.className_of_no_dot hnamed hnodot]
    cases hfound : (importsOf unit.javaLines).filter (importsAs name.simpleName) with
    | nil =>
      have hnone : (importsOf other.javaLines).filter (importsAs named.simpleName) = [] := by
        rw [← hlines, ← hsimple, hfound]
      exact Or.inr
        ⟨hsimple, h.writesBare hname hdot hfound, hother.writesBare hnamed hnodot hnone⟩
    | cons imported others =>
      have himported : (importsOf other.javaLines).filter (importsAs named.simpleName) =
          imported :: others := by
        rw [← hlines, ← hsimple, hfound]
      refine Or.inl (hinj ?_)
      rw [h.qualified_of_imported hname hfound, hother.qualified_of_imported hnamed himported]

end Forwarder.Dotless

/-! ### Types and methods that are written alike -/

/-- Two types, each mentioned in a unit, are both arrays or neither, and of one class, unless both
are of classes of one simple name that are written bare. -/
structure TypeRef.Agrees (unit other : Forwarder) (first second : TypeRef) : Prop where
  isArray : first.isArray = second.isArray
  className : first.className = second.className ∨
    first.isBuiltin = false ∧ second.isBuiltin = false ∧
      ∃ name named : ClassName, name.simpleName = named.simpleName ∧
        first.className = name.qualified ∧ unit.WritesBare name ∧
        second.className = named.qualified ∧ other.WritesBare named

/-- Two signatures have the same name and as many parameters, of the same names, and their types
agree. -/
structure Signature.Agrees (unit other : Forwarder) (first second : Signature) : Prop where
  name : first.name = second.name
  isVoid : first.returnType.isVoid = second.returnType.isVoid
  returnType : first.returnType.Agrees unit other second.returnType
  parameters : List.Forall₂ (fun parameter named =>
    parameter.name = named.name ∧ parameter.type.Agrees unit other named.type)
    first.parameters second.parameters

namespace TypeRef

theorem Agrees.isVoid {unit other : Forwarder} {first second : TypeRef}
    (h : first.Agrees unit other second) : first.isVoid = second.isVoid := by
  have hnot {type : TypeRef} (hclass : type.isBuiltin = false) : type.isVoid = false := by
    rw [← Bool.not_eq_true, isBuiltin_iff] at hclass
    have hne : type.className ≠ "void" := fun hvoid => hclass (hvoid ▸ List.mem_cons_self)
    simp [TypeRef.isVoid, hne]
  rcases h.className with hsame | ⟨hfirst, hsecond, -⟩
  · rw [TypeRef.isVoid, TypeRef.isVoid, hsame, h.isArray]
  · rw [hnot hfirst, hnot hsecond]

/-- A class is not written like a built-in type. -/
theorem IsPlain.className_not_builtin {type : TypeRef} (h : type.IsPlain)
    (hclass : type.isBuiltin = false) (scope : Scope) :
    scope.className (ClassName.ofQualified type.className) ∉ "void" :: primitives := by
  obtain ⟨hdotted, hsimple⟩ := h.resolve_left (by simp [hclass])
  rcases scope.className_cases (ClassName.ofQualified type.className) with hshort | hlong
  · rwa [hshort]
  · rwa [hlong, hdotted.qualified_ofQualified, ← isBuiltin_iff, Bool.not_eq_true]

/-- Types that are written alike in two classes of the same lines agree. -/
theorem agrees_of_type {unit other : Forwarder} (hunit : unit.Dotless) (hother : other.Dotless)
    (hlines : unit.javaLines = other.javaLines) {first second : TypeRef}
    (hfirst : first.IsPlain) (hsecond : second.IsPlain)
    (hname : first.isBuiltin = false → ClassName.ofQualified first.className ∈ unit.references)
    (hnamed : second.isBuiltin = false → ClassName.ofQualified second.className ∈ other.references)
    (h : (Scope.of unit).type first = (Scope.of other).type second) :
    first.Agrees unit other second := by
  obtain ⟨harray, hbase⟩ := Scope.type_inj hfirst hsecond h
  refine ⟨harray, ?_⟩
  unfold Scope.baseName at hbase
  cases hone : first.isBuiltin <;> cases htwo : second.isBuiltin
  · simp only [hone, htwo, Bool.false_eq_true, if_false] at hbase
    have hqualified {type : TypeRef} (hplain : type.IsPlain) (hclass : type.isBuiltin = false) :
        type.className = (ClassName.ofQualified type.className).qualified :=
      (hplain.resolve_left (by simp [hclass])).1.qualified_ofQualified.symm
    rcases hunit.eq_or_bare hother hlines (hname hone) (hnamed htwo) hbase with
      hsame | ⟨hsimple, hbare, hbare'⟩
    · refine Or.inl ?_
      rw [hqualified hfirst hone, hsame, ← hqualified hsecond htwo]
    · exact Or.inr ⟨rfl, rfl, _, _, hsimple, hqualified hfirst hone, hbare,
        hqualified hsecond htwo, hbare'⟩
  · simp only [hone, htwo, Bool.false_eq_true, if_false, if_true] at hbase
    exact absurd (hbase ▸ isBuiltin_iff.1 htwo) (hfirst.className_not_builtin hone _)
  · simp only [hone, htwo, Bool.false_eq_true, if_false, if_true] at hbase
    exact absurd (hbase ▸ isBuiltin_iff.1 hone) (hsecond.className_not_builtin htwo _)
  · simp only [hone, htwo, if_true] at hbase
    exact Or.inl hbase

end TypeRef

theorem Signature.head_of_block {scope other : Scope} {field : String} {first second : Signature}
    (h : first.block scope field = second.block other field) :
    first.head scope = second.head other := by
  have hline : indented 1 (first.head scope ++ " \x7b") =
      indented 1 (second.head other ++ " \x7b") := by
    simp only [block, List.cons.injEq] at h
    exact h.2.2.1
  rw [← String.toList_inj]
  simpa [indented, ← String.toList_inj] using hline

namespace Interface

variable {first second : Interface} {delegate : Delegate} {output : String} {unit other : Forwarder}

/-- In classes of the same lines the methods have the same lines, one by one. -/
theorem forall₂_blocks (hqualified : first.qualifiedName = second.qualifiedName)
    (hsimple : first.simpleName = second.simpleName)
    (hunit : first.forwarder delegate output = .ok unit)
    (hother : second.forwarder delegate output = .ok other)
    (hlines : unit.javaLines = other.javaLines) :
    List.Forall₂ (fun signature named =>
      signature.block (Scope.of unit) delegate.fieldName =
        named.block (Scope.of other) delegate.fieldName)
      first.signatures second.signatures := by
  obtain ⟨hname, himplements⟩ := implements_of_forwarder hunit
  obtain ⟨hnamed, himplements'⟩ := implements_of_forwarder hother
  have hinterface : unit.interface = other.interface := by
    rw [className, hqualified, hsimple, ← className, hnamed] at hname
    exact (Except.ok.inj hname).symm
  have himports : (Scope.of unit).imports = (Scope.of other).imports := by
    rw [← Forwarder.importsOf_javaLines, ← Forwarder.importsOf_javaLines, hlines]
  -- so the methods begin with the same line in both
  have hlength : unit.openingLines.length = other.openingLines.length := by
    rw [Forwarder.length_openingLines, Forwarder.length_openingLines,
      (doc_and_methods_of_forwarder hunit).1, (doc_and_methods_of_forwarder hother).1,
      himplements.fields, himplements'.fields, himplements.constructor_body,
      himplements'.constructor_body, himplements.name, himplements'.name, hinterface,
      Scope.importLines, Scope.importLines, himports]
  rw [javaLines_eq_blocks hunit, javaLines_eq_blocks hother, List.append_cancel_right_eq] at hlines
  exact forall₂_of_flatMap_eq (n := 4) (fun _ => rfl) (fun _ => rfl)
    (List.append_inj_right hlines hlength)

/-- **The Java text of a class tells the methods of its interface.**  If the classes of two
interfaces of one name, made of plain names for one delegate, have the same text, then the members
of the interfaces have as many methods, which agree one by one in all names, in the arrays and in
having a result, and also in the classes, except that a simple name without an import line can stand
for a class of `java.lang`, of the package of the class, or of the default package. -/
theorem forwarder_legible (hqualified : first.qualifiedName = second.qualifiedName)
    (hsimple : first.simpleName = second.simpleName) (hfirst : first.IsPlain delegate output)
    (hsecond : second.IsPlain delegate output)
    (hunit : first.forwarder delegate output = .ok unit)
    (hother : second.forwarder delegate output = .ok other)
    (hsame : unit.javaSource = other.javaSource) :
    ∃ signatures named, HasMethods first.members signatures ∧ HasMethods second.members named ∧
      List.Forall₂ (Signature.Agrees unit other) signatures named := by
  have hlines : unit.javaLines = other.javaLines :=
    unlines_inj (noFeeds_javaLines hunit hfirst) (noFeeds_javaLines hother hsecond) hsame
  refine ⟨_, _, first.hasMethods, second.hasMethods, ?_⟩
  refine (forall₂_mem (forall₂_blocks hqualified hsimple hunit hother hlines)).imp ?_
  rintro signature named ⟨hsignature, hnamed, hblock⟩
  have hplain := hfirst.of_mem_signatures hsignature
  have hplain' := hsecond.of_mem_signatures hnamed
  obtain ⟨htype, hname, hparameters⟩ :=
    Signature.head_inj hplain hplain' (Signature.head_of_block hblock)
  have hagrees {type renamed : TypeRef} (hmem : type ∈ signature.types)
      (hmem' : renamed ∈ named.types)
      (hwritten : (Scope.of unit).type type = (Scope.of other).type renamed) :
      type.Agrees unit other renamed :=
    TypeRef.agrees_of_type (dotless_of_forwarder hunit hfirst) (dotless_of_forwarder hother hsecond)
      hlines (hplain.types type hmem) (hplain'.types renamed hmem')
      (mem_references_of_type hunit hfirst hsignature hmem)
      (mem_references_of_type hother hsecond hnamed hmem') hwritten
  have hreturn := hagrees List.mem_cons_self List.mem_cons_self htype
  refine ⟨hname, hreturn.isVoid, hreturn, ?_⟩
  have hpointwise := Scope.parameters_inj hplain.parameters hplain'.parameters hparameters
  refine (forall₂_mem hpointwise).imp ?_
  rintro parameter renamed ⟨hmem, hmem', htype, hname⟩
  exact ⟨hname, hagrees (List.mem_cons_of_mem _ (List.mem_map_of_mem hmem))
    (List.mem_cons_of_mem _ (List.mem_map_of_mem hmem')) htype⟩

/-- A reader of texts of the given class, of lists, and of dates of two kinds. -/
def reader (textClass : String) : Interface where
  qualifiedName := "com.example.Reader"
  simpleName := "Reader"
  members := [
    .method ⟨"read", ⟨textClass, false⟩,
      [⟨"names", ⟨textClass, true⟩⟩, ⟨"times", ⟨"int", false⟩⟩]⟩,
    .field "LIMIT",
    .method ⟨"reset", .void, []⟩,
    .method ⟨"date", ⟨"java.util.Date", false⟩,
      [⟨"other", ⟨"java.sql.Date", false⟩⟩, ⟨"list", ⟨"java.util.List", false⟩⟩]⟩]

/-- The delegate of a reader. -/
def readerDelegate : Delegate := ⟨"com.example.impl", "FileReader", "delegate"⟩

/-- The class that forwards a reader. -/
def readerForwarder (textClass : String) : Forwarder where
  name := ⟨"com.example", "ReaderImpl"⟩
  interface := ⟨"com.example", "Reader"⟩
  doc := some classDoc
  fields := [⟨"delegate", readerDelegate.name, .isPrivate⟩]
  constructor :=
    { parameters := [⟨"delegate", ⟨"com.example.impl.FileReader", false⟩⟩]
      body := [.assign "delegate" "delegate"] }
  methods := (reader textClass).signatures.map (·.forward "delegate")

/-- A text of `java.lang` and one of the package of the class are written alike. -/
theorem forwarder_legible_reader :
    (reader "java.lang.Text").forwarder readerDelegate "ReaderImpl" =
        .ok (readerForwarder "java.lang.Text") ∧
      (reader "com.example.Text").forwarder readerDelegate "ReaderImpl" =
        .ok (readerForwarder "com.example.Text") ∧
      (reader "java.lang.Text").IsPlain readerDelegate "ReaderImpl" ∧
      (reader "com.example.Text").IsPlain readerDelegate "ReaderImpl" ∧
      (readerForwarder "java.lang.Text").javaSource =
        (readerForwarder "com.example.Text").javaSource ∧
      ∃ signatures named, HasMethods (reader "java.lang.Text").members signatures ∧
        HasMethods (reader "com.example.Text").members named ∧
        List.Forall₂
          (Signature.Agrees (readerForwarder "java.lang.Text") (readerForwarder "com.example.Text"))
          signatures named := by
  have hunit : (reader "java.lang.Text").forwarder readerDelegate "ReaderImpl" =
      .ok (readerForwarder "java.lang.Text") := rfl
  have hother : (reader "com.example.Text").forwarder readerDelegate "ReaderImpl" =
      .ok (readerForwarder "com.example.Text") := rfl
  have hsignatures : ∀ textClass ∈ ["java.lang.Text", "com.example.Text"],
      ∀ signature ∈ (reader textClass).signatures, signature.IsPlain := by decide +kernel
  have hplain : ∀ textClass ∈ ["java.lang.Text", "com.example.Text"],
      (reader textClass).IsPlain readerDelegate "ReaderImpl" := by
    intro textClass htext
    exact
      { qualifiedName := (by decide : IsDottedName "com.example.Reader")
        simpleName := (by decide : IsPlainName "Reader")
        output := by decide
        delegate_package := by decide
        delegate_className := by decide
        fieldName := by decide
        methods := fun signature hmem =>
          hsignatures textClass htext signature (mem_signatures_iff.2 hmem) }
  have hfirst := hplain "java.lang.Text" (by decide)
  have hsecond := hplain "com.example.Text" (by decide)
  have hsame : (readerForwarder "java.lang.Text").javaSource =
      (readerForwarder "com.example.Text").javaSource := congrArg unlines (by decide +kernel)
  exact ⟨hunit, hother, hfirst, hsecond, hsame,
    forwarder_legible rfl rfl hfirst hsecond hunit hother hsame⟩

end Interface

end Forwarding
