import Forwarding.Proofs.CompilationUnit.Resolution
import Forwarding.Proofs.Pointwise

/-!
# Java texts of plain names

Plain names have none of the marks that stand between names in a line.  So what is written of such
names, a type, a parameter or a parameter list, is read back by cutting the text at the marks.

* `IsPlainName`, `IsDottedName`, `TypeRef.IsPlain`, `Signature.IsPlain`: names without marks;
* `Scope.type_inj`: types that are written alike are both arrays or neither, of one base name;
* `Scope.parameters_inj`: parameter lists that are written alike have the same names and types
  written alike, in order.
-/

namespace Forwarding

/-! ### Names without marks -/

/-- The marks at which the text of a class is cut into names; no identifier of Java has one of
them. -/
def nameMarks : List Char := [' ', '\n', '.', ',', '(', '[']

/-- A name is not empty and has none of the marks. -/
def IsPlainName (name : String) : Prop := name ≠ "" ∧ ∀ mark ∈ nameMarks, mark ∉ name.toList

-- decided mark by mark and not over all characters
instance (name : String) : Decidable (IsPlainName name) :=
  have := List.decidableBAll (fun mark => mark ∉ name.toList) nameMarks
  inferInstanceAs (Decidable (_ ∧ _))

/-- A text is made of such names and dots between them. -/
def IsDottedName (text : String) : Prop := ∀ piece ∈ Text.stringPieces '.' text, IsPlainName piece

instance (text : String) : Decidable (IsDottedName text) :=
  inferInstanceAs (Decidable (∀ _ ∈ _, _))

/-- A text has no mark but dots. -/
def Unmarked (text : String) : Prop := ∀ c ∈ text.toList, c ∈ nameMarks → c = '.'

instance (text : String) : Decidable (Unmarked text) :=
  List.decidableBAll (fun c => c ∈ nameMarks → c = '.') text.toList

theorem Unmarked.not_mem {text : String} (h : Unmarked text) {mark : Char}
    (hmark : mark ∈ nameMarks) (hdot : mark ≠ '.') : mark ∉ text.toList :=
  fun hmem => hdot (h mark hmem hmark)

theorem IsPlainName.unmarked {name : String} (h : IsPlainName name) : Unmarked name :=
  fun c hc hmark => absurd hc (h.2 c hmark)

theorem IsPlainName.no_dot {name : String} (h : IsPlainName name) : '.' ∉ name.toList :=
  h.2 '.' (by decide)

theorem IsDottedName.unmarked {text : String} (h : IsDottedName text) : Unmarked text := by
  intro c hc hmark
  rcases @Text.exists_mem_pieces (· == '.') _ _ hc with hdot | ⟨piece, hpiece, hmem⟩
  · exact beq_iff_eq.1 hdot
  · have hplain := h (String.ofList piece) (List.mem_map_of_mem hpiece)
    exact absurd (by simpa using hmem) (hplain.2 c hmark)

theorem unmarked_append {first second : String} :
    Unmarked (first ++ second) ↔ Unmarked first ∧ Unmarked second := by
  simp [Unmarked, or_imp, forall_and]

/-- A text made of names and dots is joined from its parts. -/
theorem IsDottedName.qualified_ofQualified {text : String} (h : IsDottedName text) :
    (ClassName.ofQualified text).qualified = text := by
  refine ClassName.qualified_ofQualified_iff.2 fun rest hrest => ?_
  have hempty : "" ∈ Text.stringPieces '.' text := by
    rw [Text.stringPieces, hrest, Text.pieces]
    exact List.mem_cons_self
  exact absurd rfl (h "" hempty).1

namespace ClassName

theorem unmarked_qualified_iff {name : ClassName} :
    Unmarked name.qualified ↔ Unmarked name.package ∧ Unmarked name.simpleName := by
  by_cases hpackage : name.package = ""
  · rw [qualified_of_default hpackage, hpackage]
    simp [Unmarked]
  · rw [qualified_of_package hpackage, unmarked_append, unmarked_append]
    simp [Unmarked]

end ClassName

/-- The type is built in, or a class whose simple name is that of no built-in type. -/
def TypeRef.IsPlain (type : TypeRef) : Prop :=
  type.isBuiltin = true ∨
    IsDottedName type.className ∧
      (ClassName.ofQualified type.className).simpleName ∉ "void" :: TypeRef.primitives

instance (type : TypeRef) : Decidable type.IsPlain := inferInstanceAs (Decidable (_ ∨ _))

/-- The names of a method and of its parameters and types are plain. -/
structure Signature.IsPlain (signature : Signature) : Prop where
  name : IsPlainName signature.name
  returnType : signature.returnType.IsPlain
  parameters : ∀ parameter ∈ signature.parameters,
    IsPlainName parameter.name ∧ parameter.type.IsPlain

instance (signature : Signature) : Decidable signature.IsPlain :=
  decidable_of_iff
    (IsPlainName signature.name ∧ signature.returnType.IsPlain ∧
      ∀ parameter ∈ signature.parameters, IsPlainName parameter.name ∧ parameter.type.IsPlain)
    ⟨fun ⟨hname, htype, hparameters⟩ => ⟨hname, htype, hparameters⟩,
      fun h => ⟨h.name, h.returnType, h.parameters⟩⟩

/-! ### Types as they are written -/

namespace Scope

variable {scope other : Scope}

theorem className_cases (scope : Scope) (name : ClassName) :
    scope.className name = name.simpleName ∨ scope.className name = name.qualified := by
  unfold className
  split_ifs
  · exact Or.inl rfl
  · exact Or.inr rfl

theorem unmarked_className {name : ClassName} (h : Unmarked name.qualified) :
    Unmarked (scope.className name) := by
  rcases scope.className_cases name with hshort | hlong
  · rw [hshort]
    exact (ClassName.unmarked_qualified_iff.1 h).2
  · rwa [hlong]

/-- A type as it is written, without the mark of an array. -/
def baseName (scope : Scope) (type : TypeRef) : String :=
  if type.isBuiltin then type.className else scope.className (ClassName.ofQualified type.className)

theorem type_eq (scope : Scope) (type : TypeRef) :
    scope.type type = scope.baseName type ++ if type.isArray then "[]" else "" := by
  unfold Scope.type baseName
  cases type.isArray <;> simp

theorem unmarked_baseName {type : TypeRef} (h : type.IsPlain) : Unmarked (scope.baseName type) := by
  have hbuiltin : ∀ text ∈ "void" :: TypeRef.primitives, Unmarked text := by decide
  unfold baseName
  split_ifs with htype
  · exact hbuiltin _ (TypeRef.isBuiltin_iff.1 htype)
  · obtain ⟨hdotted, -⟩ := h.resolve_left htype
    refine unmarked_className ?_
    rw [hdotted.qualified_ofQualified]
    exact hdotted.unmarked

theorem not_mem_type {type : TypeRef} (h : type.IsPlain) {mark : Char}
    (hmark : mark ∈ [' ', '\n', ',', '(']) : mark ∉ (scope.type type).toList := by
  have hmarks : ∀ mark ∈ [' ', '\n', ',', '('],
      mark ∈ nameMarks ∧ mark ≠ '.' ∧ mark ∉ ['[', ']'] := by simp [nameMarks]
  obtain ⟨hname, hdot, hbracket⟩ := hmarks mark hmark
  have hbase : mark ∉ (scope.baseName type).toList := (unmarked_baseName h).not_mem hname hdot
  rw [type_eq, String.toList_append, List.mem_append]
  rintro (hmem | hmem)
  · exact hbase hmem
  · split_ifs at hmem
    · exact hbracket hmem
    · exact absurd hmem (List.not_mem_nil)

theorem type_inj {first second : TypeRef} (hfirst : first.IsPlain) (hsecond : second.IsPlain)
    (h : scope.type first = other.type second) :
    first.isArray = second.isArray ∧ scope.baseName first = other.baseName second := by
  have hone : '[' ∉ (scope.baseName first).toList :=
    (unmarked_baseName hfirst).not_mem (by decide) (by decide)
  have htwo : '[' ∉ (other.baseName second).toList :=
    (unmarked_baseName hsecond).not_mem (by decide) (by decide)
  rw [type_eq, type_eq] at h
  cases hleft : first.isArray <;> cases hright : second.isArray
  · exact ⟨rfl, by simpa [hleft, hright] using h⟩
  · exact absurd (by simp [hleft, hright] at h; simp [h]) hone
  · exact absurd (by simp [hleft, hright] at h; simp [← h]) htwo
  · refine ⟨rfl, String.toList_inj.1 ?_⟩
    have hlist := congrArg String.toList h
    simp only [hleft, hright, if_true, String.toList_append] at hlist
    exact ((Text.append_mark_inj hone htwo).1 hlist).1

/-! ### Parameters as they are written -/

theorem toList_parameter (scope : Scope) (parameter : Parameter) :
    (scope.parameter parameter).toList =
      (scope.type parameter.type).toList ++ ' ' :: parameter.name.toList := by
  simp [Scope.parameter]

theorem parameter_inj {first second : Parameter} (hfirst : first.type.IsPlain)
    (hsecond : second.type.IsPlain) (h : scope.parameter first = other.parameter second) :
    scope.type first.type = other.type second.type ∧ first.name = second.name := by
  have hlist := congrArg String.toList h
  rw [toList_parameter, toList_parameter] at hlist
  have hcut := (Text.append_mark_inj (not_mem_type hfirst (by decide))
    (not_mem_type hsecond (by decide))).1 hlist
  exact ⟨String.toList_inj.1 hcut.1, String.toList_inj.1 hcut.2⟩

theorem not_mem_parameter {parameter : Parameter} (hname : IsPlainName parameter.name)
    (htype : parameter.type.IsPlain) {mark : Char} (hmark : mark ∈ ['\n', ',', '(']) :
    mark ∉ (scope.parameter parameter).toList := by
  have hmarks : ∀ mark ∈ ['\n', ',', '('],
      mark ∈ [' ', '\n', ',', '('] ∧ mark ≠ ' ' ∧ mark ∈ nameMarks := by simp [nameMarks]
  obtain ⟨hall, hblank, hnames⟩ := hmarks mark hmark
  rw [toList_parameter, List.mem_append, List.mem_cons]
  rintro (hmem | rfl | hmem)
  · exact not_mem_type htype hall hmem
  · exact hblank rfl
  · exact hname.2 mark hnames hmem

theorem toList_parameters (scope : Scope) (parameters : List Parameter) :
    (scope.parameters parameters).toList =
      [',', ' '].intercalate
        (parameters.map fun parameter => (scope.parameter parameter).toList) := by
  rw [Scope.parameters, String.toList_intercalate, List.map_map]
  rfl

/-- Parameter lists that are written alike agree parameter by parameter. -/
theorem parameters_inj {parameters others : List Parameter}
    (hparameters : ∀ parameter ∈ parameters, IsPlainName parameter.name ∧ parameter.type.IsPlain)
    (hothers : ∀ parameter ∈ others, IsPlainName parameter.name ∧ parameter.type.IsPlain)
    (h : scope.parameters parameters = other.parameters others) :
    List.Forall₂ (fun first second =>
      scope.type first.type = other.type second.type ∧ first.name = second.name)
      parameters others := by
  have hpart (scope : Scope) (list : List Parameter)
      (hlist : ∀ parameter ∈ list, IsPlainName parameter.name ∧ parameter.type.IsPlain) :
      ∀ part ∈ list.map (fun parameter => (scope.parameter parameter).toList),
        part ≠ [] ∧ ',' ∉ part := by
    intro part hpart
    obtain ⟨parameter, hmem, rfl⟩ := List.mem_map.1 hpart
    obtain ⟨hname, htype⟩ := hlist parameter hmem
    refine ⟨?_, not_mem_parameter hname htype (by decide)⟩
    rw [toList_parameter]
    exact List.append_ne_nil_of_right_ne_nil _ (List.cons_ne_nil _ _)
  have hlist := congrArg String.toList h
  rw [toList_parameters, toList_parameters] at hlist
  have hsame := Text.intercalate_inj (by decide) (hpart scope _ hparameters)
    (hpart other _ hothers) hlist
  rw [← List.forall₂_eq_eq_eq, List.forall₂_map_left_iff, List.forall₂_map_right_iff] at hsame
  refine (forall₂_mem hsame).imp ?_
  rintro first second ⟨hfirst, hsecond, htext⟩
  exact parameter_inj (hparameters _ hfirst).2 (hothers _ hsecond).2 (String.toList_inj.1 htext)

end Scope

end Forwarding
