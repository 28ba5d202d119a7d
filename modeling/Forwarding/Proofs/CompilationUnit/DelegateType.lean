import Forwarding.Proofs.CompilationUnit.Resolution
import Forwarding.Proofs.Generation

/-!
# The type of the delegate in a Java compilation unit

The field has the class of the delegate as its type, which is written as it was cut into package and
simple name.  The parameter of the constructor has its type by the qualified name of that class,
which is cut again at the last dot.  The two cuts are one if the simple name has no dot; a nested
class has one.

* `Scope.type_typeRef_eq_iff`: when a class is written in one way under both cuts;
* `Forwarder.qualified_not_mem_short_iff`: when no class of a qualified name is written short;
* `Interface.delegate_type_iff`: exactly when the types of field and parameter are written alike;
* `Interface.delegate_type_nested`: a nested class that is written in two ways.
-/

namespace Forwarding

namespace Scope

variable {name : ClassName}

/-- The text of a built-in type is no qualified name with a package. -/
theorem isBuiltin_typeRef (h : name.typeRef.isBuiltin = true) : '.' ∉ name.qualified.toList := by
  have hnodot : ∀ text ∈ "void" :: TypeRef.primitives, '.' ∉ text.toList := by decide
  refine hnodot _ ?_
  simpa [TypeRef.isBuiltin] using h

/-- A class without a dot in its simple name is written in one way, as a class and as a type. -/
theorem type_typeRef_of_no_dot (scope : Scope) (h : '.' ∉ name.simpleName.toList) :
    scope.type name.typeRef = scope.className name := by
  have hcut : ClassName.ofQualified name.qualified = name := ClassName.ofQualified_qualified h
  unfold type
  cases hbuiltin : name.typeRef.isBuiltin with
  | false => simp [hcut]
  | true =>
    -- a class called like a built-in type is in the default package, where both names are the same
    have hpackage : name.package = "" := by
      by_contra hne
      exact isBuiltin_typeRef hbuiltin ((ClassName.dot_mem_qualified h).2 hne)
    simp [className, ClassName.qualified_of_default hpackage]

/-- A class with a dot in its simple name is written in one way, as a class and as a type, exactly
if it is not written short. -/
theorem type_typeRef_of_dot (scope : Scope) (hdot : '.' ∈ name.simpleName.toList)
    (hhead : name.simpleName.toList.head? ≠ some '.') :
    scope.type name.typeRef = scope.className name ↔ name.qualified ∉ scope.short := by
  have hbuiltin : name.typeRef.isBuiltin = false := by
    refine Bool.eq_false_iff.2 fun h => isBuiltin_typeRef h ?_
    by_cases hpackage : name.package = ""
    · rwa [ClassName.qualified_of_default hpackage]
    · rw [ClassName.toList_qualified hpackage]
      exact List.mem_append_right _ (List.mem_cons_of_mem _ hdot)
  have htype : scope.type name.typeRef =
      scope.className (ClassName.ofQualified name.qualified) := by
    simp [type, hbuiltin]
  rw [htype, className, className, ClassName.qualified_ofQualified_qualified hhead]
  split_ifs with hshort
  · -- the simple name of the second cut has no dot
    have hne : (ClassName.ofQualified name.qualified).simpleName ≠ name.simpleName := fun hsame =>
      ClassName.dot_not_mem_ofQualified name.qualified (hsame ▸ hdot)
    exact iff_of_false hne fun hnot => hnot (List.contains_iff_mem.1 hshort)
  · exact iff_of_true rfl fun hmem => hshort (List.contains_iff_mem.2 hmem)

theorem type_typeRef_eq_iff (scope : Scope) (hhead : name.simpleName.toList.head? ≠ some '.') :
    scope.type name.typeRef = scope.className name ↔
      '.' ∉ name.simpleName.toList ∨ name.qualified ∉ scope.short := by
  by_cases hdot : '.' ∈ name.simpleName.toList
  · rw [scope.type_typeRef_of_dot hdot hhead, or_iff_right (not_not.2 hdot)]
  · exact iff_of_true (scope.type_typeRef_of_no_dot hdot) (Or.inl hdot)

/-- The simple name of a claimant is contested exactly if another class lays claim to it. -/
theorem contested_iff_of_mem {claimants : List ClassName} (hname : name ∈ claimants) :
    contested claimants name.simpleName = true ↔
      ∃ other ∈ claimants, other.simpleName = name.simpleName ∧
        other.qualified ≠ name.qualified := by
  rw [← Bool.not_eq_false, contested_eq_false_iff]
  constructor
  · intro hcontested
    by_contra hnone
    have hall : ∀ other ∈ claimants, other.simpleName = name.simpleName →
        other.qualified = name.qualified := by
      intro other hother hsimple
      by_contra hne
      exact hnone ⟨other, hother, hsimple, hne⟩
    refine hcontested fun a ha b hb hsa hsb => ?_
    rw [hall a ha hsa, hall b hb hsb]
  · rintro ⟨other, hother, hsimple, hne⟩ hall
    exact hne (hall other hother name hname hsimple rfl)

end Scope

/-- No class of a qualified name is written short exactly if all mentions of that qualified name
have simple names to which other classes lay claim. -/
theorem Forwarder.qualified_not_mem_short_iff {unit : Forwarder} {qualified : String} :
    qualified ∉ (Scope.of unit).short ↔
      ∀ name ∈ unit.references, name.qualified = qualified →
        ∃ other ∈ unit.name :: unit.references, other.simpleName = name.simpleName ∧
          other.qualified ≠ name.qualified := by
  rw [Scope.mem_short_iff]
  constructor
  · intro hnone name hname hqualified
    refine (Scope.contested_iff_of_mem (List.mem_cons_of_mem _ hname)).1 ?_
    by_contra hcontested
    exact hnone ⟨name, hname, Bool.eq_false_iff.2 hcontested, hqualified⟩
  · rintro hall ⟨name, hname, huncontested, hqualified⟩
    have hcontested := (Scope.contested_iff_of_mem (List.mem_cons_of_mem _ hname)).2
      (hall name hname hqualified)
    rw [huncontested] at hcontested
    cases hcontested

namespace Interface

/-- **The types of the delegate's field and of the constructor's parameter are written alike exactly
if the simple name of the delegate's class has no dot, or no mention of that class can be written
short.**  The two stand two lines apart. -/
theorem delegate_type_iff {interface : Interface} {delegate : Delegate} {output : String}
    {unit : Forwarder} (hunit : interface.forwarder delegate output = .ok unit)
    (hhead : delegate.className.toList.head? ≠ some '.') :
    ∃ fieldType parameterType before after,
      unit.javaLines = before ++
        [indented 1 ("private " ++ fieldType ++ " " ++ delegate.fieldName ++ ";"), "",
          indented 1 ("public " ++ output ++ "(" ++ parameterType ++ " " ++ delegate.fieldName ++
            ") \x7b")] ++ after ∧
      (fieldType = parameterType ↔
        '.' ∉ delegate.className.toList ∨
          ∀ name ∈ unit.references, name.qualified = delegate.name.qualified →
            ∃ other ∈ unit.name :: unit.references, other.simpleName = name.simpleName ∧
              other.qualified ≠ name.qualified) := by
  obtain ⟨-, himplements⟩ := implements_of_forwarder hunit
  let scope := Scope.of unit
  refine ⟨scope.className delegate.name, scope.type delegate.name.typeRef,
    packageLines unit.name.package ++ scope.importLines ++ commentLines unit.doc ++
      [unit.headLine scope],
    unit.constructor.body.map (fun statement => indented 2 statement.javaLine) ++
      [indented 1 "\x7d"] ++ unit.methods.flatMap (fun method => "" :: method.javaLines scope) ++
      ["\x7d"], ?_, ?_⟩
  · have hfields : unit.fields.map (·.javaLine scope) =
        [indented 1 ("private " ++ scope.className delegate.name ++ " " ++ delegate.fieldName ++
          ";")] := by
      rw [himplements.fields]
      rfl
    have hconstructor : unit.constructor.javaLines scope unit.name.simpleName =
        indented 1 ("public " ++ output ++ "(" ++ scope.type delegate.name.typeRef ++ " " ++
          delegate.fieldName ++ ") \x7b") ::
        unit.constructor.body.map (fun statement => indented 2 statement.javaLine) ++
          [indented 1 "\x7d"] := by
      rw [Constructor.javaLines, himplements.constructor_parameters,
        himplements.constructor_modifier, himplements.name]
      simp [bodyLines, Scope.parameters, Scope.parameter, Modifier.keyword, String.append_assoc,
        ClassName.typeRef, Delegate.name]
    simp only [Forwarder.javaLines]
    rw [hfields, hconstructor]
    simp [scope]
  · rw [eq_comm, scope.type_typeRef_eq_iff hhead, Forwarder.qualified_not_mem_short_iff]
    rfl

/-- A clock whose times are of a class called `Date`. -/
def clock : Interface :=
  ⟨"com.example.Clock", "Clock", [.method ⟨"now", ⟨"java.util.Date", false⟩, []⟩]⟩

/-- A delegate of another class that is called `Date`. -/
def clockDelegate : Delegate := ⟨"java.sql", "Date", "source"⟩

/-- The class that forwards the clock. -/
def clockForwarder : Forwarder where
  name := ⟨"com.example", "ClockImpl"⟩
  interface := ⟨"com.example", "Clock"⟩
  doc := some classDoc
  fields := [⟨"source", clockDelegate.name, .isPrivate⟩]
  constructor :=
    { parameters := [⟨"source", ⟨"java.sql.Date", false⟩⟩], body := [.assign "source" "source"] }
  methods := [Signature.forward ⟨"now", ⟨"java.util.Date", false⟩, []⟩ "source"]

theorem delegate_type_iff_clock :
    clock.forwarder clockDelegate "ClockImpl" = .ok clockForwarder ∧
      clockDelegate.className.toList.head? ≠ some '.' ∧
      ∃ fieldType parameterType before after,
        clockForwarder.javaLines = before ++
          [indented 1 ("private " ++ fieldType ++ " source;"), "",
            indented 1 ("public ClockImpl(" ++ parameterType ++ " source) \x7b")] ++ after ∧
        fieldType = parameterType := by
  have hunit : clock.forwarder clockDelegate "ClockImpl" = .ok clockForwarder := rfl
  have hhead : clockDelegate.className.toList.head? ≠ some '.' := by decide
  obtain ⟨fieldType, parameterType, before, after, hlines, hiff⟩ := delegate_type_iff hunit hhead
  refine ⟨hunit, hhead, fieldType, parameterType, before, after, ?_, hiff.2 (Or.inl (by decide))⟩
  simpa [String.append_assoc, clockDelegate] using hlines

/-- A delegate of a nested class. -/
def nestedDelegate : Delegate := ⟨"com.memory", "Stores.Fast", "store"⟩

/-- The class that forwards an interface without methods to the delegate of the nested class. -/
def nestedForwarder : Forwarder where
  name := ⟨"com.example", "LabelImpl"⟩
  interface := ⟨"com.example", "Label"⟩
  doc := some classDoc
  fields := [⟨"store", nestedDelegate.name, .isPrivate⟩]
  constructor :=
    { parameters := [⟨"store", ⟨"com.memory.Stores.Fast", false⟩⟩], body := [.assign "store" "store"] }

/-- The class is imported as `Fast`, which the constructor calls it and the field does not. -/
theorem delegate_type_nested :
    Interface.forwarder ⟨"com.example.Label", "Label", []⟩ nestedDelegate "LabelImpl" =
        .ok nestedForwarder ∧
      nestedForwarder.javaLines =
        ["package com.example;", "",
          "import com.memory.Stores.Fast;", "",
          "/**", " * Forwards every call to the injected delegate.",
          " * Generated by delegen, do not edit.", " */",
          "public class LabelImpl implements Label \x7b",
          "    private Stores.Fast store;", "",
          "    public LabelImpl(Fast store) \x7b",
          "        this.store = store;",
          "    \x7d",
          "\x7d"] :=
  ⟨rfl, by decide⟩

end Interface

end Forwarding
