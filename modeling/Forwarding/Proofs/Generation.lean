import Forwarding.Generation
import Forwarding.Proofs.ClassName
import Forwarding.Proofs.Pointwise

/-!
# The forwarding class of an interface

A class is generated by steps: the delegate's field together with the constructor that is being
prepared, one method for each signature, each again made by one step for each parameter, and last
the constructor.  What all these steps come to is stated at once.

* `HasMethods`: the signatures of the methods among some members;
* `Method.Forwards`: a method passes the calls of a signature on to a field;
* `Forwarder.Implements`: a class forwards an interface to a delegate and has nothing else;
* `className_eq_ok_iff`, `className_rebuilds`: the names that an interface can have, and exactly
  when it has one;
* `ClassName.cut_and_join`: where cutting and joining qualified names undo each other;
* `forwarder_eq`: the generated class in one piece;
* `forwarder_implements`: a class is generated exactly if the interface has a name, and then
  forwards the interface.
-/

namespace Forwarding

theorem TypeRef.isVoid_iff {type : TypeRef} : type.isVoid = true ↔ type = .void := by
  cases type
  simp [isVoid, void]

@[simp]
theorem ClassName.typeRef_className (name : ClassName) : name.typeRef.className = name.qualified :=
  rfl

@[simp]
theorem ClassName.typeRef_isArray (name : ClassName) : name.typeRef.isArray = false := rfl

/-! ### Methods among members -/

/-- The signatures are those of the methods among the members, one for each and in the same order.
Members of another kind have none. -/
inductive HasMethods : List Member → List Signature → Prop
  | nil : HasMethods [] []
  | method {members : List Member} {signatures : List Signature} (signature : Signature) :
      HasMethods members signatures →
        HasMethods (.method signature :: members) (signature :: signatures)
  | field {members : List Member} {signatures : List Signature} (name : String) :
      HasMethods members signatures → HasMethods (.field name :: members) signatures
  | type {members : List Member} {signatures : List Signature} (name : String) :
      HasMethods members signatures → HasMethods (.type name :: members) signatures
  | initializer {members : List Member} {signatures : List Signature} :
      HasMethods members signatures → HasMethods (.initializer :: members) signatures

namespace HasMethods

variable {members : List Member} {signatures : List Signature}

theorem mem_iff (h : HasMethods members signatures) {signature : Signature} :
    signature ∈ signatures ↔ .method signature ∈ members := by
  induction h with
  | nil => simp
  | method first _ ih => simp [ih]
  | field _ _ ih => simp [ih]
  | type _ _ ih => simp [ih]
  | initializer _ ih => simp [ih]

theorem eq_filterMap (h : HasMethods members signatures) :
    signatures = members.filterMap Member.signature? := by
  induction h with
  | nil => rfl
  | method signature _ ih => exact congrArg (signature :: ·) ih
  | field _ _ ih => exact ih
  | type _ _ ih => exact ih
  | initializer _ ih => exact ih

end HasMethods

theorem hasMethods_filterMap (members : List Member) :
    HasMethods members (members.filterMap Member.signature?) := by
  induction members with
  | nil => exact .nil
  | cons member rest ih =>
    cases member with
    | method signature => exact .method signature ih
    | field name => exact .field name ih
    | type name => exact .type name ih
    | initializer => exact .initializer ih

namespace Interface

theorem hasMethods (interface : Interface) : HasMethods interface.members interface.signatures :=
  hasMethods_filterMap interface.members

theorem hasMethods_iff {interface : Interface} {signatures : List Signature} :
    HasMethods interface.members signatures ↔ signatures = interface.signatures :=
  ⟨HasMethods.eq_filterMap, fun h => h ▸ interface.hasMethods⟩

theorem mem_signatures_iff {interface : Interface} {signature : Signature} :
    signature ∈ interface.signatures ↔ .method signature ∈ interface.members :=
  interface.hasMethods.mem_iff

end Interface

/-! ### What is generated -/

/-- The method passes every call of the signature on to the object in `field`, with the parameters
as arguments. -/
structure Method.Forwards (method : Method) (signature : Signature) (field : String) : Prop where
  name : method.name = signature.name
  modifier : method.modifier = .isPublic
  isOverride : method.isOverride = true
  returnType : method.returnType = signature.returnType
  parameters : method.parameters = signature.parameters
  body : ∃ returns, (returns = true ↔ signature.returnType ≠ .void) ∧
    method.body =
      [.forward returns field signature.name (signature.parameters.map (·.name))]

/-- The class is public, lies in the package of the interface, whose name it has right, and forwards
each method of the interface to the delegate, which its constructor takes. -/
structure Forwarder.Implements (unit : Forwarder) (interface : Interface) (delegate : Delegate)
    (output : String) : Prop where
  modifier : unit.modifier = .isPublic
  name : unit.name = ⟨unit.interface.package, output⟩
  interface_simpleName : unit.interface.simpleName = interface.simpleName
  interface_qualified : unit.interface.qualified = interface.qualifiedName
  methods : ∃ signatures, HasMethods interface.members signatures ∧
    List.Forall₂ (fun signature method => method.Forwards signature delegate.fieldName)
      signatures unit.methods
  fields : unit.fields =
    [⟨delegate.fieldName, ⟨delegate.package, delegate.className⟩, .isPrivate⟩]
  constructor_modifier : unit.constructor.modifier = .isPublic
  constructor_parameters : unit.constructor.parameters =
    [⟨delegate.fieldName, ⟨(ClassName.mk delegate.package delegate.className).qualified, false⟩⟩]
  constructor_body : unit.constructor.body = [.assign delegate.fieldName delegate.fieldName]

/-! ### The name of an interface -/

theorem packageOf_eq_some_iff {qualified simple package : List Char} :
    packageOf qualified simple = some package ↔
      simple ≠ [] ∧
        (package = [] ∧ qualified = simple ∨
          package ≠ [] ∧ qualified = package ++ '.' :: simple) := by
  unfold packageOf
  split_ifs with hsimple hqualified
  · simp [hsimple]
  · subst hqualified
    constructor
    · intro h
      exact ⟨hsimple, Or.inl ⟨(Option.some.inj h).symm, rfl⟩⟩
    · rintro ⟨-, ⟨rfl, -⟩ | ⟨-, h⟩⟩
      · rfl
      · have := congrArg List.length h
        simp at this
        omega
  · constructor
    · intro h
      cases hstart : Text.beforeSuffix simple qualified with
      | none => simp [hstart] at h
      | some start =>
        cases hcut : Text.beforeSuffix ['.'] start with
        | none => simp [hstart, hcut] at h
        | some cut =>
          simp only [hstart, hcut] at h
          split_ifs at h with hempty
          obtain rfl := Option.some.inj h
          refine ⟨hsimple, Or.inr ⟨hempty, ?_⟩⟩
          rw [Text.beforeSuffix_eq_some_iff.1 hstart, Text.beforeSuffix_eq_some_iff.1 hcut]
          simp
    · rintro ⟨-, ⟨-, h⟩ | ⟨hpackage, rfl⟩⟩
      · exact absurd h hqualified
      · have hstart : Text.beforeSuffix simple (package ++ '.' :: simple) =
            some (package ++ ['.']) := Text.beforeSuffix_eq_some_iff.2 (by simp)
        have hcut : Text.beforeSuffix ['.'] (package ++ ['.']) = some package :=
          Text.beforeSuffix_eq_some_iff.2 rfl
        simp [hstart, hcut, hpackage]

namespace Interface

/-- An interface has the name that its two given names agree on. -/
theorem className_eq_ok_iff {interface : Interface} {name : ClassName} :
    interface.className = .ok name ↔
      interface.simpleName ≠ "" ∧ name.simpleName = interface.simpleName ∧
        name.qualified = interface.qualifiedName := by
  obtain ⟨package, simpleName⟩ := name
  have hpackage : interface.className = .ok ⟨package, simpleName⟩ ↔
      packageOf interface.qualifiedName.toList interface.simpleName.toList =
        some package.toList ∧ simpleName = interface.simpleName := by
    unfold className
    cases packageOf interface.qualifiedName.toList interface.simpleName.toList with
    | none => simp
    | some found =>
      simp only [Except.ok.injEq, ClassName.mk.injEq, Option.some.injEq]
      rw [← String.toList_inj, String.toList_ofList, eq_comm (a := simpleName)]
  rw [hpackage, packageOf_eq_some_iff, ClassName.qualified_eq_iff]
  constructor
  · rintro ⟨⟨hne, hparts⟩, rfl⟩
    exact ⟨fun h => hne (by rw [h]; rfl), rfl, hparts⟩
  · rintro ⟨hne, rfl, hparts⟩
    exact ⟨⟨by simpa using hne, hparts⟩, rfl⟩

/-- The fault of an interface without a name holds its two given names. -/
theorem className_eq_error_iff {interface : Interface} {fault : MalformedName} :
    interface.className = .error fault ↔
      fault = ⟨interface.qualifiedName, interface.simpleName⟩ ∧
        ¬ ∃ name, interface.className = .ok name := by
  unfold className
  cases packageOf interface.qualifiedName.toList interface.simpleName.toList with
  | none => simp [eq_comm]
  | some package => simp

/-- **An interface has a name exactly if some package, put before its simple name, gives its
qualified name**, and the simple name is not empty.  There is only one such package, and the name is
made of it and the simple name.  If there is none, the fault holds the two names as they were
given. -/
theorem className_rebuilds (interface : Interface) :
    ((∃ name, interface.className = .ok name) ↔
        interface.simpleName ≠ "" ∧
          ∃ package, (ClassName.mk package interface.simpleName).qualified =
            interface.qualifiedName) ∧
      (∀ name, interface.className = .ok name →
        name.simpleName = interface.simpleName ∧ name.qualified = interface.qualifiedName ∧
          ∀ package, (ClassName.mk package interface.simpleName).qualified =
            interface.qualifiedName → package = name.package) ∧
      ∀ fault, interface.className = .error fault ↔
        fault = ⟨interface.qualifiedName, interface.simpleName⟩ ∧
          ¬ (interface.simpleName ≠ "" ∧
            ∃ package, (ClassName.mk package interface.simpleName).qualified =
              interface.qualifiedName) := by
  have hok : (∃ name, interface.className = .ok name) ↔
      interface.simpleName ≠ "" ∧
        ∃ package, (ClassName.mk package interface.simpleName).qualified =
          interface.qualifiedName := by
    constructor
    · rintro ⟨⟨package, simpleName⟩, hname⟩
      obtain ⟨hne, rfl, hqualified⟩ := className_eq_ok_iff.1 hname
      exact ⟨hne, package, hqualified⟩
    · rintro ⟨hne, package, hqualified⟩
      exact ⟨_, className_eq_ok_iff.2 ⟨hne, rfl, hqualified⟩⟩
  refine ⟨hok, fun name hname => ?_, fun fault => ?_⟩
  · obtain ⟨hne, hsimple, hqualified⟩ := className_eq_ok_iff.1 hname
    refine ⟨hsimple, hqualified, fun package hpackage => ?_⟩
    -- a second package would give the interface a second name
    have hother := className_eq_ok_iff.2 ⟨hne, rfl, hpackage⟩
    exact congrArg ClassName.package (Except.ok.inj (hother.symm.trans hname))
  · rw [className_eq_error_iff, hok]

end Interface

/-- **Cutting at the last dot and joining by a dot undo each other as far as the parts allow it.**
A class comes back from its qualified name exactly if its simple name has no dot, and a text comes
back from its parts exactly if it is none whose only dot comes first.  So an interface whose simple
name has no dot has the name that its qualified name is cut into. -/
theorem ClassName.cut_and_join :
    (∀ name : ClassName, ofQualified name.qualified = name ↔ '.' ∉ name.simpleName.toList) ∧
      (∀ text : String, (ofQualified text).qualified = text ↔
        ¬ ∃ rest, text.toList = '.' :: rest ∧ '.' ∉ rest) ∧
      ∀ (interface : Interface) (name : ClassName), '.' ∉ interface.simpleName.toList →
        interface.className = .ok name → name = ofQualified interface.qualifiedName := by
  refine ⟨fun name => ofQualified_qualified_iff, fun text => ?_,
    fun interface name hdot hname => ?_⟩
  · rw [qualified_ofQualified_iff]
    simp
  · obtain ⟨-, hsimple, hqualified⟩ := Interface.className_eq_ok_iff.1 hname
    rw [← hqualified, ofQualified_qualified (hsimple ▸ hdot)]

/-- A simple name with a dot and a text whose only dot comes first are lost; an interface whose
package is a dot keeps its name. -/
theorem ClassName.cut_and_join_dots :
    let interface : Interface := ⟨"..Greeter", "Greeter", []⟩
    ofQualified (ClassName.mk "a" "b.C").qualified ≠ ⟨"a", "b.C"⟩ ∧
      (ofQualified ".C").qualified ≠ ".C" ∧
      '.' ∉ interface.simpleName.toList ∧
      interface.className = .ok ⟨".", "Greeter"⟩ ∧
      (⟨".", "Greeter"⟩ : ClassName) = ofQualified interface.qualifiedName := by
  obtain ⟨hclass, htext, hinterface⟩ := cut_and_join
  refine ⟨fun hsame => (hclass _).1 hsame (by decide), fun hsame => ?_, by decide, rfl,
    hinterface _ _ (by decide) rfl⟩
  exact (htext _).1 hsame ⟨['C'], by decide, by decide⟩

/-! ### The steps of the generation -/

/-- Parameters are added in order, after those there are. -/
theorem Method.addParameters_eq (method : Method) (parameters : List Parameter) :
    method.addParameters parameters =
      { method with parameters := method.parameters ++ parameters } := by
  unfold addParameters
  induction parameters generalizing method with
  | nil => simp
  | cons parameter rest ih =>
    rw [List.foldl_cons, ih]
    simp [edit]

theorem Signature.forward_forwards (signature : Signature) (field : String) :
    (signature.forward field).Forwards signature field := by
  simp only [forward, Method.addParameters_eq, Method.edit, List.nil_append]
  exact
    { name := rfl
      modifier := rfl
      isOverride := rfl
      returnType := rfl
      parameters := rfl
      body := ⟨!signature.returnType.isVoid, by
        rw [Bool.not_eq_true', ← Bool.not_eq_true, TypeRef.isVoid_iff], rfl⟩ }

/-- Forwarding methods are added in order, after the methods there are; the pending constructor and
all else stay. -/
theorem Draft.addForwarding_eq (draft : Draft) (interface : Interface) (field : String) :
    draft.addForwarding interface field =
      { draft with built := { draft.built with
          methods := draft.built.methods ++ interface.signatures.map (·.forward field) } } := by
  unfold addForwarding
  induction interface.signatures generalizing draft with
  | nil => simp
  | cons signature rest ih =>
    rw [List.foldl_cons, ih]
    simp [addMethod]

namespace Interface

/-- The generated class in one piece. -/
theorem forwarder_eq (interface : Interface) (delegate : Delegate) (output : String) :
    interface.forwarder delegate output = interface.className.map fun name =>
      { name := ⟨name.package, output⟩
        interface := name
        doc := some classDoc
        fields := [⟨delegate.fieldName, delegate.name, .isPrivate⟩]
        constructor :=
          { parameters := [⟨delegate.fieldName, delegate.name.typeRef⟩]
            body := [.assign delegate.fieldName delegate.fieldName] }
        methods := interface.signatures.map (·.forward delegate.fieldName) } := by
  unfold forwarder begin
  cases interface.className with
  | error fault => rfl
  | ok name =>
    simp only [Except.map, Draft.addForwarding_eq]
    rfl

theorem forwarder_eq_error_iff {interface : Interface} {delegate : Delegate} {output : String}
    {fault : MalformedName} :
    interface.forwarder delegate output = .error fault ↔ interface.className = .error fault := by
  rw [forwarder_eq]
  cases interface.className <;> simp [Except.map]

/-- A generated class forwards the interface, by its own name, to the delegate. -/
theorem implements_of_forwarder {interface : Interface} {delegate : Delegate} {output : String}
    {unit : Forwarder} (h : interface.forwarder delegate output = .ok unit) :
    interface.className = .ok unit.interface ∧ unit.Implements interface delegate output := by
  rw [forwarder_eq] at h
  cases hname : interface.className with
  | error fault => simp [hname, Except.map] at h
  | ok name =>
    obtain ⟨-, hsimple, hqualified⟩ := className_eq_ok_iff.1 hname
    rw [hname] at h
    obtain rfl := Except.ok.inj h
    refine ⟨rfl, ?_⟩
    exact
      { modifier := rfl
        name := rfl
        interface_simpleName := hsimple
        interface_qualified := hqualified
        methods := by
          refine ⟨interface.signatures, interface.hasMethods, ?_⟩
          rw [List.forall₂_map_right_iff]
          exact List.forall₂_same.2 fun signature _ => signature.forward_forwards _
        fields := rfl
        constructor_modifier := rfl
        constructor_parameters := rfl
        constructor_body := rfl }

/-- **A class is generated exactly if the interface has a name, and then it forwards the interface
to the delegate.**  If the interface has none, the fault says so. -/
theorem forwarder_implements (interface : Interface) (delegate : Delegate) (output : String) :
    ((∃ unit, interface.forwarder delegate output = .ok unit) ↔
        ∃ name, interface.className = .ok name) ∧
      (∀ fault, interface.forwarder delegate output = .error fault ↔
        interface.className = .error fault) ∧
      ∀ unit, interface.forwarder delegate output = .ok unit →
        interface.className = .ok unit.interface ∧ unit.Implements interface delegate output := by
  refine ⟨⟨?_, ?_⟩, fun fault => forwarder_eq_error_iff, fun unit => implements_of_forwarder⟩
  · rintro ⟨unit, hunit⟩
    exact ⟨unit.interface, (implements_of_forwarder hunit).1⟩
  · rintro ⟨name, hname⟩
    rw [forwarder_eq, hname]
    exact ⟨_, rfl⟩

end Interface

namespace Forwarder.Implements

variable {unit : Forwarder} {interface : Interface} {delegate : Delegate} {output : String}
  (h : unit.Implements interface delegate output)

include h

/-- The methods forward the signatures, in order. -/
theorem forall₂_forwards :
    List.Forall₂ (fun signature method => method.Forwards signature delegate.fieldName)
      interface.signatures unit.methods := by
  obtain ⟨signatures, hsignatures, hmethods⟩ := h.methods
  rwa [Interface.hasMethods_iff.1 hsignatures] at hmethods

/-- Each method of a class that implements an interface forwards one of its signatures. -/
theorem exists_forwards {method : Method} (hmethod : method ∈ unit.methods) :
    ∃ signature ∈ interface.signatures, method.Forwards signature delegate.fieldName :=
  exists_of_mem_right h.forall₂_forwards hmethod

/-- The methods have the names of the signatures, in order. -/
theorem map_name : unit.methods.map (·.name) = interface.signatures.map (·.name) := by
  have hpointwise : List.Forall₂ (· = ·) (interface.signatures.map (·.name))
      (unit.methods.map (·.name)) := by
    rw [List.forall₂_map_left_iff, List.forall₂_map_right_iff]
    exact h.forall₂_forwards.imp fun _ _ hforwards => hforwards.name.symm
  rw [List.forall₂_eq_eq_eq] at hpointwise
  exact hpointwise.symm

end Forwarder.Implements

end Forwarding
