import Forwarding.Descriptor
import Forwarding.Json.Reader

/-!
# Reading descriptors

The keys of each record and the reader of its fields.  A target holds the fields of its interface,
and a parameter those of its type, beside its own: the own fields are read where they stand,
the others once the object has ended.

`readDescriptor` reads a whole input file.
-/

namespace Forwarding

open Json

/-! ### Types and parameters -/

/-- The keys of a type. -/
inductive TypeKey where
  | name
  | isArray
  deriving DecidableEq

/-- The values of a type's keys. -/
def TypeKey.Value : TypeKey → Type
  | .name => String
  | .isArray => Bool

/-- The record of a type. -/
def TypeKey.shape : Shape TypeKey where
  title := "struct TypeRef"
  keys := [.name, .isArray]
  text
    | .name => "type"
    | .isArray => "isArray"
  required
    | .name => true
    | .isArray => false

/-- The readers of a type's fields. -/
def TypeKey.read : (key : TypeKey) → Reader key.Value
  | .name => readString
  | .isArray => readBool

/-- A type.  It is no array unless that is said. -/
def readType : Reader TypeRef := fun place value => do
  let fields ← TypeKey.shape.readRecord TypeKey.read place value
  let name ← TypeKey.shape.require fields .name
  return ⟨name, (fields .isArray).getD false⟩

/-- The key of a parameter's own field. -/
inductive ParameterKey where
  | name
  deriving DecidableEq

/-- The record of a parameter, its type left out. -/
def ParameterKey.shape : Shape ParameterKey where
  title := "struct Parameter"
  keys := [.name]
  text := fun .name => "name"
  required := fun .name => true

/-- A parameter, which holds the fields of its type. -/
def readParameter : Reader Parameter := fun place value => do
  let (fields, others) ←
    ParameterKey.shape.readKeyed (α := fun _ => String) (fun .name => readString) place value
  let name ← ParameterKey.shape.require fields .name
  let type ← readType { place with buffered := true } others
  return ⟨name, type⟩

/-! ### Members -/

/-- The keys of a method. -/
inductive MethodKey where
  | name
  | returnType
  | parameters
  deriving DecidableEq

/-- The values of a method's keys. -/
def MethodKey.Value : MethodKey → Type
  | .name => String
  | .returnType => TypeRef
  | .parameters => List Parameter

/-- The record of a method. -/
def MethodKey.shape : Shape MethodKey where
  title := "struct Method"
  keys := [.name, .returnType, .parameters]
  text
    | .name => "name"
    | .returnType => "returnType"
    | .parameters => "parameters"
  required
    | .parameters => false
    | _ => true

/-- The readers of a method's fields. -/
def MethodKey.read : (key : MethodKey) → Reader key.Value
  | .name => readString
  | .returnType => readType
  | .parameters => readList readParameter

/-- A method.  It has no parameters unless some are given. -/
def readSignature : Reader Signature := fun place value => do
  let fields ← MethodKey.shape.readRecord MethodKey.read place value
  let name ← MethodKey.shape.require fields .name
  let returnType ← MethodKey.shape.require fields .returnType
  return ⟨name, returnType, (fields .parameters).getD []⟩

/-- The kinds of members. -/
inductive MemberKind where
  | method
  | field
  | type
  | initializer
  deriving DecidableEq

namespace MemberKind

/-- The kinds in declaration order. -/
def all : List MemberKind := [.method, .field, .type, .initializer]

/-- The name of a kind. -/
def text : MemberKind → String
  | .method => "method"
  | .field => "field"
  | .type => "type"
  | .initializer => "initializer"

end MemberKind

/-- The kind of a member, by name.  In a value that was gone through before it may also be given
by its number. -/
def readKind : Reader MemberKind := fun place value =>
  match value with
  | .string (some name) =>
      match MemberKind.all.find? fun kind => kind.text = name with
      | some kind => .ok kind
      | none => dataFault (.unknownVariant name (MemberKind.all.map (·.text)))
  | value => do
      match ← value.found with
      | .number (.natural index) =>
          if place.buffered then
            match MemberKind.all[index]? with
            | some kind => return kind
            | none => dataFault (.variantOutOfRange index MemberKind.all.length)
          else dataFault (.wrongType (.number (.natural index)) "variant identifier")
      | found => dataFault (.wrongType found "variant identifier")

/-- The key of the only field of a field or type member. -/
inductive NameKey where
  | name
  deriving DecidableEq

/-- The record of a field or type member. -/
def NameKey.shape (title : String) : Shape NameKey where
  title := title
  keys := [.name]
  text := fun .name => "name"
  required := fun .name => true

/-- The name of a field or type member. -/
def readName (title : String) : Reader String := fun place value => do
  let fields ←
    (NameKey.shape title).readRecord (α := fun _ => String) (fun .name => readString) place value
  (NameKey.shape title).require fields .name

/-- The fields of an initializer: an object may hold anything, an array nothing. -/
def readNoFields : Reader Unit := fun _ value =>
  match value with
  | .array (item :: items) _ =>
      dataFault (.wrongLength (item :: items).length (elements 0 ++ " in sequence"))
  | _ => .ok ()

/-- The member of a kind from its other fields, all of which were gone through before. -/
def readMemberOf (kind : MemberKind) (place : Place) (fields : Value) :
    Except ReadFault Member :=
  let place := { place with buffered := true }
  match kind with
  | .method => (readSignature place fields).map .method
  | .field => (readName "struct variant Member::Field" place fields).map .field
  | .type => (readName "struct variant Member::Type" place fields).map .type
  | .initializer => (readNoFields place fields).map fun _ => .initializer

/-- The key of the kind of a member. -/
inductive KindKey where
  | kind
  deriving DecidableEq

/-- The record of a member, the fields of its kind left out. -/
def KindKey.shape : Shape KindKey where
  title := "internally tagged enum Member"
  keys := [.kind]
  text := fun .kind => "kind"
  required := fun .kind => true

/-- A member: an object with its kind and fields, or an array of them. -/
def readMember : Reader Member := fun place value =>
  match value with
  | .array items ending => do
      let inner ← place.enter
      match items with
      | [] => do
          finish ending
          dataFault (.missingField (KindKey.shape.text .kind))
      | first :: rest => do
          let kind ← readKind inner first
          rest.forM (·.buffer inner)
          finish ending
          readMemberOf kind place (.array rest none)
  | value => do
      let (fields, others) ←
        KindKey.shape.readKeyed (α := fun _ => MemberKind) (fun .kind => readKind) place value
      let kind ← KindKey.shape.require fields .kind
      readMemberOf kind place others

/-! ### Interfaces and targets -/

/-- The keys of an interface. -/
inductive InterfaceKey where
  | qualifiedName
  | simpleName
  | members
  deriving DecidableEq

/-- The values of an interface's keys. -/
def InterfaceKey.Value : InterfaceKey → Type
  | .qualifiedName => String
  | .simpleName => String
  | .members => List Member

/-- The record of an interface. -/
def InterfaceKey.shape : Shape InterfaceKey where
  title := "struct Interface"
  keys := [.qualifiedName, .simpleName, .members]
  text
    | .qualifiedName => "qualifiedName"
    | .simpleName => "simpleName"
    | .members => "members"
  required := fun _ => true

/-- The readers of an interface's fields. -/
def InterfaceKey.read : (key : InterfaceKey) → Reader key.Value
  | .qualifiedName => readString
  | .simpleName => readString
  | .members => readList readMember

/-- An interface. -/
def readInterface : Reader Interface := fun place value => do
  let fields ← InterfaceKey.shape.readRecord InterfaceKey.read place value
  let qualifiedName ← InterfaceKey.shape.require fields .qualifiedName
  let simpleName ← InterfaceKey.shape.require fields .simpleName
  let members ← InterfaceKey.shape.require fields .members
  return ⟨qualifiedName, simpleName, members⟩

/-- The keys of a delegate. -/
inductive DelegateKey where
  | package
  | className
  | fieldName
  deriving DecidableEq

/-- The record of a delegate. -/
def DelegateKey.shape : Shape DelegateKey where
  title := "struct DelegateBinding"
  keys := [.package, .className, .fieldName]
  text
    | .package => "delegatePackage"
    | .className => "delegateClassName"
    | .fieldName => "delegateSimpleName"
  required := fun _ => true

/-- A delegate. -/
def readDelegate : Reader Delegate := fun place value => do
  let fields ←
    DelegateKey.shape.readRecord (α := fun _ => String) (fun _ => readString) place value
  let package ← DelegateKey.shape.require fields .package
  let className ← DelegateKey.shape.require fields .className
  let fieldName ← DelegateKey.shape.require fields .fieldName
  return ⟨package, className, fieldName⟩

/-- The keys of a target's own fields. -/
inductive TargetKey where
  | delegate
  | outputName
  deriving DecidableEq

/-- The values of a target's own keys. -/
def TargetKey.Value : TargetKey → Type
  | .delegate => Delegate
  | .outputName => Option String

/-- The record of a target, its interface left out. -/
def TargetKey.shape : Shape TargetKey where
  title := "struct Target"
  keys := [.delegate, .outputName]
  text
    | .delegate => "delegate"
    | .outputName => "outputClassName"
  required
    | .delegate => true
    | .outputName => false

/-- The readers of a target's own fields. -/
def TargetKey.read : (key : TargetKey) → Reader key.Value
  | .delegate => readDelegate
  | .outputName => readOption readString

/-- A target, which holds the fields of its interface. -/
def readTarget : Reader Target := fun place value => do
  let (fields, others) ← TargetKey.shape.readKeyed TargetKey.read place value
  let delegate ← TargetKey.shape.require fields .delegate
  let outputName : Option String := (fields .outputName).getD none
  let interface ← readInterface { place with buffered := true } others
  return ⟨interface, delegate, outputName⟩

/-- The key of a descriptor. -/
inductive DescriptorKey where
  | interfaces
  deriving DecidableEq

/-- The record of a descriptor. -/
def DescriptorKey.shape : Shape DescriptorKey where
  title := "struct Input"
  keys := [.interfaces]
  text := fun .interfaces => "interfaces"
  required := fun .interfaces => true

/-- The content of an input file. -/
def readDescriptor : Reader Descriptor := fun place value => do
  let fields ← DescriptorKey.shape.readRecord (α := fun _ => List Target)
    (fun .interfaces => readList readTarget) place value
  let interfaces ← DescriptorKey.shape.require fields .interfaces
  return ⟨interfaces⟩

end Forwarding
