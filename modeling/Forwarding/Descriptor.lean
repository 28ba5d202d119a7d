import Forwarding.TypeRef

/-!
# Descriptors

What the tool is told about the interfaces for which it writes forwarding classes.

* `Interface`: the names of an interface and its members, of which only the methods are
  forwarded;
* `Delegate`: the class and the field to which every call goes;
* `Target`: an interface with its delegate and the wanted name of the forwarding class;
* `Descriptor`: the targets of one input file, in order.
-/

namespace Forwarding

/-- A named parameter of a method or constructor. -/
structure Parameter where
  name : String
  type : TypeRef
  deriving DecidableEq, Repr

/-- A method as an interface declares it. -/
structure Signature where
  name : String
  returnType : TypeRef
  parameters : List Parameter := []
  deriving DecidableEq, Repr

/-- Anything that an interface declaration encloses. -/
inductive Member where
  | method (signature : Signature)
  | field (name : String)
  | type (name : String)
  | initializer
  deriving DecidableEq, Repr

/-- The signature of a method member. -/
def Member.signature? : Member → Option Signature
  | .method signature => some signature
  | _ => none

/-- An interface by its names and members. -/
structure Interface where
  qualifiedName : String
  simpleName : String
  members : List Member
  deriving DecidableEq, Repr

/-- The methods of the interface, in declaration order. -/
def Interface.signatures (interface : Interface) : List Signature :=
  interface.members.filterMap Member.signature?

/-- The class to which calls are forwarded and the field that holds its instance. -/
structure Delegate where
  package : String
  className : String
  fieldName : String
  deriving DecidableEq, Repr

/-- The class of the delegate. -/
def Delegate.name (delegate : Delegate) : ClassName := ⟨delegate.package, delegate.className⟩

/-- An interface to forward, its delegate, and the name of the class if it was chosen. -/
structure Target where
  interface : Interface
  delegate : Delegate
  outputName : Option String := none
  deriving DecidableEq, Repr

/-- The simple name of the forwarding class: the chosen one, or the interface's with a suffix. -/
def Target.className (target : Target) (suffix : String) : String :=
  target.outputName.getD (target.interface.simpleName ++ suffix)

/-- The content of an input file. -/
structure Descriptor where
  interfaces : List Target
  deriving DecidableEq, Repr

end Forwarding
