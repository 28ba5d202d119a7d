import Forwarding.ClassName

/-!
# References to types

A type is written by the qualified name of its class, a primitive name or `void`, and may be an
array of that.
-/

namespace Forwarding

/-- The name of a class, primitive or `void`, and whether an array of it is meant. -/
structure TypeRef where
  className : String
  isArray : Bool := false
  deriving DecidableEq, Repr

namespace TypeRef

/-- The type of a method without a result. -/
def void : TypeRef := ⟨"void", false⟩

/-- Whether a method of this type has no result.  An array of `void` counts as a result. -/
def isVoid (type : TypeRef) : Bool := type.className == "void" && !type.isArray

/-- The primitive types. -/
def primitives : List String :=
  ["boolean", "byte", "char", "short", "int", "long", "float", "double"]

/-- Whether the type has no package and so is never imported: a primitive or `void`, or an
array of one. -/
def isBuiltin (type : TypeRef) : Bool :=
  type.className == "void" || primitives.contains type.className

end TypeRef

/-- The type of the instances of a class. -/
def ClassName.typeRef (name : ClassName) : TypeRef := ⟨name.qualified, false⟩

end Forwarding
