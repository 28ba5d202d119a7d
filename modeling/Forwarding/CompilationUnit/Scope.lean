import Forwarding.Ascending
import Forwarding.Forwarder

/-!
# Short names in a Java compilation unit

A class may be written by its simple name where no other class of the unit lays claim to that
name.  Such a class is imported unless it is visible anyway.

* `Forwarder.references`: the classes that the unit mentions;
* `Scope`: which classes are written short, and the import lines;
* `Scope.className`, `Scope.type`, `Scope.parameters`: how mentions are written.
-/

namespace Forwarding

/-- The types of the constructor's parameters and of the methods' results and parameters. -/
def Forwarder.types (unit : Forwarder) : List TypeRef :=
  unit.constructor.parameters.map (·.type) ++
    unit.methods.flatMap fun method => method.returnType :: method.parameters.map (·.type)

/-- The classes that the unit mentions: the interface, those of its fields, and those of its types
other than the built-in ones. -/
def Forwarder.references (unit : Forwarder) : List ClassName :=
  unit.interface :: unit.fields.map (·.type) ++
    (unit.types.filter (!·.isBuiltin)).map fun type => ClassName.ofQualified type.className

/-- How classes are written in one compilation unit. -/
structure Scope where
  /-- The qualified names that are imported, in ascending order. -/
  imports : List String
  /-- The qualified names of the classes that are written by their simple names. -/
  short : List String

namespace Scope

/-- Whether classes of different qualified names lay claim to a simple name. -/
def contested (claimants : List ClassName) (simpleName : String) : Bool :=
  let claims := (claimants.filter (·.simpleName == simpleName)).map (·.qualified)
  claims.any fun first => claims.any fun second => first != second

/-- Whether a class is visible by its simple name without an import. -/
def visible (package : String) (name : ClassName) : Bool :=
  name.package == "" || name.package == "java.lang" || name.package == package

/-- The scope of a class.  The class itself has a claim to its own name. -/
def of (unit : Forwarder) : Scope :=
  let plain := unit.references.filter fun name =>
    !contested (unit.name :: unit.references) name.simpleName
  { imports := ascending compare
      ((plain.filter (!visible unit.name.package ·)).map (·.qualified))
    short := plain.map (·.qualified) }

/-- A class as it is written. -/
def className (scope : Scope) (name : ClassName) : String :=
  if scope.short.contains name.qualified then name.simpleName else name.qualified

/-- A type as it is written. -/
def type (scope : Scope) (type : TypeRef) : String :=
  let base :=
    if type.isBuiltin then type.className
    else scope.className (ClassName.ofQualified type.className)
  if type.isArray then base ++ "[]" else base

/-- A parameter as it is written. -/
def parameter (scope : Scope) (parameter : Parameter) : String :=
  scope.type parameter.type ++ " " ++ parameter.name

/-- A parameter list as it is written between its parentheses. -/
def parameters (scope : Scope) (parameters : List Parameter) : String :=
  ", ".intercalate (parameters.map scope.parameter)

end Scope

end Forwarding
