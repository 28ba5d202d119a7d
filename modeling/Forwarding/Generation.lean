import Forwarding.Draft
import Forwarding.Log

/-!
# From interface to forwarding class

* `Interface.className`: the name of the interface, when its qualified name ends in its simple
  name;
* `Interface.begin`: an empty class that implements the interface;
* `Target.forwarder`: the whole way, with the records in `Target.generationLog`.
-/

namespace Forwarding

/-- A qualified name that does not end in the simple name that goes with it. -/
structure MalformedName where
  qualifiedName : String
  simpleName : String
  deriving DecidableEq, Repr

/-- What is said about a malformed name. -/
def MalformedName.message (fault : MalformedName) : String :=
  "qualified name '" ++ fault.qualifiedName ++ "' does not end with simple name '" ++
    fault.simpleName ++ "'"

/-- The package that, put before `simple`, gives `qualified`. -/
def packageOf (qualified simple : List Char) : Option (List Char) :=
  if simple = [] then none
  else if qualified = simple then some []
  else
    match Text.beforeSuffix simple qualified with
    | none => none
    | some start =>
        match Text.beforeSuffix ['.'] start with
        | none => none
        | some package => if package = [] then none else some package

/-- The interface's package and simple name.  A qualified name equal to the simple name is in
the default package. -/
def Interface.className (interface : Interface) : Except MalformedName ClassName :=
  match packageOf interface.qualifiedName.toList interface.simpleName.toList with
  | some package => .ok ⟨String.ofList package, interface.simpleName⟩
  | none => .error ⟨interface.qualifiedName, interface.simpleName⟩

/-- The comment on every generated class. -/
def classDoc : String :=
  "Forwards every call to the injected delegate.\nGenerated by delegen, do not edit."

/-- A commented class in the interface's package that implements the interface. -/
def Interface.begin (interface : Interface) (output : String) :
    Except MalformedName Forwarder :=
  interface.className.map fun name =>
    { name := ⟨name.package, output⟩, interface := name, doc := some classDoc }

/-- The class that forwards the interface to the delegate. -/
def Interface.forwarder (interface : Interface) (delegate : Delegate) (output : String) :
    Except MalformedName Forwarder :=
  (interface.begin output).map fun empty =>
    (((Draft.start empty).addDelegate delegate).addForwarding interface delegate.fieldName
      |>.construct none).built

/-- The forwarding class of a target; `suffix` goes into its name unless one was chosen. -/
def Target.forwarder (target : Target) (suffix : String) : Except MalformedName Forwarder :=
  target.interface.forwarder target.delegate (target.className suffix)

/-- The record of a class being begun. -/
def Interface.beginLog (interface : Interface) (output : String) : List Record :=
  match interface.className with
  | .ok name =>
      [.debug ("Generating " ++ (ClassName.mk name.package output).qualified ++ " for " ++
        name.qualified)]
  | .error _ => []

/-- The record of a delegate being added. -/
def Delegate.log (delegate : Delegate) : Record :=
  .debug ("Adding delegate field " ++ delegate.fieldName ++ ": " ++ delegate.name.qualified)

/-- One record for each forwarded method. -/
def Interface.forwardingLog (interface : Interface) : List Record :=
  interface.signatures.map fun signature =>
    .debug ("Forwarding " ++ interface.simpleName ++ "." ++ signature.name)

/-- The records of a forwarding class being made.  A malformed name leaves none. -/
def Target.generationLog (target : Target) (suffix : String) : List Record :=
  match target.interface.beginLog (target.className suffix) with
  | [] => []
  | begun => begun ++ target.delegate.log :: target.interface.forwardingLog

end Forwarding
