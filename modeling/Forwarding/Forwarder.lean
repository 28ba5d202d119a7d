import Forwarding.Descriptor

/-!
# Forwarding classes

The class that the tool writes, free of any output language.

* `Statement`: an assignment of a field, or a call that is passed on;
* `Constructor`, `Method`, `Field`: the parts of a class;
* `Forwarder`: the finished class, ready to be rendered.
-/

namespace Forwarding

/-- The visibility of a class or member. -/
inductive Modifier where
  | isPublic
  | isPrivate
  deriving DecidableEq, Repr

/-- The word for a visibility. -/
def Modifier.keyword : Modifier → String
  | .isPublic => "public"
  | .isPrivate => "private"

/-- A field, which always holds an instance of a class. -/
structure Field where
  name : String
  type : ClassName
  modifier : Modifier
  deriving DecidableEq, Repr

/-- A statement in the body of a constructor or method. -/
inductive Statement where
  /-- The field takes the value of the parameter. -/
  | assign (field parameter : String)
  /-- The method of `target` is called with the arguments; its result is returned if
  `returns` holds. -/
  | forward (returns : Bool) (target method : String) (arguments : List String)
  deriving DecidableEq, Repr

/-- The constructor of a class; by default public and empty. -/
structure Constructor where
  modifier : Modifier := .isPublic
  parameters : List Parameter := []
  body : List Statement := []
  deriving DecidableEq, Repr

/-- A method with its body. -/
structure Method where
  name : String
  modifier : Modifier := .isPublic
  isOverride : Bool := false
  returnType : TypeRef := .void
  parameters : List Parameter := []
  body : List Statement := []
  deriving DecidableEq, Repr

/-- A class that implements one interface.  A new one is public and empty. -/
structure Forwarder where
  name : ClassName
  interface : ClassName
  doc : Option String := none
  modifier : Modifier := .isPublic
  fields : List Field := []
  constructor : Constructor := {}
  methods : List Method := []
  deriving DecidableEq, Repr

end Forwarding
