import Forwarding.Forwarder

/-!
# Drafts of forwarding classes

A class is built in steps.  Beside the class as it stands, a draft holds the constructor that is
being prepared: it becomes the class's constructor in one step, and a new one is begun.

* `Method.Edit`, `Method.edit`: the steps on a single method;
* `Signature.forward`: the method that forwards a signature, made by such steps;
* `Draft.addDelegate`: the field, constructor parameter and assignment for the delegate;
* `Draft.addForwarding`: one overriding method for each method of an interface;
* `Draft.Edit`, `Draft.edit`: the steps on a draft.
-/

namespace Forwarding

/-- A step in building a method. -/
inductive Method.Edit where
  | modifier (modifier : Modifier)
  | override
  | returns (type : TypeRef)
  | parameter (parameter : Parameter)
  | statement (statement : Statement)

/-- The method after a step. -/
def Method.edit (method : Method) : Method.Edit → Method
  | .modifier modifier => { method with modifier }
  | .override => { method with isOverride := true }
  | .returns type => { method with returnType := type }
  | .parameter parameter => { method with parameters := method.parameters ++ [parameter] }
  | .statement statement => { method with body := method.body ++ [statement] }

/-- The method after one parameter for each of a list. -/
def Method.addParameters (method : Method) (parameters : List Parameter) : Method :=
  parameters.foldl (fun method parameter => method.edit (.parameter parameter)) method

/-- The public overriding method that passes its arguments on to the method of the same name
of the object in `field`. -/
def Signature.forward (signature : Signature) (field : String) : Method :=
  let opened := ((Method.edit { name := signature.name } (.modifier .isPublic)).edit
    .override).edit (.returns signature.returnType)
  (opened.addParameters signature.parameters).edit
    (.statement (.forward (!signature.returnType.isVoid) field signature.name
      (signature.parameters.map (·.name))))

/-- A class being built, and the constructor that is being prepared for it. -/
structure Draft where
  built : Forwarder
  pending : Constructor := {}
  deriving DecidableEq, Repr

namespace Draft

/-- A draft whose pending constructor is empty. -/
def start (empty : Forwarder) : Draft := { built := empty }

/-- Sets the comment. -/
def setDoc (draft : Draft) (text : String) : Draft :=
  { draft with built := { draft.built with doc := some text } }

/-- Adds a field after those there are. -/
def addField (draft : Draft) (field : Field) : Draft :=
  { draft with built := { draft.built with fields := draft.built.fields ++ [field] } }

/-- Adds a method after those there are. -/
def addMethod (draft : Draft) (method : Method) : Draft :=
  { draft with built := { draft.built with methods := draft.built.methods ++ [method] } }

/-- Adds a parameter to the pending constructor. -/
def addParameter (draft : Draft) (parameter : Parameter) : Draft :=
  { draft with pending :=
      { draft.pending with parameters := draft.pending.parameters ++ [parameter] } }

/-- Adds a statement to the pending constructor. -/
def addStatement (draft : Draft) (statement : Statement) : Draft :=
  { draft with pending := { draft.pending with body := draft.pending.body ++ [statement] } }

/-- Makes the pending constructor the class's own, with another modifier if one is given, and
begins a new one. -/
def construct (draft : Draft) (modifier : Option Modifier) : Draft where
  built := { draft.built with
    constructor := { draft.pending with modifier := modifier.getD draft.pending.modifier } }
  pending := {}

/-- Adds the private field for the delegate and has the constructor set it. -/
def addDelegate (draft : Draft) (delegate : Delegate) : Draft :=
  ((draft.addParameter ⟨delegate.fieldName, delegate.name.typeRef⟩).addStatement
      (.assign delegate.fieldName delegate.fieldName)).addField
    ⟨delegate.fieldName, delegate.name, .isPrivate⟩

/-- Adds one forwarding method for each method of the interface, in order. -/
def addForwarding (draft : Draft) (interface : Interface) (field : String) : Draft :=
  interface.signatures.foldl (fun draft signature => draft.addMethod (signature.forward field))
    draft

/-- A step in building a class. -/
inductive Edit where
  | doc (text : String)
  | field (field : Field)
  | method (method : Method)
  | parameter (parameter : Parameter)
  | statement (statement : Statement)
  | construct (modifier : Option Modifier)
  | delegate (delegate : Delegate)
  | forwarding (interface : Interface) (field : String)

/-- The draft after a step. -/
def edit (draft : Draft) : Edit → Draft
  | .doc text => draft.setDoc text
  | .field field => draft.addField field
  | .method method => draft.addMethod method
  | .parameter parameter => draft.addParameter parameter
  | .statement statement => draft.addStatement statement
  | .construct modifier => draft.construct modifier
  | .delegate delegate => draft.addDelegate delegate
  | .forwarding interface field => draft.addForwarding interface field

end Draft

end Forwarding
