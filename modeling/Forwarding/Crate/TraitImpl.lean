import Forwarding.Crate.Naming
import Forwarding.Crate.RustType
import Forwarding.Forwarder
import Forwarding.Log

/-!
# The Rust text of a forwarding class

A class becomes a struct that holds the delegate, its `new`, and an implementation of the
interface's trait whose functions pass their arguments on.

* `Binding`, `FnStatement`, `FnItem`, `TraitImpl`: the parts with their identifiers;
* `FnItem.ofMethod`, `Forwarder.traitImpl`: the parts of a class, or why it cannot be rendered;
* `TraitImpl.tokens`, `Forwarder.rustSource`: the text.
-/

namespace Forwarding

/-- A field or parameter with its type. -/
structure Binding where
  name : Ident
  type : RustType
  deriving DecidableEq, Repr

/-- A statement in the body of a function. -/
inductive FnStatement where
  /-- The function of the trait at `path` is called on the field `receiver` of `self`.  A call whose
  result is not returned ends in a semicolon. -/
  | call (path : CratePath) (function receiver : Ident) (arguments : List Ident) (returns : Bool)
  /-- A field of `self` is set. -/
  | assign (field value : Ident)
  deriving DecidableEq, Repr

/-- A function of the implementation. -/
structure FnItem where
  name : Ident
  parameters : List Binding
  result : Option RustType
  body : List FnStatement
  deriving DecidableEq, Repr

/-- The struct, its `new` and the implementation of the trait. -/
structure TraitImpl where
  name : Ident
  trait : CratePath
  fields : List Binding
  parameters : List Binding
  initializers : List (Ident × Ident)
  functions : List FnItem
  deriving DecidableEq, Repr

/-! ### From class to parts -/

/-- The identifier for the name of a method, parameter or field. -/
def Ident.ofMemberName (name : String) : Except NameFault Ident :=
  crateName name >>= Ident.ofName

/-- A field of the struct. -/
def Field.binding (field : Field) : Except NameFault Binding := do
  let name ← Ident.ofMemberName field.name
  let path ← CratePath.ofClass field.type
  return ⟨name, ⟨.path path, false⟩⟩

/-- A parameter of the constructor. -/
def Parameter.binding (parameter : Parameter) : Except NameFault Binding := do
  let name ← Ident.ofMemberName parameter.name
  let type ← RustType.ofRef parameter.type
  return ⟨name, type⟩

/-- A parameter of a method, under the name given to it. -/
def Parameter.bindingAs (parameter : Parameter) (name : String) : Except NameFault Binding := do
  let name ← Ident.ofName name
  let type ← RustType.ofRef parameter.type
  return ⟨name, type⟩

/-- The fields that the statements of the constructor set, with their values.  A call has no place
in `new` and is left out. -/
def initializers : List Statement → Except NameFault (List (Ident × Ident))
  | [] => .ok []
  | .forward .. :: rest => initializers rest
  | .assign field parameter :: rest => do
      let field ← Ident.ofMemberName field
      let value ← Ident.ofMemberName parameter
      let others ← initializers rest
      return (field, value) :: others

/-- The identifier for an argument: that of the first parameter of this name, under the name given
to it, or else its own. -/
def argumentIdent (parameters : List (Parameter × String)) (argument : String) :
    Except NameFault Ident :=
  match parameters.find? (·.1.name == argument) with
  | some (_, name) => Ident.ofName name
  | none => Ident.ofMemberName argument

/-- A statement of a method. -/
def FnStatement.ofStatement (trait : CratePath) (function : Ident)
    (parameters : List (Parameter × String)) : Statement → Except NameFault FnStatement
  | .forward returns target _ arguments => do
      let receiver ← Ident.ofMemberName target
      let arguments ← arguments.mapM (argumentIdent parameters)
      return .call trait function receiver arguments returns
  | .assign field parameter => do
      let field ← Ident.ofMemberName field
      let value ← Ident.ofMemberName parameter
      return .assign field value

/-- A method under the name given to it. -/
def FnItem.ofMethod (trait : CratePath) (method : Method) (name : String) :
    Except NameFault FnItem := do
  let ident ← Ident.ofName name
  let names ← distinctNames (method.parameters.map (·.name))
  let named := method.parameters.zip names
  let parameters ← named.mapM fun (parameter, name) => parameter.bindingAs name
  let result ←
    if method.returnType.isVoid then pure none
    else some <$> RustType.ofRef method.returnType
  let body ← method.body.mapM (FnStatement.ofStatement trait ident named)
  return ⟨ident, parameters, result, body⟩

/-- The record of an overload that got another name. -/
def renameLog (method : Method) (name : String) : List Record :=
  if (crateName method.name).toOption = some name then []
  else [.debug ("Renamed overload " ++ method.name ++ " to " ++ name)]

/-- What is made of each element of a list, up to the first of which nothing can be made, with the
records of all that were tried. -/
def makeAll {α β : Type} (record : α → List Record) (make : α → Except NameFault β) :
    List α → List Record × Except NameFault (List β)
  | [] => ([], .ok [])
  | source :: rest =>
      match make source with
      | .error fault => (record source, .error fault)
      | .ok item =>
          let (log, items) := makeAll record make rest
          (record source ++ log, items.map (item :: ·))

/-- Methods under the names given to them, with the records of the renamed ones. -/
def functionItems (trait : CratePath) (methods : List (Method × String)) :
    List Record × Except NameFault (List FnItem) :=
  makeAll (fun (method, name) => renameLog method name)
    (fun (method, name) => FnItem.ofMethod trait method name) methods

/-- All of a class but its methods, and the names for these. -/
def Forwarder.implHead (unit : Forwarder) : Except NameFault (TraitImpl × List String) := do
  let name ← Ident.ofName unit.name.simpleName
  let trait ← CratePath.ofClass unit.interface
  let fields ← unit.fields.mapM Field.binding
  let parameters ← unit.constructor.parameters.mapM Parameter.binding
  let initializers ← initializers unit.constructor.body
  let names ← distinctNames (unit.methods.map (·.name))
  return (⟨name, trait, fields, parameters, initializers, []⟩, names)

/-- The parts of a class, with the records of renamed methods. -/
def Forwarder.traitImpl (unit : Forwarder) : List Record × Except NameFault TraitImpl :=
  match unit.implHead with
  | .error fault => ([], .error fault)
  | .ok (head, names) =>
      let (log, functions) := functionItems head.trait (unit.methods.zip names)
      (log, functions.map fun functions => { head with functions })

/-! ### From parts to tokens -/

/-- A field or parameter as it is written. -/
def Binding.tokens (binding : Binding) : List Token :=
  .ident binding.name :: .mark ":" :: binding.type.tokens

/-- A statement as it is written. -/
def FnStatement.tokens : FnStatement → List Token
  | .call path function receiver arguments returns =>
      path.tokens ++ [.mark "::", .ident function] ++
        parenthesized
          ([.mark "&", .keyword "self", .mark ".", .ident receiver, .mark ","] ++
            separated (arguments.map fun argument => [.ident argument])) ++
        if returns then [] else [.mark ";"]
  | .assign field value =>
      [.keyword "self", .mark ".", .ident field, .mark "=", .ident value, .mark ";"]

/-- The result type of a function as it is written. -/
def resultTokens : Option RustType → List Token
  | none => []
  | some type => .mark "->" :: type.tokens

/-- A function as it is written. -/
def FnItem.tokens (item : FnItem) : List Token :=
  [.keyword "fn", .ident item.name] ++
    parenthesized
      ([.mark "&", .keyword "self", .mark ","] ++ separated (item.parameters.map Binding.tokens)) ++
    resultTokens item.result ++ braced (item.body.flatMap FnStatement.tokens)

/-- An initializer as it is written. -/
def initializerTokens (initializer : Ident × Ident) : List Token :=
  [.ident initializer.1, .mark ":", .ident initializer.2]

/-- The struct, its `new` and the implementation as they are written. -/
def TraitImpl.tokens (item : TraitImpl) : List Token :=
  [.keyword "pub", .keyword "struct", .ident item.name] ++
    braced (separated (item.fields.map Binding.tokens)) ++
    [.keyword "impl", .ident item.name] ++
    braced
      ([.keyword "pub", .keyword "fn", .keyword "new"] ++
        parenthesized (separated (item.parameters.map Binding.tokens)) ++
        [.mark "->", .keyword "Self"] ++
        braced (.keyword "Self" ::
          braced (separated (item.initializers.map initializerTokens)))) ++
    .keyword "impl" :: item.trait.tokens ++ [.keyword "for", .ident item.name] ++
    braced (item.functions.flatMap FnItem.tokens)

/-- The Rust text of the class, with the records of renamed methods. -/
def Forwarder.rustSource (unit : Forwarder) : List Record × Except NameFault String :=
  let (log, item) := unit.traitImpl
  (log, item.map fun item => Token.spell item.tokens)

end Forwarding
