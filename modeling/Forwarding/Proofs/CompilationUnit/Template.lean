import Forwarding.CompilationUnit.Source
import Mathlib.Data.List.Basic

/-!
# Where classes are mentioned in a Java compilation unit

The lines of a compilation unit are a template whose gaps are filled with classes, each class
written in one way throughout.

* `Piece`: a piece of a line, which is fixed text or the mention of a class;
* `Forwarder.template`: the lines after the package and the imports, as pieces;
* `Forwarder.javaLines_eq`: what is printed is the template with its gaps filled;
* `Forwarder.mentions_template`: the gaps are the references of the class, one by one.
-/

namespace Forwarding

/-- A piece of a line: text as it stands, or the mention of a class. -/
inductive Piece where
  | text (text : String)
  | mention (name : ClassName)
  deriving DecidableEq, Repr

/-- A piece as it is printed when classes are written by `write`. -/
def Piece.spell (write : ClassName → String) : Piece → String
  | .text fixed => fixed
  | .mention name => write name

/-- A line as it is printed. -/
def spellLine (write : ClassName → String) (line : List Piece) : String :=
  String.join (line.map (·.spell write))

/-- The classes that a line mentions, in order. -/
def lineMentions : List Piece → List ClassName
  | [] => []
  | .text _ :: line => lineMentions line
  | .mention name :: line => name :: lineMentions line

/-- The classes that lines mention, in order. -/
def mentions (lines : List (List Piece)) : List ClassName := lines.flatMap lineMentions

/-! ### The template -/

/-- A type: a built-in one as it stands or a class, and the mark of an array. -/
def TypeRef.pieces (type : TypeRef) : List Piece :=
  (if type.isBuiltin then Piece.text type.className
    else .mention (ClassName.ofQualified type.className)) ::
    if type.isArray then [.text "[]"] else []

/-- A parameter: its type and its name. -/
def Parameter.pieces (parameter : Parameter) : List Piece :=
  parameter.type.pieces ++ [.text (" " ++ parameter.name)]

/-- A parameter list without its parentheses. -/
def parameterPieces (parameters : List Parameter) : List Piece :=
  [Piece.text ", "].intercalate (parameters.map Parameter.pieces)

/-- The line of a field. -/
def Field.template (field : Field) : List Piece :=
  [.text (indented 1 (field.modifier.keyword ++ " ")), .mention field.type,
    .text (" " ++ field.name ++ ";")]

/-- The lines of a constructor or method with the given head. -/
def bodyTemplate (head : List Piece) (body : List Statement) : List (List Piece) :=
  (.text (indented 1 "") :: head ++ [.text " \x7b"]) ::
    body.map (fun statement => [.text (indented 2 statement.javaLine)]) ++
      [[.text (indented 1 "\x7d")]]

/-- The lines of the constructor of the class `simpleName`. -/
def Constructor.template (simpleName : String) (constructor : Constructor) : List (List Piece) :=
  bodyTemplate
    (.text (constructor.modifier.keyword ++ " " ++ simpleName ++ "(") ::
      parameterPieces constructor.parameters ++ [.text ")"])
    constructor.body

/-- The lines of a method. -/
def Method.template (method : Method) : List (List Piece) :=
  (if method.isOverride then [[.text (indented 1 "@Override")]] else []) ++
    bodyTemplate
      (.text (method.modifier.keyword ++ " ") :: method.returnType.pieces ++
        .text (" " ++ method.name ++ "(") :: parameterPieces method.parameters ++ [.text ")"])
      method.body

/-- The lines of a class after the package and the imports. -/
def Forwarder.template (unit : Forwarder) : List (List Piece) :=
  (commentLines unit.doc).map (fun line => [.text line]) ++
    [[.text (unit.modifier.keyword ++ " class " ++ unit.name.simpleName ++ " implements "),
      .mention unit.interface, .text " \x7b"]] ++
    unit.fields.map Field.template ++
    [] :: unit.constructor.template unit.name.simpleName ++
    unit.methods.flatMap (fun method => [] :: method.template) ++ [[.text "\x7d"]]

/-! ### Printing -/

section Printing

variable (write : ClassName → String) (scope : Scope)

@[simp] theorem spellLine_nil : spellLine write [] = "" := rfl

@[simp] theorem spellLine_cons (piece : Piece) (line : List Piece) :
    spellLine write (piece :: line) = piece.spell write ++ spellLine write line := by
  simp [spellLine]

@[simp] theorem spellLine_append (first second : List Piece) :
    spellLine write (first ++ second) = spellLine write first ++ spellLine write second := by
  simp [spellLine]

theorem spellLine_intercalate (mark : String) (parts : List (List Piece)) :
    spellLine write ([Piece.text mark].intercalate parts) =
      mark.intercalate (parts.map (spellLine write)) := by
  induction parts with
  | nil => rfl
  | cons part rest ih =>
    cases rest with
    | nil => simp
    | cons next rest =>
      rw [List.intercalate_cons_cons, spellLine_append, spellLine_append, ih]
      simp [Piece.spell]

theorem spellLine_type (type : TypeRef) :
    spellLine scope.className type.pieces = scope.type type := by
  unfold TypeRef.pieces Scope.type
  split_ifs <;> simp [Piece.spell]

theorem spellLine_parameter (parameter : Parameter) :
    spellLine scope.className parameter.pieces = scope.parameter parameter := by
  simp [Parameter.pieces, Scope.parameter, spellLine_type, Piece.spell, String.append_assoc]

theorem spellLine_parameters (parameters : List Parameter) :
    spellLine scope.className (parameterPieces parameters) = scope.parameters parameters := by
  rw [parameterPieces, spellLine_intercalate, List.map_map, Scope.parameters]
  congr 2
  funext parameter
  exact spellLine_parameter scope parameter

theorem spell_bodyTemplate (head : List Piece) (body : List Statement) :
    (bodyTemplate head body).map (spellLine write) = bodyLines (spellLine write head) body := by
  simp [bodyTemplate, bodyLines, Piece.spell, Function.comp_def, indented]

theorem spell_fieldTemplate (field : Field) :
    spellLine scope.className field.template = field.javaLine scope := by
  simp [Field.template, Field.javaLine, Piece.spell, indented, String.append_assoc]

theorem spell_constructorTemplate (simpleName : String) (constructor : Constructor) :
    (constructor.template simpleName).map (spellLine scope.className) =
      constructor.javaLines scope simpleName := by
  rw [Constructor.template, spell_bodyTemplate, Constructor.javaLines]
  simp [spellLine_parameters, Piece.spell, String.append_assoc]

theorem spell_methodTemplate (method : Method) :
    method.template.map (spellLine scope.className) = method.javaLines scope := by
  rw [Method.template, List.map_append, spell_bodyTemplate, Method.javaLines]
  congr 1
  · split_ifs <;> simp [Piece.spell]
  · simp [spellLine_parameters, spellLine_type, Piece.spell, String.append_assoc]

end Printing

/-- What is printed is the package, the imports, and the template with each class written as the
scope has it. -/
theorem Forwarder.javaLines_eq (unit : Forwarder) :
    unit.javaLines = packageLines unit.name.package ++ (Scope.of unit).importLines ++
      unit.template.map (spellLine (Scope.of unit).className) := by
  have hmethods (scope : Scope) :
      (unit.methods.flatMap fun method => [] :: method.template).map
          (spellLine scope.className) =
        unit.methods.flatMap fun method => "" :: method.javaLines scope := by
    rw [List.map_flatMap]
    congr 1
    funext method
    simp [spell_methodTemplate]
  simp only [javaLines, template, List.map_append, List.map_cons, hmethods,
    spell_constructorTemplate]
  simp [spell_fieldTemplate, headLine, Piece.spell, Function.comp_def, String.append_assoc]

/-! ### Mentions -/

section Mentions

/-- The classes among types. -/
def classesOf (types : List TypeRef) : List ClassName :=
  (types.filter (!·.isBuiltin)).map fun type => ClassName.ofQualified type.className

@[simp] theorem classesOf_append (first second : List TypeRef) :
    classesOf (first ++ second) = classesOf first ++ classesOf second := by
  simp [classesOf]

theorem classesOf_cons (type : TypeRef) (types : List TypeRef) :
    classesOf (type :: types) = classesOf [type] ++ classesOf types :=
  classesOf_append [type] types

@[simp] theorem lineMentions_nil : lineMentions [] = [] := rfl

@[simp] theorem lineMentions_text (fixed : String) (line : List Piece) :
    lineMentions (.text fixed :: line) = lineMentions line := rfl

@[simp] theorem lineMentions_mention (name : ClassName) (line : List Piece) :
    lineMentions (.mention name :: line) = name :: lineMentions line := rfl

@[simp] theorem lineMentions_append (first second : List Piece) :
    lineMentions (first ++ second) = lineMentions first ++ lineMentions second := by
  induction first with
  | nil => rfl
  | cons piece rest ih => cases piece <;> simp [ih]

theorem mem_lineMentions_iff {name : ClassName} {line : List Piece} :
    name ∈ lineMentions line ↔ .mention name ∈ line := by
  induction line with
  | nil => simp
  | cons piece rest ih => cases piece <;> simp [ih]

theorem mem_mentions_iff {name : ClassName} {lines : List (List Piece)} :
    name ∈ mentions lines ↔ ∃ line ∈ lines, .mention name ∈ line := by
  simp only [mentions, List.mem_flatMap, mem_lineMentions_iff]

@[simp] theorem mentions_nil : mentions [] = [] := rfl

@[simp] theorem mentions_cons (line : List Piece) (lines : List (List Piece)) :
    mentions (line :: lines) = lineMentions line ++ mentions lines := List.flatMap_cons

@[simp] theorem mentions_append (first second : List (List Piece)) :
    mentions (first ++ second) = mentions first ++ mentions second := List.flatMap_append

@[simp] theorem mentions_text {α : Type} (print : α → String) (xs : List α) :
    mentions (xs.map fun x => [.text (print x)]) = [] := by
  induction xs with
  | nil => rfl
  | cons x rest ih => simp [ih]

@[simp] theorem mentions_fields (fields : List Field) :
    mentions (fields.map Field.template) = fields.map (·.type) := by
  induction fields with
  | nil => rfl
  | cons field rest ih => simp [ih, Field.template]

theorem mentions_type (type : TypeRef) : lineMentions type.pieces = classesOf [type] := by
  unfold TypeRef.pieces classesOf
  cases hbuiltin : type.isBuiltin <;> cases type.isArray <;> simp [hbuiltin]

theorem mentions_parameters (parameters : List Parameter) :
    lineMentions (parameterPieces parameters) = classesOf (parameters.map (·.type)) := by
  unfold parameterPieces
  have hparameter (parameter : Parameter) :
      lineMentions parameter.pieces = classesOf [parameter.type] := by
    simp [Parameter.pieces, mentions_type]
  induction parameters with
  | nil => rfl
  | cons parameter rest ih =>
    rw [List.map_cons, List.map_cons, classesOf_cons, ← ih, ← hparameter]
    cases rest with
    | nil => simp
    | cons next rest => simp [List.intercalate_cons_cons]

theorem mentions_bodyTemplate (head : List Piece) (body : List Statement) :
    mentions (bodyTemplate head body) = lineMentions head := by
  simp [bodyTemplate]

theorem mentions_constructorTemplate (simpleName : String) (constructor : Constructor) :
    mentions (constructor.template simpleName) =
      classesOf (constructor.parameters.map (·.type)) := by
  simp [Constructor.template, mentions_bodyTemplate, mentions_parameters]

theorem mentions_methodTemplate (method : Method) :
    mentions method.template =
      classesOf (method.returnType :: method.parameters.map (·.type)) := by
  rw [classesOf_cons, Method.template, mentions_append, mentions_bodyTemplate]
  have hoverride : mentions
      (if method.isOverride then [[Piece.text (indented 1 "@Override")]] else []) = [] := by
    split_ifs <;> rfl
  simp [hoverride, mentions_type, mentions_parameters]

theorem mentions_methods (methods : List Method) :
    mentions (methods.flatMap fun method => [] :: method.template) =
      classesOf (methods.flatMap fun method =>
        method.returnType :: method.parameters.map (·.type)) := by
  induction methods with
  | nil => rfl
  | cons method rest ih =>
    rw [List.flatMap_cons, List.flatMap_cons, mentions_append, classesOf_append, ih,
      mentions_cons, mentions_methodTemplate]
    rfl

/-- The gaps of the template are the references of the class, one by one and in order. -/
theorem Forwarder.mentions_template (unit : Forwarder) :
    mentions unit.template = unit.references := by
  -- the references are collected in the order in which the parts are printed
  have hreferences : unit.references =
      unit.interface :: unit.fields.map (·.type) ++ classesOf unit.types := rfl
  rw [hreferences, types, classesOf_append, template]
  simp [mentions_constructorTemplate, mentions_methods]

end Mentions

end Forwarding
