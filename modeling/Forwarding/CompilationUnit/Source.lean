import Forwarding.CompilationUnit.Scope
import Forwarding.Text.Blank

/-!
# The Java text of a forwarding class

The text is a list of lines, each ended by a line feed.

* `callArguments`: the arguments of a call, joined by commas without blanks;
* `Statement.javaLine`, `Method.javaLines`, …: the lines of each part;
* `Forwarder.javaSource`: the whole compilation unit.
-/

namespace Forwarding

/-- Arguments as they stand in a call. -/
def callArguments (arguments : List String) : String := ",".intercalate arguments

/-- A statement on one line. -/
def Statement.javaLine : Statement → String
  | .assign field parameter => "this." ++ field ++ " = " ++ parameter ++ ";"
  | .forward returns target method arguments =>
      (if returns then "return " else "") ++
        target ++ "." ++ method ++ "(" ++ callArguments arguments ++ ");"

/-- A line, moved to the right by so many steps. -/
def indented (steps : Nat) (line : String) : String :=
  String.ofList (List.replicate (4 * steps) ' ') ++ line

/-- The lines of a constructor or method: its head with the brace, its body, and the brace. -/
def bodyLines (head : String) (body : List Statement) : List String :=
  indented 1 (head ++ " \x7b") :: body.map (fun statement => indented 2 statement.javaLine) ++
    [indented 1 "\x7d"]

/-- The lines of a text; a line feed at its end begins no further line. -/
def docLines (text : String) : List (List Char) :=
  let lines := Text.pieces (· == '\n') text.toList
  if lines.getLast? = some [] then lines.dropLast else lines

/-- A comment line, without white space at its end. -/
def commentLine (line : List Char) : String :=
  String.ofList (Text.trimEnd (" * ".toList ++ line))

/-- The lines of the comment on a class. -/
def commentLines : Option String → List String
  | none => []
  | some text => "/**" :: (docLines text).map commentLine ++ [" */"]

/-- The package line and a blank one; none in the default package. -/
def packageLines (package : String) : List String :=
  if package = "" then [] else ["package " ++ package ++ ";", ""]

/-- The import lines and a blank one, if there are any. -/
def Scope.importLines (scope : Scope) : List String :=
  if scope.imports = [] then []
  else scope.imports.map (fun name => "import " ++ name ++ ";") ++ [""]

/-- The line of a field. -/
def Field.javaLine (scope : Scope) (field : Field) : String :=
  indented 1
    (field.modifier.keyword ++ " " ++ scope.className field.type ++ " " ++ field.name ++ ";")

/-- The lines of the constructor of the class `simpleName`. -/
def Constructor.javaLines (scope : Scope) (simpleName : String) (constructor : Constructor) :
    List String :=
  bodyLines
    (constructor.modifier.keyword ++ " " ++ simpleName ++
      "(" ++ scope.parameters constructor.parameters ++ ")")
    constructor.body

/-- The lines of a method. -/
def Method.javaLines (scope : Scope) (method : Method) : List String :=
  (if method.isOverride then [indented 1 "@Override"] else []) ++
    bodyLines
      (method.modifier.keyword ++ " " ++ scope.type method.returnType ++ " " ++ method.name ++
        "(" ++ scope.parameters method.parameters ++ ")")
      method.body

/-- The line that opens the class. -/
def Forwarder.headLine (scope : Scope) (unit : Forwarder) : String :=
  unit.modifier.keyword ++ " class " ++ unit.name.simpleName ++ " implements " ++
    scope.className unit.interface ++ " \x7b"

/-- The lines of the compilation unit. -/
def Forwarder.javaLines (unit : Forwarder) : List String :=
  let scope := Scope.of unit
  packageLines unit.name.package ++ scope.importLines ++ commentLines unit.doc ++
    [unit.headLine scope] ++ unit.fields.map (·.javaLine scope) ++
    "" :: unit.constructor.javaLines scope unit.name.simpleName ++
    unit.methods.flatMap (fun method => "" :: method.javaLines scope) ++ ["\x7d"]

/-- The lines as a text, each ended by a line feed. -/
def unlines (lines : List String) : String :=
  String.join (lines.map (· ++ "\n"))

/-- The Java text of the class. -/
def Forwarder.javaSource (unit : Forwarder) : String := unlines unit.javaLines

end Forwarding
