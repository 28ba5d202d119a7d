import Forwarding.Ascending
import Forwarding.ClassName
import Forwarding.Crate.Naming
import Forwarding.Path

/-!
# Output languages and the places of files

* `Backend`: the two output languages, with their names;
* `Backend.classPath`: where the text of a class goes;
* `moduleDirs`: the directories that need a module root.
-/

namespace Forwarding

/-- An output language. -/
inductive Backend where
  | java
  | rust
  deriving DecidableEq, Repr

namespace Backend

/-- What is said about an unknown output language. -/
def unknownMessage (name : String) : String :=
  "unknown backend '" ++ name ++ "', expected 'java' or 'rust'"

/-- The output language of a name. -/
def ofName? : String → Option Backend
  | "java" => some .java
  | "rust" => some .rust
  | _ => none

/-- The directory of a package segment. -/
def directoryName : Backend → String → String
  | .java, segment => segment
  | .rust, segment => safeName segment

/-- The file of a class, by its simple name. -/
def fileName (backend : Backend) (simpleName : String) : Except NameFault String :=
  match backend with
  | .java => .ok (simpleName ++ ".java")
  | .rust =>
      match Text.snakeCase simpleName with
      | some snake => .ok (snake ++ ".rs")
      | none => .error .cutInsideCharacter

/-- The place of a class under the output directory: a directory for each non-empty segment of
the package, and its file. -/
def classPath (backend : Backend) (outputDir : Path) (name : ClassName) :
    Except NameFault Path :=
  (backend.fileName name.simpleName).map fun file =>
    ((name.packageSegments.map backend.directoryName ++ [file]).map Path.ofText).foldl
      Path.push outputDir

end Backend

/-- The directories of a list up to the output directory, or up to the first that is not in it. -/
def upToOutput (outputDir : Path) : List Path → List Path
  | [] => []
  | dir :: above =>
      if !dir.startsWith outputDir then []
      else if dir.same outputDir then [dir]
      else dir :: upToOutput outputDir above

/-- The ancestors of a file up to the output directory. -/
def ancestorsWithin (outputDir file : Path) : List Path := upToOutput outputDir file.ancestors

/-- The directories between the output directory and the written files, in ascending order. -/
def moduleDirs (outputDir : Path) (written : List Path) : List Path :=
  ascending Path.compare (written.flatMap (ancestorsWithin outputDir))

end Forwarding
