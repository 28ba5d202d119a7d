import Forwarding.Text.Pieces

/-!
# Names of classes

A class is named by its package and its simple name.  The default package is the empty text.

* `ClassName.qualified`: the two parts joined by a dot, or the simple name alone in the default
  package;
* `ClassName.ofQualified`: the cut at the last dot.
-/

namespace Forwarding

/-- A class by package and simple name. -/
structure ClassName where
  package : String
  simpleName : String
  deriving DecidableEq, Repr

namespace ClassName

/-- The qualified name; the default package is left out together with the dot. -/
def qualified (name : ClassName) : String :=
  if name.package = "" then name.simpleName else name.package ++ "." ++ name.simpleName

/-- The cut at the last dot; a name without a dot is in the default package. -/
def ofQualified (text : String) : ClassName :=
  match Text.splitLast '.' text.toList with
  | some (package, simpleName) => ⟨String.ofList package, String.ofList simpleName⟩
  | none => ⟨"", text⟩

/-- The segments of the package, empty ones left out. -/
def packageSegments (name : ClassName) : List String :=
  (Text.stringPieces '.' name.package).filter (· ≠ "")

end ClassName

end Forwarding
