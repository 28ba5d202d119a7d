import Forwarding.Text.Pieces

/-!
# Paths

A path is the list of the texts between its slashes, so that nothing of its spelling is lost; what
it means is the list of its components.  Repeated slashes, inner dots and a slash at the end are
insignificant.

* `Path.ofText`, `Path.text`: between a path and its spelling;
* `Path.components`: root, leading dot, parent and named components;
* `Path.push`: a path taken relative to another one;
* `Path.parent?`, `Path.ancestors`: one component less, and all that come of it;
* `Path.startsWith`, `Path.compare`: by components.
-/

namespace Forwarding

/-- A path as the texts between its slashes.  There is at least one, and an absolute path has an
empty one in front of others. -/
structure Path where
  segments : List String
  deriving DecidableEq, Repr

/-- A step of a path. -/
inductive Component where
  | root
  | current
  | parent
  | named (name : String)
  deriving DecidableEq, Repr

/-- The order of steps, by kind and then by name. -/
def Component.compare : Component → Component → Ordering
  | .root, .root => .eq
  | .root, _ => .lt
  | _, .root => .gt
  | .current, .current => .eq
  | .current, _ => .lt
  | _, .current => .gt
  | .parent, .parent => .eq
  | .parent, _ => .lt
  | _, .parent => .gt
  | .named a, .named b => Ord.compare a b

/-- The step that a segment stands for; empty segments and dots stand for none. -/
def Component.ofSegment? (segment : String) : Option Component :=
  if segment = "" ∨ segment = "." then none
  else if segment = ".." then some .parent
  else some (.named segment)

namespace Path

/-- The path with a given spelling. -/
def ofText (text : String) : Path := ⟨Text.stringPieces '/' text⟩

/-- The spelling of a path. -/
def text (path : Path) : String := "/".intercalate path.segments

/-- Whether the path begins at the root. -/
def isAbsolute (path : Path) : Bool :=
  match path.segments with
  | "" :: _ :: _ => true
  | _ => false

/-- The segments that stand for the beginning of the path, a root or a dot, and the others. -/
def parts (path : Path) : List String × List String :=
  match path.segments with
  | "" :: next :: rest => ([""], next :: rest)
  | "." :: rest => (["."], rest)
  | segments => ([], segments)

/-- The steps of the path. -/
def components (path : Path) : List Component :=
  let (head, body) := path.parts
  head.map (fun segment => if segment = "" then .root else .current) ++
    body.filterMap Component.ofSegment?

/-- The path that `other` names, seen from `path`. -/
def push (path other : Path) : Path :=
  if other.isAbsolute then other
  else if path.segments.getLast? = some "" then ⟨path.segments.dropLast ++ other.segments⟩
  else ⟨path.segments ++ other.segments⟩

/-- The segments up to the last one that is a step. -/
def trimSegments (segments : List String) : List String :=
  (segments.reverse.dropWhile fun segment => (Component.ofSegment? segment).isNone).reverse

/-- The path with the segments `body` after the beginning `head`. -/
def ofParts (head body : List String) : Path :=
  match head, body with
  | [], [] => ⟨[""]⟩
  | [""], [] => ⟨["", ""]⟩
  | head, body => ⟨head ++ body⟩

/-- The path without its last step.  The empty path and the root have no parent, and the parent of
a single name is the empty path. -/
def parent? (path : Path) : Option Path :=
  let (head, body) := path.parts
  match trimSegments body with
  | [] => if head = ["."] then some ⟨[""]⟩ else none
  | segments => some (ofParts head (trimSegments segments.dropLast))

/-- The parent, its parent, and so on, at most `count` of them. -/
def ancestorsUpTo : Nat → Path → List Path
  | 0, _ => []
  | count + 1, path =>
      match path.parent? with
      | none => []
      | some parent => parent :: ancestorsUpTo count parent

/-- The parent, its parent, and so on.  Each has one component less. -/
def ancestors (path : Path) : List Path := ancestorsUpTo path.components.length path

/-- Whether the steps of `directory` come first in the path. -/
def startsWith (path directory : Path) : Bool :=
  directory.components.isPrefixOf path.components

/-- Whether two paths have the same steps. -/
def same (path other : Path) : Bool := path.components == other.components

/-- The order of lists of steps: the first difference decides, and a beginning comes first. -/
def compareComponents : List Component → List Component → Ordering
  | [], [] => .eq
  | [], _ :: _ => .lt
  | _ :: _, [] => .gt
  | a :: as, b :: bs => (a.compare b).then (compareComponents as bs)

/-- The order of paths by their steps. -/
def compare (path other : Path) : Ordering :=
  compareComponents path.components other.components

end Path

end Forwarding
