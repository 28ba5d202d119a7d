import Forwarding.Ascending
import Forwarding.Crate.ModuleRoot
import Forwarding.Path
import Std.Data.ExtTreeMap

/-!
# File trees

The files and directories that the tool sees, and what it does to them.  There are no symbolic links
in a tree: every name stands for a file or a directory of its own, so `..` leads to the location
before.  Permissions, and disks that are full or fail, are left out too.

* `FileTree`: what stands at each location, where a location is the list of names from the root;
* `FileTree.look`: the node at a location;
* `FileTree.walk`: the location that a path leads to;
* `FileTree.makeDir`, `FileTree.makeDirs`, `FileTree.write`, `FileTree.read`, `FileTree.entries`:
  the operations on files, with the faults they can meet (`FileFault`).
-/

namespace Forwarding

/-- The names on the way from the root. -/
abbrev Location := List String

/-- What stands at a location. -/
inductive Node where
  | file (text : String)
  | directory
  deriving DecidableEq, Repr

/-- What stands where, and the location at which relative paths begin.  The root is always a
directory and has no entry. -/
structure FileTree where
  nodes : Std.ExtTreeMap Location Node
  workDir : Location := []

/-- Why an operation on files fails. -/
inductive FileFault where
  | notFound
  | alreadyExists
  | notDirectory
  | isDirectory
  | nameTooLong
  | containsNul
  | noRoot
  deriving DecidableEq, Repr

/-- What is said about a fault. -/
def FileFault.message : FileFault → String
  | .notFound => "No such file or directory (os error 2)"
  | .alreadyExists => "File exists (os error 17)"
  | .notDirectory => "Not a directory (os error 20)"
  | .isDirectory => "Is a directory (os error 21)"
  | .nameTooLong => "File name too long (os error 36)"
  | .containsNul => "file name contained an unexpected NUL byte"
  | .noRoot => "failed to create whole tree"

namespace FileTree

/-- A tree with the root alone. -/
def empty : FileTree := ⟨∅, []⟩

/-- The node at a location. -/
def look (tree : FileTree) : Location → Option Node
  | [] => some .directory
  | location => tree.nodes[location]?

/-- The tree with a node put at a location. -/
def put (tree : FileTree) (location : Location) (node : Node) : FileTree :=
  { tree with nodes := tree.nodes.insert location node }

/-- The tree without what stands at a location. -/
def remove (tree : FileTree) (location : Location) : FileTree :=
  { tree with nodes := tree.nodes.erase location }

/-- The most bytes that a name may have. -/
def nameLimit : Nat := 255

/-- The most bytes that a path may have. -/
def pathLimit : Nat := 4095

/-- One step from a location, which has to be a directory. -/
def step (tree : FileTree) (location : Location) (segment : String) :
    Except FileFault Location :=
  if tree.look location ≠ some .directory then .error .notDirectory
  else if segment = "" ∨ segment = "." then .ok location
  else if segment = ".." then .ok location.dropLast
  else if segment.utf8ByteSize > nameLimit then .error .nameTooLong
  else if tree.look (location ++ [segment]) = none then .error .notFound
  else .ok (location ++ [segment])

/-- The steps of a path from a location. -/
def follow (tree : FileTree) (location : Location) (segments : List String) :
    Except FileFault Location :=
  segments.foldlM tree.step location

/-- The location at which a path begins. -/
def start (tree : FileTree) (path : Path) : Location :=
  if path.isAbsolute then [] else tree.workDir

/-- A fault that the spelling of a path has by itself. -/
def spellingFault? (path : Path) : Option FileFault :=
  if path.text.toList.contains (Char.ofNat 0) then some .containsNul
  else if path.text = "" then some .notFound
  else if path.text.utf8ByteSize > pathLimit then some .nameTooLong
  else none

/-- The location that a path leads to. -/
def walk (tree : FileTree) (path : Path) : Except FileFault Location :=
  match spellingFault? path with
  | some fault => .error fault
  | none => tree.follow (tree.start path) path.segments

/-- Whether a path leads to a directory. -/
def isDir (tree : FileTree) (path : Path) : Bool :=
  match tree.walk path with
  | .ok location => tree.look location = some .directory
  | .error _ => false

/-- Where the last segment of a path is to be made: the directory before it and the segment. -/
def site (tree : FileTree) (path : Path) : Except FileFault (Location × String) :=
  match spellingFault? path with
  | some fault => .error fault
  | none =>
      match tree.follow (tree.start path) path.segments.dropLast with
      | .error fault => .error fault
      | .ok directory =>
          if tree.look directory = some .directory then
            .ok (directory, path.segments.getLastD "")
          else .error .notDirectory

/-- Makes one directory.  A path that ends in a dot, two dots or a slash names what is there
already. -/
def makeDir (tree : FileTree) (path : Path) : Except FileFault FileTree :=
  match tree.site path with
  | .error fault => .error fault
  | .ok (directory, name) =>
      if name ∈ ["", ".", ".."] then .error .alreadyExists
      else if name.utf8ByteSize > nameLimit then .error .nameTooLong
      else if tree.look (directory ++ [name]) ≠ none then .error .alreadyExists
      else .ok (tree.put (directory ++ [name]) .directory)

/-- Makes a directory and those above it that are missing, at most `count` of them.  Directories
made before a fault stay. -/
def makeDirsUpTo : Nat → FileTree → Path → FileTree × Except FileFault Unit
  | 0, tree, _ => (tree, .error .noRoot)
  | count + 1, tree, path =>
      if path.components = [] then (tree, .ok ())
      else
        match tree.makeDir path with
        | .ok made => (made, .ok ())
        | .error .notFound =>
            match path.parent? with
            | none => (tree, .error .noRoot)
            | some parent =>
                match makeDirsUpTo count tree parent with
                | (above, .error fault) => (above, .error fault)
                | (above, .ok ()) =>
                    match above.makeDir path with
                    | .ok made => (made, .ok ())
                    | .error fault =>
                        (above, if above.isDir path then .ok () else .error fault)
        | .error fault => (tree, if tree.isDir path then .ok () else .error fault)

/-- Makes a directory and those above it that are missing.  A directory that is there is no
fault. -/
def makeDirs (tree : FileTree) (path : Path) : FileTree × Except FileFault Unit :=
  makeDirsUpTo (path.components.length + 1) tree path

/-- Writes a file, whose directory has to be there; a file that is there is replaced. -/
def write (tree : FileTree) (path : Path) (text : String) : Except FileFault FileTree :=
  match tree.site path with
  | .error fault => .error fault
  | .ok (directory, name) =>
      if name ∈ ["", ".", ".."] then .error .isDirectory
      else if name.utf8ByteSize > nameLimit then .error .nameTooLong
      else if tree.look (directory ++ [name]) = some .directory then .error .isDirectory
      else .ok (tree.put (directory ++ [name]) (.file text))

/-- The text of the file that a path leads to. -/
def read (tree : FileTree) (path : Path) : Except FileFault String :=
  match tree.walk path with
  | .error fault => .error fault
  | .ok location =>
      match tree.look location with
      | some (.file text) => .ok text
      | some .directory => .error .isDirectory
      | none => .error .notFound

/-- The name under which a location stands in a directory. -/
def nameIn (directory location : Location) : Option String :=
  if location.dropLast = directory then location.getLast? else none

/-- The nodes in a directory, by name. -/
def children (tree : FileTree) (directory : Location) : List (String × Node) :=
  tree.nodes.toList.filterMap fun (location, node) =>
    (nameIn directory location).map fun name => (name, node)

/-- What a module root declares for a node: a directory, or a Rust file other than a module
root. -/
def entryOf : String × Node → Option Entry
  | (name, .directory) => some ⟨name, false⟩
  | (name, .file _) =>
      match Text.beforeSuffix ".rs".toList name.toList with
      | none => none
      | some stem =>
          if String.ofList stem = "mod" ∨ String.ofList stem = "lib" then none
          else some ⟨String.ofList stem, true⟩

/-- What a module root of the directory declares, in ascending order. -/
def entries (tree : FileTree) (path : Path) : Except FileFault (List Entry) :=
  match tree.walk path with
  | .error fault => .error fault
  | .ok location =>
      if tree.look location = some .directory then
        .ok (ascending Entry.compare ((tree.children location).filterMap entryOf))
      else .error .notDirectory

end FileTree

end Forwarding
