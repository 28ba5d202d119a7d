import Forwarding.Run

/-!
# The command line

Loads what a run can see into a file tree, runs on it, and writes what has changed.
-/

namespace Forwarding.Main

/-- The location of an absolute path. -/
def locationOf (path : String) : Location :=
  (Text.stringPieces '/' path).filter (· ≠ "")

/-- The absolute path of a location. -/
def pathOf (location : Location) : String := "/" ++ "/".intercalate location

/-- The text of a file; nothing if it is no text. -/
def fileText (path : String) : IO String := do
  let bytes ← IO.FS.readBinFile path
  return (String.fromUTF8? bytes).getD ""

/-- Loads what stands at a location, and in a directory what it holds if `deep` is set. -/
partial def load (deep : Bool) (tree : FileTree) (location : Location) : IO FileTree := do
  let path := (← IO.currentDir) / pathOf location
  if ← path.isDir then
    let mut tree := tree.put location .directory
    if deep then
      for entry in ← path.readDir do
        tree ← load true tree (location ++ [entry.fileName])
    return tree
  else if ← path.pathExists then
    return tree.put location (.file (← fileText (pathOf location)))
  else return tree

/-- Loads what stands on the way of a path, and all that is below its end. -/
def loadPath (tree : FileTree) (path : Path) : IO FileTree := do
  let location := tree.start path ++ path.segments.filter (· ∉ ["", "."])
  let mut tree := tree
  for count in List.range location.length do
    tree ← load false tree (location.take count)
  load true tree location

/-- Writes the nodes that are not in the tree from before. -/
def save (before after : FileTree) : IO Unit := do
  for (location, node) in after.nodes.toList do
    if before.look location ≠ some node then
      match node with
      | .directory => IO.FS.createDirAll (pathOf location)
      | .file text => IO.FS.writeFile (pathOf location) text

/-- The formatter of a run.  No program is started from here, so it is never found. -/
def formatter : Formatter := .missing

/-- Runs, and reports what is more than a detail. -/
def runWith (options : Options) : IO UInt32 := do
  let here ← IO.currentDir
  let start : FileTree := { FileTree.empty with workDir := locationOf here.toString }
  let before ← loadPath (← loadPath start options.inputFile) options.outputDir
  let (progress, failure) := options.run before
  save before progress.tree
  for record in progress.log do
    if record.level ≠ .debug then IO.eprintln record.line
  match failure with
  | none => return 0
  | some failure =>
      IO.eprintln (Record.line
        ⟨.error, failure.message?.getD "a name comes apart inside a character"⟩)
      return 1

/-- What is said to those who want help. -/
def help : String :=
  "\n".intercalate
    ["Generates classes that forward an interface to a delegate",
      "",
      "Options:",
      "-i, --input-file FILE    the descriptor",
      "-o, --output-dir DIR     where the classes go",
      "-b, --backend NAME       java or rust [default: java]",
      "-s, --suffix TEXT        ends the names of classes [default: Impl]",
      "--no-fmt                 write Rust output without running a formatter",
      "--keep-going             keep generating the remaining interfaces after one fails"]

end Forwarding.Main

/-- Runs with the options of the command line. -/
def main (arguments : List String) : IO UInt32 := do
  match Forwarding.Options.parse arguments with
  | .ok options => Forwarding.Main.runWith { options with formatter := Forwarding.Main.formatter }
  | .error .helpWanted =>
      IO.println Forwarding.Main.help
      return 0
  | .error fault =>
      IO.eprintln (fault.name ++ "\n\n" ++ Forwarding.Main.help)
      return 1
