import Forwarding.CompilationUnit.Source
import Forwarding.Crate.TraitImpl
import Forwarding.Descriptor.Reader
import Forwarding.FileTree
import Forwarding.Generation
import Forwarding.Options

/-!
# Runs

A run reads the input file, writes one class for each target, and in a crate the module roots of
the directories in which it wrote.

* `Failure`: why a run ends early or without success;
* `Progress`: the file tree, the log and the counts while a run goes on;
* `Options.runTarget`, `Options.runTargets`: the classes;
* `Options.runModule`, `Options.runModules`: the module roots;
* `Options.run`: the whole run on a file tree.
-/

namespace Forwarding

/-- Why a run ends early, or without success. -/
inductive Failure where
  | openInput (path : Path) (fault : FileFault)
  | readInput (fault : FileFault)
  | input (fault : Json.ReadFault)
  | malformed (fault : MalformedName)
  | name (fault : NameFault)
  | makeDirectory (path : Path) (fault : FileFault)
  | openOutput (path : Path) (fault : FileFault)
  | list (fault : FileFault)
  | incomplete (failed total : Nat)

/-- A path in a message. -/
def Path.quoted (path : Path) : String := Text.quoted path.text

/-- What is said about a failure, if anything. -/
def Failure.message? : Failure → Option String
  | .openInput path fault =>
      some ("Failed to open input file " ++ path.quoted ++ ": " ++ fault.message)
  | .readInput fault => some ("Failed to deserialize input: " ++ fault.message)
  | .input fault =>
      some ("Failed to deserialize input" ++
        match fault.message? with
        | some message => ": " ++ message
        | none => "")
  | .malformed fault =>
      some ("Failed to generate " ++ fault.qualifiedName ++ ": " ++ fault.message)
  | .name fault => fault.message?
  | .makeDirectory path fault =>
      some ("Failed to create package directory " ++ path.quoted ++ ": " ++ fault.message)
  | .openOutput path fault => some ("Failed to open " ++ path.quoted ++ ": " ++ fault.message)
  | .list fault => some fault.message
  | .incomplete failed total =>
      some (toString failed ++ " of " ++ toString total ++ " interfaces failed")

/-- How far a run has come. -/
structure Progress where
  tree : FileTree
  log : List Record := []
  /-- The files of classes, in the order in which they were written. -/
  written : List Path := []
  /-- The number of targets that were skipped. -/
  failed : Nat := 0

namespace Progress

/-- The progress with further records. -/
def note (progress : Progress) (records : List Record) : Progress :=
  { progress with log := progress.log ++ records }

/-- Writes a file whose directory is there. -/
def openFile (progress : Progress) (path : Path) (text : String) : Progress × Option Failure :=
  match progress.tree.write path text with
  | .ok tree => ({ progress with tree }, none)
  | .error fault => (progress, some (.openOutput path fault))

/-- Writes a file, and before that the directories it stands in. -/
def writeFile (progress : Progress) (path : Path) (text : String) : Progress × Option Failure :=
  match path.parent? with
  | none => progress.openFile path text
  | some parent =>
      match progress.tree.makeDirs parent with
      | (tree, .error fault) => ({ progress with tree }, some (.makeDirectory parent fault))
      | (tree, .ok ()) => ({ progress with tree } : Progress).openFile path text

end Progress

namespace Options

/-- A Rust text as it is written, with the record of one that was to be formatted and stays
unformatted. -/
def format (options : Options) (text : String) : List Record × String :=
  if options.noFormat then ([], text)
  else
    match options.formatter text with
    | .ok formatted => ([], formatted)
    | .error fault => ([⟨.warn, "Writing unformatted output: " ++ fault.message⟩], text)

/-- The text of a class, with the records of its rendering. -/
def render (options : Options) (unit : Forwarder) : List Record × Except NameFault String :=
  match options.backend with
  | .java => ([], .ok unit.javaSource)
  | .rust =>
      match unit.rustSource with
      | (log, .ok text) => (log ++ (options.format text).1, .ok (options.format text).2)
      | (log, .error fault) => (log, .error fault)

/-- Renders a class and writes it to its place. -/
def runClass (options : Options) (progress : Progress) (unit : Forwarder) :
    Progress × Option Failure :=
  match options.backend.classPath options.outputDir unit.name with
  | .error fault => (progress, some (.name fault))
  | .ok path =>
      match options.render unit with
      | (log, .error fault) => (progress.note log, some (.name fault))
      | (log, .ok text) =>
          match (progress.note log).writeFile path text with
          | (progress, some failure) => (progress, some failure)
          | (progress, none) =>
              ({ progress.note
                  [⟨.info, "Generated " ++ unit.name.qualified ++ " at " ++ path.quoted⟩] with
                written := progress.written ++ [path] }, none)

/-- One target.  A malformed name ends the run, unless it is to keep going. -/
def runTarget (options : Options) (progress : Progress) (target : Target) :
    Progress × Option Failure :=
  match target.forwarder options.suffix with
  | .error fault =>
      if options.keepGoing then
        ({ progress.note
            [⟨.error, "Skipping " ++ target.interface.qualifiedName ++ ": " ++ fault.message⟩] with
          failed := progress.failed + 1 }, none)
      else (progress, some (.malformed fault))
  | .ok unit => options.runClass (progress.note (target.generationLog options.suffix)) unit

/-- The targets in order, up to the first failure. -/
def runTargets (options : Options) (progress : Progress) :
    List Target → Progress × Option Failure
  | [] => (progress, none)
  | target :: rest =>
      match options.runTarget progress target with
      | (progress, some failure) => (progress, some failure)
      | (progress, none) => options.runTargets progress rest

/-- The module root of a directory. -/
def moduleRoot (options : Options) (directory : Path) : Path :=
  directory.push
    (Path.ofText (if directory.same options.outputDir then "lib.rs" else "mod.rs"))

/-- Writes the module root of a directory. -/
def runModule (options : Options) (progress : Progress) (directory : Path) :
    Progress × Option Failure :=
  match progress.tree.entries directory with
  | .error fault => (progress, some (.list fault))
  | .ok entries =>
      match moduleSource entries with
      | .error fault => (progress, some (.name fault))
      | .ok text =>
          let path := options.moduleRoot directory
          (progress.note
            (.debug ("Generating mod file " ++ path.quoted) :: (options.format text).1)).writeFile
              path (options.format text).2

/-- The module roots in order, up to the first failure. -/
def runModules (options : Options) (progress : Progress) :
    List Path → Progress × Option Failure
  | [] => (progress, none)
  | directory :: rest =>
      match options.runModule progress directory with
      | (progress, some failure) => (progress, some failure)
      | (progress, none) => options.runModules progress rest

/-- The classes of all targets, and in a crate the module roots.  Skipped targets make the run fail
at its end. -/
def runAll (options : Options) (progress : Progress) (targets : List Target) :
    Progress × Option Failure :=
  match options.runTargets progress targets with
  | (progress, some failure) => (progress, some failure)
  | (progress, none) =>
      let directories :=
        match options.backend with
        | .java => []
        | .rust => moduleDirs options.outputDir progress.written
      match options.runModules progress directories with
      | (progress, some failure) => (progress, some failure)
      | (progress, none) =>
          (progress,
            if progress.failed = 0 then none
            else some (.incomplete progress.failed targets.length))

/-- The input file. -/
def readInput (options : Options) (tree : FileTree) : Except Failure Descriptor :=
  match tree.read options.inputFile with
  | .error .isDirectory => .error (.readInput .isDirectory)
  | .error fault => .error (.openInput options.inputFile fault)
  | .ok text => (Json.readDocument readDescriptor text).mapError .input

/-- A whole run: the tree and the log that it leaves, and why it failed if it did. -/
def run (options : Options) (tree : FileTree) : Progress × Option Failure :=
  let progress : Progress := { tree, log := [.debug "Reading input"] }
  match options.readInput tree with
  | .error failure => (progress, some failure)
  | .ok descriptor => options.runAll progress descriptor.interfaces

end Options

end Forwarding
