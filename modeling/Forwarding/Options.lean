import Forwarding.Backend
import Forwarding.Formatter

/-!
# Options of a run

* `Options`: what a run is told on the command line, and the formatter it finds;
* `Options.parse`: the options that a list of arguments gives, or why it gives none.

An option that takes a value may be followed by it in the same argument or in the next one.  In
the next one a value cannot begin with a hyphen, unless it is a hyphen alone.
-/

namespace Forwarding

/-- What a run is told. -/
structure Options where
  inputFile : Path
  outputDir : Path
  backend : Backend := .java
  /-- Ends the names of classes for which none was chosen. -/
  suffix : String := "Impl"
  /-- Rust texts are written as they are. -/
  noFormat : Bool := false
  /-- A malformed interface does not keep the others from being generated. -/
  keepGoing : Bool := false
  /-- What formats Rust texts.  This is not told on the command line. -/
  formatter : Formatter := .missing

/-- Why arguments give no options. -/
inductive ArgumentFault where
  | missingRequired
  | emptyValue
  | invalidValue
  | multipleUsage
  | unknown
  | helpWanted
  | versionWanted
  deriving DecidableEq, Repr

/-- The name of a fault. -/
def ArgumentFault.name : ArgumentFault → String
  | .missingRequired => "MissingRequiredArgument"
  | .emptyValue => "EmptyValue"
  | .invalidValue => "InvalidValue"
  | .multipleUsage => "UnexpectedMultipleUsage"
  | .unknown => "UnknownArgument"
  | .helpWanted => "HelpDisplayed"
  | .versionWanted => "VersionDisplayed"

/-- The options that take a value. -/
inductive Setting where
  | inputFile
  | outputDir
  | backend
  | suffix
  deriving DecidableEq, Repr

/-- The options that take no value. -/
inductive Flag where
  | noFormat
  | keepGoing
  | help
  | version
  deriving DecidableEq, Repr

/-- An option of either kind. -/
inductive Switch where
  | setting (setting : Setting)
  | flag (flag : Flag)
  deriving DecidableEq, Repr

/-- The option of a long name. -/
def Switch.ofLong? : String → Option Switch
  | "input-file" => some (.setting .inputFile)
  | "output-dir" => some (.setting .outputDir)
  | "backend" => some (.setting .backend)
  | "suffix" => some (.setting .suffix)
  | "no-fmt" => some (.flag .noFormat)
  | "keep-going" => some (.flag .keepGoing)
  | "help" => some (.flag .help)
  | "version" => some (.flag .version)
  | _ => none

/-- The option of a letter. -/
def Switch.ofShort? : Char → Option Switch
  | 'i' => some (.setting .inputFile)
  | 'o' => some (.setting .outputDir)
  | 'b' => some (.setting .backend)
  | 's' => some (.setting .suffix)
  | 'h' => some (.flag .help)
  | 'V' => some (.flag .version)
  | _ => none

/-- The arguments seen so far, last first. -/
structure Usage where
  settings : List (Setting × Option String) := []
  flags : List Flag := []
  /-- The last argument was an option whose value is still to come. -/
  awaitsValue : Bool := false
  /-- Two hyphens alone were seen, after which no argument is an option. -/
  noMoreOptions : Bool := false

namespace Usage

/-- A text without the given character at its start, however often. -/
def withoutLeading (c : Char) (text : List Char) : List Char := text.dropWhile (· == c)

/-- An option with the value that its argument holds, if it holds one. -/
def addSwitch (usage : Usage) (attached : Option (List Char)) :
    Switch → Except ArgumentFault Usage
  | .setting setting =>
      let value := attached.map fun text => String.ofList (withoutLeading '=' text)
      .ok { usage with
        settings := (setting, value) :: usage.settings
        awaitsValue := value.isNone }
  | .flag .help => .error .helpWanted
  | .flag .version => .error .versionWanted
  | .flag flag => .ok { usage with flags := flag :: usage.flags, awaitsValue := false }

/-- An argument that begins with two hyphens. -/
def addLong (usage : Usage) (argument : List Char) : Except ArgumentFault Usage :=
  let text := withoutLeading '-' argument
  let name := text.takeWhile (· ≠ '=')
  let attached := if text.contains '=' then some (text.drop (name.length + 1)) else none
  match Switch.ofLong? (String.ofList name) with
  | some option => usage.addSwitch attached option
  | none => .error .unknown

/-- An argument that begins with one hyphen.  All that follows the letter is its value. -/
def addShort (usage : Usage) (argument : List Char) : Except ArgumentFault Usage :=
  match withoutLeading '-' argument with
  | [] => .error .unknown
  | letter :: rest =>
      match Switch.ofShort? letter with
      | some option => usage.addSwitch (if rest = [] then none else some rest) option
      | none => .error .unknown

/-- An argument that is no option: the value that is awaited. -/
def addValue (usage : Usage) (argument : String) : Except ArgumentFault Usage :=
  match usage.awaitsValue, usage.settings with
  | true, (setting, _) :: settings =>
      .ok { usage with settings := (setting, some argument) :: settings, awaitsValue := false }
  | _, _ => .error .unknown

/-- One more argument. -/
def add (usage : Usage) (argument : String) : Except ArgumentFault Usage :=
  if usage.noMoreOptions then .error .unknown
  else if argument = "--" then .ok { usage with noMoreOptions := true }
  else match argument.toList with
    | '-' :: '-' :: rest => usage.addLong ('-' :: '-' :: rest)
    | '-' :: c :: rest => usage.addShort ('-' :: c :: rest)
    | _ => usage.addValue argument

/-- The values given to an option, in order. -/
def values (usage : Usage) (setting : Setting) : List String :=
  usage.settings.reverse.filterMap fun use => if use.1 = setting then use.2 else none

/-- How often an option is used. -/
def count (usage : Usage) (setting : Setting) : Nat :=
  usage.settings.countP fun use => use.1 = setting

/-- The options that are used at all must not be used twice, and those without a default need a
value. -/
def check (usage : Usage) : Except ArgumentFault Unit :=
  if usage.count .inputFile = 0 ∨ usage.count .outputDir = 0 then .error .missingRequired
  else if usage.values .inputFile = [] ∨ usage.values .outputDir = [] then .error .emptyValue
  else if (usage.values .backend).any fun name => (Backend.ofName? name).isNone then
    .error .invalidValue
  else if [Setting.inputFile, .outputDir, .backend, .suffix].any (usage.count · > 1) ∨
      [Flag.noFormat, .keepGoing].any (usage.flags.count · > 1) then .error .multipleUsage
  else .ok ()

end Usage

namespace Options

/-- The options that arguments give. -/
def parse (arguments : List String) : Except ArgumentFault Options := do
  let usage ← arguments.foldlM Usage.add {}
  usage.check
  return {
    inputFile := Path.ofText ((usage.values .inputFile).headD "")
    outputDir := Path.ofText ((usage.values .outputDir).headD "")
    backend := ((usage.values .backend).head?.bind Backend.ofName?).getD .java
    suffix := (usage.values .suffix).headD "Impl"
    noFormat := usage.flags.contains .noFormat
    keepGoing := usage.flags.contains .keepGoing }

end Options

end Forwarding
