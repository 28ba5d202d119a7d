import Forwarding.Proofs.Run.Isolation

/-!
# Histories of runs

Runs into one output directory, in whatever language and with whatever end, only ever add to what
is there.  A module root is written for the directories of the classes of its run alone, but
declares all that its directory holds; so a directory that is declared has a module root, unless no
run with a class in it has come to its end.

* `Invocation`: a run with its options and its input;
* `Invocation.treeAfter_grows`: what a history of runs adds;
* `Invocation.look_root_of_completes`: the module roots of a run that came to its end stay;
* `Invocation.reaches_declared`: a declared directory is reached unless no run with a class in it
  came to its end;
* `Invocation.declared_unreached`: a directory that is declared and has no module root.
-/

namespace Forwarding

open FileTree Options

/-- A run with its options, and what is read from its input file. -/
structure Invocation where
  options : Options
  input : Except Failure Descriptor

namespace Invocation

/-- The targets of the input, if it can be read. -/
def targets (invocation : Invocation) : List Target :=
  match invocation.input with
  | .error _ => []
  | .ok descriptor => descriptor.interfaces

/-- What the run comes to on a file tree. -/
def run (invocation : Invocation) (tree : FileTree) : Progress × Option Failure :=
  let progress : Progress := { tree, log := [.debug "Reading input"] }
  match invocation.input with
  | .error failure => (progress, some failure)
  | .ok descriptor => invocation.options.runAll progress descriptor.interfaces

/-- The file tree after a history of runs. -/
def treeAfter (tree : FileTree) (history : List Invocation) : FileTree :=
  history.foldl (fun tree invocation => (invocation.run tree).1.tree) tree

/-- In a crate, the run has gone through all its classes and module roots. -/
def Completes (invocation : Invocation) (tree : FileTree) : Prop :=
  invocation.options.backend = .rust ∧ ((invocation.run tree).2 = none ∨
    ∃ failed total, (invocation.run tree).2 = some (.incomplete failed total))

/-- A class of the run lies in the directory with these names under the output directory, or below
it. -/
def HasClassIn (invocation : Invocation) (names : List String) : Prop :=
  ∃ directories file,
    invocation.options.IsPlace invocation.targets directories file ∧ names <+: directories

variable {invocation : Invocation} {tree : FileTree} {history : List Invocation}

/-! ### What runs add -/

/-- With what is in the input file this is the run of its options. -/
theorem run_eq (h : invocation.options.readInput tree = invocation.input) :
    invocation.run tree = invocation.options.run tree := by
  cases hinput : invocation.input <;> simp only [run, Options.run, h, hinput]

/-- What a run that has read its input comes to. -/
theorem run_of_input {descriptor : Descriptor} (h : invocation.input = .ok descriptor)
    (tree : FileTree) :
    invocation.run tree =
        invocation.options.runAll { tree, log := [.debug "Reading input"] } descriptor.interfaces ∧
      invocation.targets = descriptor.interfaces := by
  rw [run, targets, h]
  exact ⟨rfl, rfl⟩

theorem run_grows (invocation : Invocation) (tree : FileTree) :
    Grows (invocation.options.ClassDirectory tree.workDir invocation.targets) (fun _ => True) tree
      (invocation.run tree).1.tree := by
  rcases hinput : invocation.input with failure | descriptor
  · rw [run, hinput]
    exact .refl _ _ tree
  · obtain ⟨hrun, htargets⟩ := run_of_input hinput tree
    rw [hrun, htargets]
    exact invocation.options.runAll_grows { tree, log := [.debug "Reading input"] } _

/-- All directories that a history of runs makes are on the way to classes. -/
theorem treeAfter_grows (tree : FileTree) (history : List Invocation) :
    Grows (fun location => ∃ invocation ∈ history,
        invocation.options.ClassDirectory tree.workDir invocation.targets location)
      (fun _ => True) tree (treeAfter tree history) := by
  induction history generalizing tree with
  | nil => exact .refl _ _ _
  | cons invocation rest ih =>
    have hfirst := invocation.run_grows tree
    have hrest := ih (invocation.run tree).1.tree
    rw [hfirst.workDir] at hrest
    refine (hfirst.mono (fun location h => ?_) fun _ h => h).trans
      (hrest.mono (fun location h => ?_) fun _ h => h)
    · exact ⟨invocation, List.mem_cons_self, h⟩
    · obtain ⟨other, hother, h⟩ := h
      exact ⟨other, List.mem_cons_of_mem invocation hother, h⟩

theorem treeAfter_append (tree : FileTree) (history more : List Invocation) :
    treeAfter tree (history ++ more) = treeAfter (treeAfter tree history) more :=
  List.foldl_append

/-! ### Directories and their module roots -/

/-- A directory that a run makes in a fresh output directory has a class of the run in it. -/
theorem hasClassIn_of_classDirectory (hslash : invocation.options.NoSlash invocation.targets)
    (hvacant : invocation.options.IsVacant tree) {names : List String} (hne : names ≠ [])
    (h : invocation.options.ClassDirectory tree.workDir invocation.targets
      (invocation.options.outputDir.location tree.workDir ++ names)) :
    invocation.HasClassIn names := by
  obtain ⟨target, hmem, unit, path, text, hmakes, hway⟩ := h
  obtain ⟨file, -, hplace, hcomponents⟩ := hmakes.components hmem hslash
  rw [hcomponents, List.dropLast_concat] at hway
  exact ⟨_, file, hplace, hvacant.isPrefix_of_onWay hne hway⟩

/-- A directory in an output directory that was fresh has a class of the history in it. -/
theorem exists_hasClassIn {options : Options} {names : List String}
    (houtput : ∀ invocation ∈ history, invocation.options.outputDir = options.outputDir)
    (hslash : ∀ invocation ∈ history, invocation.options.NoSlash invocation.targets)
    (hvacant : options.IsVacant tree) (hne : names ≠ [])
    (hlook : (treeAfter tree history).look (options.outputDir.location tree.workDir ++ names) =
      some .directory) :
    ∃ invocation ∈ history, invocation.HasClassIn names := by
  rcases (treeAfter_grows tree history).look (options.outputDir.location tree.workDir ++ names)
    with hsame | ⟨⟨invocation, hmem, hdirectory⟩, -⟩ | ⟨-, -, text, htext⟩
  · rw [hsame, hvacant.look names hne] at hlook
    cases hlook
  · rw [← houtput invocation hmem] at hdirectory
    exact ⟨invocation, hmem, hasClassIn_of_classDirectory (hslash invocation hmem)
      (hvacant.of_outputDir (houtput invocation hmem)) hne hdirectory⟩
  · rw [htext] at hlook
    cases hlook

/-- A run that goes through all its classes and module roots leaves a module root in each directory
with a class. -/
theorem Completes.look_root (h : invocation.Completes tree)
    (hslash : invocation.options.NoSlash invocation.targets) {names : List String}
    (hclass : invocation.HasClassIn names) :
    ∃ text, (invocation.run tree).1.tree.look
      (invocation.options.outputDir.location tree.workDir ++ names ++ [rootFile names]) =
        some (.file text) := by
  obtain ⟨hbackend, hend⟩ := h
  obtain ⟨directories, file, hplace, hnames⟩ := hclass
  rcases hinput : invocation.input with failure | descriptor
  · obtain ⟨target, hmem, -⟩ := hplace
    rw [targets, hinput] at hmem
    cases hmem
  · obtain ⟨hrun, htargets⟩ := run_of_input hinput tree
    rw [htargets] at hslash hplace
    obtain ⟨classes, -, hleaves⟩ :=
      Options.runAll_leavesCrate hbackend hslash rfl (hrun.symm.trans (Prod.eta _).symm) hend
    obtain ⟨-, text, -, hlook⟩ := hleaves.root directories file names hplace hnames
    exact ⟨_, hlook⟩

/-- The module roots stay files in all later runs. -/
theorem look_root_of_completes (more : List Invocation) {names : List String}
    (hslash : invocation.options.NoSlash invocation.targets)
    (hcompletes : invocation.Completes (treeAfter tree history))
    (hclass : invocation.HasClassIn names) :
    ∃ text, (treeAfter tree (history ++ invocation :: more)).look
      (invocation.options.outputDir.location tree.workDir ++ names ++ [rootFile names]) =
        some (.file text) := by
  obtain ⟨text, hlook⟩ := hcompletes.look_root hslash hclass
  rw [(treeAfter_grows tree history).workDir] at hlook
  rw [treeAfter_append]
  exact (treeAfter_grows _ more).look_file hlook

/-! ### Declared directories -/

/-- A directory in an output directory that was fresh has a module root, unless the runs with
classes in it have not gone through all their classes and module roots. -/
theorem look_root_or_not_completes {options : Options} {names : List String} {name : String}
    (houtput : ∀ invocation ∈ history, invocation.options.outputDir = options.outputDir)
    (hslash : ∀ invocation ∈ history, invocation.options.NoSlash invocation.targets)
    (hvacant : options.IsVacant tree)
    (hlook : (treeAfter tree history).look
      (options.outputDir.location tree.workDir ++ names ++ [name]) = some .directory) :
    (∃ text, (treeAfter tree history).look
        (options.outputDir.location tree.workDir ++ names ++ [name, "mod.rs"]) =
          some (.file text)) ∨
      (∃ invocation ∈ history, invocation.HasClassIn (names ++ [name])) ∧
        ∀ before invocation after, history = before ++ invocation :: after →
          invocation.HasClassIn (names ++ [name]) →
            ¬ invocation.Completes (treeAfter tree before) := by
  rw [List.append_assoc] at hlook
  by_cases hcompleted : ∃ before invocation after, history = before ++ invocation :: after ∧
      invocation.HasClassIn (names ++ [name]) ∧ invocation.Completes (treeAfter tree before)
  · obtain ⟨before, invocation, after, rfl, hclass, hcompletes⟩ := hcompleted
    have hmem : invocation ∈ before ++ invocation :: after := by simp
    obtain ⟨text, hfile⟩ :=
      look_root_of_completes after (hslash invocation hmem) hcompletes hclass
    rw [houtput invocation hmem, rootFile_concat, ← List.append_assoc, List.append_assoc _ [name]]
      at hfile
    exact Or.inl ⟨text, hfile⟩
  · push Not at hcompleted
    exact Or.inr ⟨exists_hasClassIn houtput hslash hvacant (by simp) hlook, hcompleted⟩

/-- **The module tree stays closed.**  After a run in a crate that ends well, at the end of any
history in a fresh output directory, take any directory in one whose module root is reached,
whatever the module roots declare.  It has a module root itself, which is reached in its turn if it
is declared; unless some runs had classes in the directory and none of these runs went through all
its classes and module roots. -/
theorem reaches_declared {invocation : Invocation} {tree : FileTree} {front : List Invocation}
    (houtput : ∀ other ∈ front, other.options.outputDir = invocation.options.outputDir)
    (hslash : ∀ other ∈ front ++ [invocation], other.options.NoSlash other.targets)
    (hvacant : invocation.options.IsVacant tree) (hbackend : invocation.options.backend = .rust)
    (hend : (invocation.run (treeAfter tree front)).2 = none) :
    let crate := invocation.options.outputDir.location tree.workDir
    let last := treeAfter tree (front ++ [invocation])
    (∀ other ∈ front ++ [invocation], ∀ before, other.options.readInput before = other.input →
      other.run before = other.options.run before) ∧
    ∀ (declared : List String → List Declaration) (names : List String) (name : String),
      ReachesRoot last crate declared names →
      last.look (crate ++ names ++ [name]) = some .directory →
        ((∃ text, last.look (crate ++ names ++ [name, "mod.rs"]) = some (.file text)) ∧
          ∀ declaration ∈ declared names, declaration.ident.name = name →
            ReachesRoot last crate declared (names ++ [name])) ∨
          (∃ other ∈ front, other.HasClassIn (names ++ [name])) ∧
            ∀ before other after, front ++ [invocation] = before ++ other :: after →
              other.HasClassIn (names ++ [name]) → ¬ other.Completes (treeAfter tree before) := by
  intro crate last
  refine ⟨fun other _ before hread => run_eq hread, fun declared names name hreaches hlook => ?_⟩
  have houtputs : ∀ other ∈ front ++ [invocation],
      other.options.outputDir = invocation.options.outputDir := fun other hmem => by
    rcases List.mem_append.1 hmem with hmem | hmem
    · exact houtput other hmem
    · rw [List.mem_singleton.1 hmem]
  rcases look_root_or_not_completes houtputs hslash hvacant hlook with ⟨text, hfile⟩ |
    ⟨⟨other, hmem, hclass⟩, hnot⟩
  · refine Or.inl ⟨⟨text, hfile⟩, ?_⟩
    rintro declaration hdeclared rfl
    exact .descend hreaches hdeclared hfile
  · refine Or.inr ⟨?_, hnot⟩
    rcases List.mem_append.1 hmem with hmem | hmem
    · exact ⟨other, hmem, hclass⟩
    · -- the last run has come to its end
      obtain rfl := List.mem_singleton.1 hmem
      exact absurd ⟨hbackend, Or.inl hend⟩ (hnot front other [] rfl hclass)

/-- A run into the crate at `out` that ends at a malformed name, after a class in `com.x`. -/
def aborted : Invocation := ⟨crateOptions, .ok ⟨[emptyTarget "com.x.A" "A", brokenTarget]⟩⟩

/-- A run into the same directory in the other language, with a class in `com.y`. -/
def foreign : Invocation :=
  ⟨{ crateOptions with backend := .java }, .ok ⟨[emptyTarget "com.y.A" "A"]⟩⟩

/-- A run into the same crate that ends well, with a class in `com`. -/
def completed : Invocation := ⟨crateOptions, .ok ⟨[storeTarget]⟩⟩

theorem noSlash_history :
    ∀ other ∈ [aborted, foreign, completed], other.options.NoSlash other.targets := by
  have haborted : aborted.options.NoSlash aborted.targets := by
    intro target hmem unit hunit
    rcases List.mem_cons.1 hmem with rfl | hmem
    · obtain rfl := Except.ok.inj hunit
      exact ⟨by decide, by decide⟩
    · obtain rfl := List.mem_singleton.1 hmem
      cases hunit
  have hforeign : foreign.options.NoSlash foreign.targets := by
    intro target hmem unit hunit
    obtain rfl := List.mem_singleton.1 hmem
    obtain rfl := Except.ok.inj hunit
    exact ⟨by decide, by decide⟩
  simpa using ⟨haborted, hforeign, show completed.options.NoSlash _ from noSlash_storeTarget⟩

theorem run_completed : (completed.run (treeAfter storeTree [aborted, foreign])).2 = none :=
  Option.isNone_iff_eq_none.1 (by decide +kernel)

/-- What the runs leave. -/
theorem look_history :
    let last := treeAfter storeTree [aborted, foreign, completed]
    last.look ["out", "lib.rs"] = some (.file "pub mod com ;") ∧
      last.look ["out", "com"] = some .directory ∧
      last.look ["out", "com", "mod.rs"] =
        some (.file "mod store_impl ; pub use store_impl :: * ; pub mod x ; pub mod y ;") ∧
      last.look ["out", "com", "x"] = some .directory ∧
      last.look ["out", "com", "x", "mod.rs"] = none ∧
      last.look ["out", "com", "y"] = some .directory ∧
      last.look ["out", "com", "y", "mod.rs"] = none := by
  decide +kernel

/-- What the module roots declare then. -/
def historyDeclarations : List String → List Declaration
  | [] => [⟨⟨"com", false⟩, false⟩]
  | ["com"] => [⟨⟨"store_impl", false⟩, true⟩, ⟨⟨"x", false⟩, false⟩, ⟨⟨"y", false⟩, false⟩]
  | _ => []

theorem reachesRoot_crate :
    ReachesRoot (treeAfter storeTree [aborted, foreign, completed]) ["out"] historyDeclarations
      [] := .crate look_history.1

/-- The directory with the class of the last run has a module root, which is reached. -/
theorem reaches_declared_store :
    let last := treeAfter storeTree [aborted, foreign, completed]
    (∀ other ∈ [aborted, foreign, completed], other.options.NoSlash other.targets) ∧
      crateOptions.IsVacant storeTree ∧
      (completed.run (treeAfter storeTree [aborted, foreign])).2 = none ∧
      last.look ["out", "lib.rs"] = some (.file (moduleText (historyDeclarations []))) ∧
      ReachesRoot last ["out"] historyDeclarations ["com"] := by
  refine ⟨noSlash_history, isVacant_input _, run_completed, look_history.1, ?_⟩
  obtain ⟨-, hdirectory, -⟩ := look_history
  have houtput : ∀ other ∈ [aborted, foreign],
      other.options.outputDir = completed.options.outputDir := by
    simp [aborted, foreign, completed]
  obtain ⟨-, hall⟩ := reaches_declared houtput noSlash_history (isVacant_input _) rfl run_completed
  rcases hall historyDeclarations [] "com" reachesRoot_crate hdirectory with
    ⟨-, hreaches⟩ | ⟨-, hnot⟩
  · exact hreaches _ List.mem_cons_self rfl
  · -- the last run went through its module roots, and has a class in the directory
    exact absurd ⟨rfl, Or.inl run_completed⟩ (hnot [aborted, foreign] completed [] rfl
      ⟨["com"], "store_impl.rs", isPlace_storeTarget_iff.2 ⟨rfl, rfl⟩, List.prefix_refl _⟩)

/-- The directories with the classes of the other runs are declared by the module root of the last
one, but have no module roots. -/
theorem declared_unreached :
    let last := treeAfter storeTree [aborted, foreign, completed]
    (∀ other ∈ [aborted, foreign, completed], other.options.NoSlash other.targets) ∧
      crateOptions.IsVacant storeTree ∧
      (aborted.run storeTree).2 = some (.malformed ⟨"A", "B"⟩) ∧
      (completed.run (treeAfter storeTree [aborted, foreign])).2 = none ∧
      last.look ["out", "lib.rs"] = some (.file (moduleText (historyDeclarations []))) ∧
      last.look ["out", "com", "mod.rs"] =
        some (.file (moduleText (historyDeclarations ["com"]))) ∧
      moduleText (historyDeclarations ["com"]) =
        "mod store_impl ; pub use store_impl :: * ; pub mod x ; pub mod y ;" ∧
      ReachesRoot last ["out"] historyDeclarations ["com"] ∧
      (last.look ["out", "com", "x"] = some .directory ∧
        last.look ["out", "com", "x", "mod.rs"] = none) ∧
      last.look ["out", "com", "y"] = some .directory ∧
        last.look ["out", "com", "y", "mod.rs"] = none := by
  intro last
  obtain ⟨hlib, -, hmod, hfirst, hfirstMod, hsecond, hsecondMod⟩ := look_history
  have htext : moduleText (historyDeclarations ["com"]) =
      "mod store_impl ; pub use store_impl :: * ; pub mod x ; pub mod y ;" := by decide
  have hdeclared : (⟨⟨"com", false⟩, false⟩ : Declaration) ∈ historyDeclarations [] :=
    List.mem_cons_self
  have hreaches : ReachesRoot last ["out"] historyDeclarations ([] ++ ["com"]) :=
    .descend reachesRoot_crate hdeclared hmod
  exact ⟨noSlash_history, isVacant_input _, rfl, run_completed, hlib, htext ▸ hmod, htext, hreaches,
    ⟨hfirst, hfirstMod⟩, hsecond, hsecondMod⟩

end Invocation

end Forwarding
