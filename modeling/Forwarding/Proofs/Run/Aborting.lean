import Forwarding.Proofs.Run.Accumulation
import Forwarding.Proofs.Run.Isolation

/-!
# Runs that end early

All checks of a target come before its effects, and the module roots come after all classes.  So a
run that ends at its input changes nothing, and one that ends at a name leaves exactly the classes
of the targets before.

* `Options.Leaves`: the classes of some targets, written in order, and nothing else;
* `Options.Leaves.unique`: there is only one such file tree;
* `Options.runTargets_leaves`: what is left of targets none of which ends the run;
* `Options.run_leaves`: what is left of a run that ends at its input, at a malformed name, or at a
  name that is no identifier.
-/

namespace Forwarding

open FileTree

/-- A malformed name is that of the interface. -/
theorem Interface.qualifiedName_of_malformed {interface : Interface} {fault : MalformedName}
    (h : interface.className = .error fault) : fault.qualifiedName = interface.qualifiedName := by
  rw [(className_eq_error_iff.1 h).1]

namespace Options

variable {options : Options} {tree last other : FileTree} {targets : List Target}

/-! ### Classes and nothing else -/

/-- The tree comes of the first one by writing the classes of the targets in order: of those with
one place the last one stays, there are directories on their ways, and all else is as it was. -/
structure Leaves (options : Options) (tree : FileTree) (targets : List Target) (last : FileTree) :
    Prop where
  workDir : last.workDir = tree.workDir
  entry : last.nodes[([] : Location)]? = tree.nodes[([] : Location)]?
  makes : ∀ target ∈ targets, target.isWellNamed = true →
    ∃ unit path text, options.Makes target unit path text
  directory : ∀ location, options.ClassDirectory tree.workDir targets location →
    last.look location = some .directory
  file : ∀ front target after, targets = front ++ target :: after →
    ∀ unit path text, options.Makes target unit path text →
      ¬ options.ClassFile tree.workDir after (path.location tree.workDir) →
        last.look (path.location tree.workDir) = some (.file text)
  other : ∀ location, ¬ options.ClassDirectory tree.workDir targets location →
    ¬ options.ClassFile tree.workDir targets location → last.look location = tree.look location

/-- Of the classes with one place there is a last one. -/
theorem ClassFile.exists_last {workDir location : Location}
    (h : options.ClassFile workDir targets location) :
    ∃ front target after, targets = front ++ target :: after ∧
      (∃ unit path text, options.Makes target unit path text ∧ location = path.location workDir) ∧
      ¬ options.ClassFile workDir after location := by
  induction targets with
  | nil =>
    obtain ⟨target, hmem, -⟩ := h
    cases hmem
  | cons target rest ih =>
    by_cases hrest : options.ClassFile workDir rest location
    · obtain ⟨front, other, after, rfl, hother⟩ := ih hrest
      exact ⟨target :: front, other, after, rfl, hother⟩
    · obtain ⟨other, hmem, hmakes⟩ := h
      rcases List.mem_cons.1 hmem with rfl | hmem
      · exact ⟨[], other, rest, rfl, hmakes, hrest⟩
      · exact absurd ⟨other, hmem, hmakes⟩ hrest

/-- The targets settle what is left. -/
theorem Leaves.unique (h : options.Leaves tree targets last)
    (h' : options.Leaves tree targets other) : other = last := by
  refine ext_look (h'.workDir.trans h.workDir.symm) (h'.entry.trans h.entry.symm) fun location => ?_
  by_cases hdirectory : options.ClassDirectory tree.workDir targets location
  · rw [h.directory location hdirectory, h'.directory location hdirectory]
  · by_cases hfile : options.ClassFile tree.workDir targets location
    · obtain ⟨front, target, after, hsplit, ⟨unit, path, text, hmakes, rfl⟩, hlast⟩ :=
        hfile.exists_last
      rw [h.file front target after hsplit unit path text hmakes hlast,
        h'.file front target after hsplit unit path text hmakes hlast]
    · rw [h.other location hdirectory hfile, h'.other location hdirectory hfile]

/-- Targets none of which ends the run leave their classes. -/
theorem runTargets_leaves {progress classes : Progress}
    (h : options.runTargets progress targets = (classes, none)) :
    options.Leaves progress.tree targets classes.tree := by
  have hruns := runTargets_runsTargets h
  refine ⟨hruns.grows.workDir, hruns.grows.entry, fun target hmem hname => ?_,
    fun location => hruns.look_directory, ?_, fun location hdirectory hfile => ?_⟩
  · obtain ⟨unit, hunit⟩ : ∃ unit, target.forwarder options.suffix = .ok unit :=
      Target.isWellNamed_iff.1 hname
    obtain ⟨path, text, hmakes, -⟩ := hruns.made target hmem unit hunit
    exact ⟨unit, path, text, hmakes⟩
  · rintro front target after rfl unit path text hmakes hlater
    exact (look_of_later h hmakes hlater).2
  · rcases hruns.grows.look location with hsame | ⟨hmade, -⟩ | ⟨hwritten, -⟩
    · exact hsame
    · exact absurd hmade hdirectory
    · exact absurd hwritten hfile

/-! ### Targets that end a run -/

/-- Without keeping going a malformed name ends the run. -/
theorem runTarget_eq_malformed {progress : Progress} {target : Target} {fault : MalformedName}
    (hkeep : options.keepGoing = false) (h : target.interface.className = .error fault) :
    options.runTarget progress target = (progress, some (.malformed fault)) := by
  have hforwarder : target.forwarder options.suffix = .error fault :=
    Interface.forwarder_eq_error_iff.2 h
  rw [runTarget, hforwarder]
  exact if_neg (by simp [hkeep])

/-- So the targets before have well-formed names. -/
theorem isWellNamed_of_runTargets {progress classes : Progress} {targets : List Target}
    (hkeep : options.keepGoing = false)
    (h : options.runTargets progress targets = (classes, none)) :
    ∀ target ∈ targets, target.isWellNamed = true := by
  intro target hmem
  by_contra hname
  obtain ⟨fault, hfault⟩ := Target.isWellNamed_eq_false_iff.1 (Bool.not_eq_true _ ▸ hname)
  obtain ⟨front, rest, rfl⟩ := List.append_of_mem hmem
  obtain ⟨middle, -, hrest⟩ := runTargets_append_eq_none.1 h
  obtain ⟨next, hstep, -⟩ := runTargets_cons_eq_none.1 hrest
  rw [runTarget_eq_malformed hkeep hfault] at hstep
  cases hstep

/-- The class of the target has no file name, or no text. -/
def Fails (options : Options) (unit : Forwarder) (fault : NameFault) : Prop :=
  options.backend.classPath options.outputDir unit.name = .error fault ∨
    (∃ path, options.backend.classPath options.outputDir unit.name = .ok path) ∧
      (options.render unit).2 = .error fault

/-- A class without a file name or a text ends the run before anything is written. -/
theorem Fails.runTarget {unit : Forwarder} {fault : NameFault} (h : options.Fails unit fault)
    {target : Target} (hunit : target.forwarder options.suffix = .ok unit) (progress : Progress) :
    ∃ next, options.runTarget progress target = (next, some (.name fault)) ∧
      next.tree = progress.tree := by
  rw [Options.runTarget, hunit]
  dsimp only
  rcases h with hpath | ⟨⟨path, hpath⟩, hrender⟩
  · rw [runClass, hpath]
    exact ⟨_, rfl, rfl⟩
  · obtain ⟨log, hlog⟩ : ∃ log, options.render unit = (log, .error fault) :=
      ⟨_, Prod.ext rfl hrender⟩
    rw [runClass, hpath, hlog]
    exact ⟨_, rfl, rfl⟩

/-- Nothing comes after a target that ends the run. -/
theorem run_of_runTarget {descriptor : Descriptor} {before after : List Target} {target : Target}
    {classes next : Progress} {failure : Failure} (hread : options.readInput tree = .ok descriptor)
    (htargets : descriptor.interfaces = before ++ target :: after)
    (hbefore : options.runTargets { tree, log := [.debug "Reading input"] } before =
      (classes, none))
    (hstep : options.runTarget classes target = (next, some failure)) :
    options.run tree = (next, some failure) := by
  rw [run_eq_runAll hread]
  refine runAll_of_failure ?_
  rw [htargets, runTargets_append, hbefore]
  dsimp only
  rw [runTargets, hstep]

/-! ### Runs -/

/-- A run that ends early leaves exactly what was finished.  (a) If the input cannot be read, the
file tree is as it was.  Otherwise let the targets before one be run through.  Their classes are
all that is left, if then (b) without keeping going the name of the target is malformed, or (c) its
class has no file name or no text. -/
theorem run_leaves (options : Options) (tree : FileTree) :
    (∀ fault, tree.read options.inputFile = .error fault →
        (options.run tree).1.tree = tree ∧ (options.run tree).2 ≠ none) ∧
      (∀ text fault, tree.read options.inputFile = .ok text →
        Json.readDocument readDescriptor text = .error fault →
          (options.run tree).1.tree = tree ∧ (options.run tree).2 = some (.input fault)) ∧
      ∀ descriptor before target after classes, options.readInput tree = .ok descriptor →
        descriptor.interfaces = before ++ target :: after →
        options.runTargets { tree, log := [.debug "Reading input"] } before = (classes, none) →
          (∀ fault, options.keepGoing = false → target.interface.className = .error fault →
            (∀ other ∈ before, other.isWellNamed = true) ∧
            (∀ last, options.Leaves tree before last ↔ last = (options.run tree).1.tree) ∧
            (options.run tree).2 = some (.malformed fault) ∧
            (Failure.malformed fault).message? =
              some ("Failed to generate " ++ target.interface.qualifiedName ++ ": " ++
                fault.message)) ∧
          ∀ unit fault, target.forwarder options.suffix = .ok unit → options.Fails unit fault →
            (∀ last, options.Leaves tree before last ↔ last = (options.run tree).1.tree) ∧
            (options.run tree).1.tree = classes.tree ∧
            (options.run tree).2 = some (.name fault) := by
  refine ⟨fun fault hread => ?_, fun text fault hread hdocument => ?_, ?_⟩
  · rw [run, readInput, hread]
    cases fault <;> exact ⟨rfl, by simp⟩
  · rw [run, readInput, hread]
    dsimp only
    rw [hdocument]
    exact ⟨rfl, rfl⟩
  · intro descriptor before target after classes hread htargets hbefore
    have hleaves := runTargets_leaves hbefore
    have hsettled : ∀ last, options.Leaves tree before last ↔ last = classes.tree :=
      fun last => ⟨hleaves.unique, fun h => h ▸ hleaves⟩
    refine ⟨fun fault hkeep hfault => ?_, fun unit fault hunit hfails => ?_⟩
    · have hrun := run_of_runTarget hread htargets hbefore (runTarget_eq_malformed hkeep hfault)
      rw [hrun]
      refine ⟨isWellNamed_of_runTargets hkeep hbefore, hsettled, rfl, ?_⟩
      rw [Failure.message?, Interface.qualifiedName_of_malformed hfault]
    · obtain ⟨next, hstep, htree⟩ := hfails.runTarget hunit classes
      rw [run_of_runTarget hread htargets hbefore hstep]
      exact ⟨fun last => htree ▸ hsettled last, htree, rfl⟩

/-- The tree of a run that is told of a class that can be written, of a malformed name, and of a
method whose name is no identifier. -/
def failingTree : FileTree :=
  FileTree.empty.put ["in"] (.file ("\x7b\"interfaces\":[" ++
    "\x7b\"qualifiedName\":\"com.Store\",\"simpleName\":\"Store\",\"members\":[]," ++
    "\"delegate\":[\"com\",\"Memory\",\"store\"]\x7d," ++
    "\x7b\"qualifiedName\":\"A\",\"simpleName\":\"B\",\"members\":[]," ++
    "\"delegate\":[\"\",\"D\",\"d\"]\x7d," ++
    "\x7b\"qualifiedName\":\"N\",\"simpleName\":\"N\",\"members\":[" ++
    "\x7b\"kind\":\"method\",\"name\":\"_1\",\"returnType\":\x7b\"type\":\"void\"\x7d\x7d]," ++
    "\"delegate\":[\"\",\"D\",\"d\"]\x7d]\x7d"))

/-- A missing input and one that is no document leave the tree as it was.  Without keeping going the
run ends at the malformed name, and with it at the method. -/
theorem run_leaves_failing :
    (crateOptions.run .empty).1.tree = .empty ∧
      (crateOptions.run (FileTree.empty.put ["in"] (.file "["))).1.tree =
        FileTree.empty.put ["in"] (.file "[") ∧
      crateOptions.Leaves failingTree [storeTarget] (crateOptions.run failingTree).1.tree ∧
      (crateOptions.run failingTree).2 = some (.malformed ⟨"A", "B"⟩) ∧
      keepingCrateOptions.Leaves failingTree [storeTarget, brokenTarget]
        (keepingCrateOptions.run failingTree).1.tree ∧
      (keepingCrateOptions.run failingTree).2 = some (.name .number) := by
  have hread : crateOptions.readInput failingTree =
      .ok ⟨[storeTarget, brokenTarget, numberedTarget]⟩ :=
    toOption_eq_some_iff.1 (by decide +kernel)
  have hfirst : (crateOptions.runTargets { tree := failingTree, log := [.debug "Reading input"] }
      [storeTarget]).2 = none := Option.isNone_iff_eq_none.1 (by decide +kernel)
  have hboth : (keepingCrateOptions.runTargets
      { tree := failingTree, log := [.debug "Reading input"] } [storeTarget, brokenTarget]).2 =
        none := Option.isNone_iff_eq_none.1 (by decide +kernel)
  have hmissing : FileTree.empty.read crateOptions.inputFile = .error .notFound := by
    decide +kernel
  obtain ⟨hempty, -⟩ := (run_leaves crateOptions .empty).1 .notFound hmissing
  obtain ⟨fault, hfault⟩ : ∃ fault, Json.readDocument readDescriptor "[" = .error fault := by
    have hnot : (Json.readDocument readDescriptor "[").isOk = false := by decide +kernel
    cases hdocument : Json.readDocument readDescriptor "[" with
    | error fault => exact ⟨fault, rfl⟩
    | ok descriptor =>
      rw [hdocument] at hnot
      cases hnot
  have hopened : (FileTree.empty.put ["in"] (.file "[")).read crateOptions.inputFile = .ok "[" := by
    decide +kernel
  obtain ⟨hgarbled, -⟩ := (run_leaves crateOptions _).2.1 "[" fault hopened hfault
  obtain ⟨-, hleaves, hfailure, -⟩ := ((run_leaves crateOptions failingTree).2.2 _ [storeTarget]
    brokenTarget [numberedTarget] _ hread rfl (Prod.ext rfl hfirst)).1 _ rfl rfl
  obtain ⟨hkept, -, hname⟩ := ((run_leaves keepingCrateOptions failingTree).2.2 _
    [storeTarget, brokenTarget] numberedTarget [] _ hread rfl (Prod.ext rfl hboth)).2 _ .number rfl
      (Or.inr ⟨⟨⟨["out", "n_impl.rs"]⟩, by decide +kernel⟩, by decide +kernel⟩)
  exact ⟨hempty, hgarbled, (hleaves _).2 rfl, hfailure, (hkept _).2 rfl, hname⟩

end Options

end Forwarding
