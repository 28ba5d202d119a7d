import Forwarding.Proofs.Run.Events
import Forwarding.Proofs.Run.ModuleTree

/-!
# Runs without a formatter

Where the formatter cannot be started, every Rust text stays as it is rendered.  A run that wants
its texts formatted leaves a warning for each of them, and is otherwise the run that does not.

* `Alike`: the same part of a run without and with warnings, and its events;
* `Alike.andThen`: parts that follow each other;
* `Options.runTarget_alike_warned`, `Options.runModule_alike_warned`: one class and one module root;
* `Options.runTargets_alike_warned`, `Options.runModules_alike_warned`: all of them;
* `Options.run_warned`: the whole run.
-/

namespace Forwarding

/-- The warning that a text stays unformatted, since the formatter is not started. -/
def unformatted (reason : String) : Record :=
  ⟨.warn, "Writing unformatted output: " ++ "Failed to start rustfmt: " ++ reason⟩

/-! ### Parts of a run without and with warnings -/

/-- Two runs have come equally far, but for their records. -/
structure Progress.SameFiles (progress other : Progress) : Prop where
  tree : progress.tree = other.tree
  written : progress.written = other.written
  failed : progress.failed = other.failed

/-- Two runs with the logs `log` and `otherLog` come equally far again, and fail alike if at all.
The first adds the records of the events without warnings, the second those with warnings. -/
structure Parallel (warning : Record) (events : List Event) (log otherLog : List Record)
    (plain warned : Progress × Option Failure) : Prop where
  sameFiles : plain.1.SameFiles warned.1
  failure : plain.2 = warned.2
  log_plain : plain.1.log = log ++ events.flatMap (Event.records [])
  log_warned : warned.1.log = otherLog ++ events.flatMap (Event.records [warning])

/-- The same part of a run without and with warnings, and its events. -/
def Alike (warning : Record) (events : Progress → List Event)
    (plain warned : Progress → Progress × Option Failure) : Prop :=
  ∀ progress other : Progress, progress.SameFiles other →
    Parallel warning (events progress) progress.log other.log (plain progress) (warned other)

namespace Progress.SameFiles

theorem refl (progress : Progress) : progress.SameFiles progress := ⟨rfl, rfl, rfl⟩

variable {warning : Record} {progress other : Progress} (h : progress.SameFiles other)

include h

theorem onTree (tree : FileTree) :
    ({ progress with tree } : Progress).SameFiles { other with tree } :=
  ⟨rfl, h.written, h.failed⟩

/-- What does nothing but end the run, if there is a failure. -/
theorem stop (failure : Option Failure) :
    Parallel warning [] progress.log other.log (progress, failure) (other, failure) where
  sameFiles := h
  failure := rfl
  log_plain := (List.append_nil _).symm
  log_warned := (List.append_nil _).symm

/-- The records of events can be made. -/
theorem note (warning : Record) (events : List Event) :
    Parallel warning events progress.log other.log
      (progress.note (events.flatMap (Event.records [])), none)
      (other.note (events.flatMap (Event.records [warning])), none) where
  sameFiles := ⟨h.tree, h.written, h.failed⟩
  failure := rfl
  log_plain := rfl
  log_warned := rfl

theorem openFile (path : Path) (text : String) :
    Parallel warning [] progress.log other.log (progress.openFile path text)
      (other.openFile path text) := by
  unfold Progress.openFile
  rw [h.tree]
  split
  · rename_i tree _
    exact (h.onTree tree).stop none
  · exact h.stop _

theorem writeFile (path : Path) (text : String) :
    Parallel warning [] progress.log other.log (progress.writeFile path text)
      (other.writeFile path text) := by
  unfold Progress.writeFile
  rw [h.tree]
  split
  · exact h.openFile path text
  · split
    · rename_i tree _ _
      exact (h.onTree tree).stop _
    · rename_i tree _
      exact (h.onTree tree).openFile path text

end Progress.SameFiles

namespace Alike

variable {warning : Record}

theorem stop (failure : Option Failure) :
    Alike warning (fun _ => []) (fun progress => (progress, failure))
      fun progress => (progress, failure) :=
  fun _ _ h => h.stop failure

theorem events (warning : Record) (events : List Event) :
    Alike warning (fun _ => events)
      (fun progress => (progress.note (events.flatMap (Event.records [])), none))
      fun progress => (progress.note (events.flatMap (Event.records [warning])), none) :=
  fun _ _ h => h.note warning events

theorem note (records : List Record) :
    Alike warning (fun _ => records.map .noted) (fun progress => (progress.note records, none))
      fun progress => (progress.note records, none) := by
  have hevents := Alike.events warning (records.map .noted)
  rwa [Event.flatMap_records_noted, Event.flatMap_records_noted] at hevents

theorem writeFile (path : Path) (text : String) :
    Alike warning (fun _ => []) (·.writeFile path text) (·.writeFile path text) :=
  fun _ _ h => h.writeFile path text

/-- What comes first may leave no time for what comes next. -/
theorem andThen {events next : Progress → List Event}
    {plain warned plainNext warnedNext : Progress → Progress × Option Failure}
    (h : Alike warning events plain warned) (hnext : Alike warning next plainNext warnedNext) :
    Alike warning (followed plain events next)
      (fun progress =>
        match plain progress with
        | (progress, some failure) => (progress, some failure)
        | (progress, none) => plainNext progress)
      fun progress =>
        match warned progress with
        | (progress, some failure) => (progress, some failure)
        | (progress, none) => warnedNext progress := by
  intro progress other hsame
  have hpart := h progress other hsame
  dsimp only [followed]
  rcases hplain : plain progress with ⟨middle, failure⟩
  rcases hwarned : warned other with ⟨otherMiddle, otherFailure⟩
  rw [hplain, hwarned] at hpart
  obtain rfl : failure = otherFailure := hpart.failure
  cases failure with
  | some failure =>
    rw [List.append_nil]
    exact hpart
  | none =>
    have hrest := hnext middle otherMiddle hpart.sameFiles
    have hplainLog : middle.log = _ := hpart.log_plain
    have hwarnedLog : otherMiddle.log = _ := hpart.log_warned
    exact
      { sameFiles := hrest.sameFiles
        failure := hrest.failure
        log_plain := by
          rw [hrest.log_plain, hplainLog, List.flatMap_append, List.append_assoc]
        log_warned := by
          rw [hrest.log_warned, hwarnedLog, List.flatMap_append, List.append_assoc] }

end Alike

/-! ### Classes and module roots -/

/-- The text of a class. -/
def Backend.source (backend : Backend) (unit : Forwarder) : Except NameFault String :=
  match backend with
  | .java => .ok unit.javaSource
  | .rust => unit.rustSource.2

namespace Options

/-- The run that wants no texts formatted. -/
def plain (options : Options) : Options := { options with noFormat := true }

/-- The run that wants its texts formatted. -/
def warned (options : Options) : Options := { options with noFormat := false }

@[simp] theorem plain_backend (options : Options) : options.plain.backend = options.backend := rfl

@[simp] theorem plain_outputDir (options : Options) :
    options.plain.outputDir = options.outputDir := rfl

@[simp] theorem plain_suffix (options : Options) : options.plain.suffix = options.suffix := rfl

@[simp] theorem warned_backend (options : Options) : options.warned.backend = options.backend := rfl

@[simp] theorem warned_outputDir (options : Options) :
    options.warned.outputDir = options.outputDir := rfl

@[simp] theorem warned_suffix (options : Options) : options.warned.suffix = options.suffix := rfl

@[simp] theorem plain_format (options : Options) (text : String) :
    options.plain.format text = ([], text) := rfl

theorem warned_format {options : Options} {reason : String}
    (h : options.formatter = .unstartable reason) (text : String) :
    options.warned.format text = ([unformatted reason], text) := by
  have hwarned : options.warned.formatter text = .error (.notStarted reason) := congrFun h text
  rw [format, if_neg (show ¬ options.warned.noFormat = true from Bool.false_ne_true), hwarned,
    unformatted, String.append_assoc]
  rfl

/-- A class whose text is written as it is leaves the records of its events. -/
theorem render_eq {options : Options} {left : List Record}
    (h : ∀ text, options.format text = (left, text)) (unit : Forwarder) :
    options.render unit =
      ((options.renderEvents unit).flatMap (Event.records left), options.backend.source unit) := by
  unfold render renderEvents Backend.source
  cases options.backend with
  | java => rfl
  | rust =>
    rcases unit.rustSource with ⟨log, fault | text⟩ <;>
      simp [Except.toOption, Event.records, h]

section Alike

variable {options : Options} {reason : String}
  (hformatter : options.formatter = .unstartable reason)

include hformatter

theorem runClass_alike_warned (unit : Forwarder) :
    Alike (unformatted reason) (options.plain.classEvents unit) (options.plain.runClass · unit)
      (options.warned.runClass · unit) := by
  have hplain : options.plain.render unit =
      ((options.plain.renderEvents unit).flatMap (Event.records []), options.backend.source unit) :=
    render_eq options.plain_format unit
  have hwarned : options.warned.render unit =
      ((options.plain.renderEvents unit).flatMap (Event.records [unformatted reason]),
        options.backend.source unit) := render_eq (warned_format hformatter) unit
  unfold classEvents runClass
  simp only [plain_backend, plain_outputDir, warned_backend, warned_outputDir, hplain, hwarned]
  cases options.backend.classPath options.outputDir unit.name with
  | error fault => exact Alike.stop _
  | ok path =>
    cases options.backend.source unit with
    | error fault =>
      intro progress other h
      have hnoted := h.note (unformatted reason) (options.plain.renderEvents unit)
      exact ⟨hnoted.sameFiles, rfl, hnoted.log_plain, hnoted.log_warned⟩
    | ok text =>
      refine (Alike.events (unformatted reason) (options.plain.renderEvents unit)).andThen
        ((Alike.writeFile path text).andThen ?_)
      intro progress other h
      have hnoted := h.note (unformatted reason)
        [.noted ⟨.info, "Generated " ++ unit.name.qualified ++ " at " ++ path.quoted⟩]
      have hwritten : progress.written ++ [path] = other.written ++ [path] := by rw [h.written]
      exact
        { sameFiles := ⟨h.tree, hwritten, h.failed⟩
          failure := rfl
          log_plain := hnoted.log_plain
          log_warned := hnoted.log_warned }

theorem runTarget_alike_warned (target : Target) :
    Alike (unformatted reason) (options.plain.targetEvents target)
      (options.plain.runTarget · target) (options.warned.runTarget · target) := by
  unfold targetEvents runTarget
  simp only [plain_suffix, warned_suffix]
  cases target.forwarder options.suffix with
  | error fault =>
    intro progress other h
    by_cases hkeep : options.keepGoing = true
    · have hplain : options.plain.keepGoing = true := hkeep
      have hwarned : options.warned.keepGoing = true := hkeep
      simp only [if_pos hplain, if_pos hwarned]
      have hnoted := h.note (unformatted reason)
        [.noted ⟨.error, "Skipping " ++ target.interface.qualifiedName ++ ": " ++ fault.message⟩]
      have hfailed : progress.failed + 1 = other.failed + 1 := by rw [h.failed]
      exact
        { sameFiles := ⟨h.tree, h.written, hfailed⟩
          failure := rfl
          log_plain := hnoted.log_plain
          log_warned := hnoted.log_warned }
    · have hplain : ¬ options.plain.keepGoing = true := hkeep
      have hwarned : ¬ options.warned.keepGoing = true := hkeep
      simp only [if_neg hplain, if_neg hwarned]
      exact h.stop _
  | ok unit =>
    exact (Alike.note (target.generationLog options.suffix)).andThen
      (runClass_alike_warned hformatter unit)

theorem runTargets_alike_warned (targets : List Target) :
    Alike (unformatted reason) (options.plain.targetsEvents targets)
      (options.plain.runTargets · targets) (options.warned.runTargets · targets) := by
  induction targets with
  | nil => exact Alike.stop none
  | cons target rest ih =>
    rw [targetsEvents_cons]
    exact (runTarget_alike_warned hformatter target).andThen ih

theorem runModule_alike_warned (directory : Path) :
    Alike (unformatted reason) (options.plain.rootEvents directory)
      (options.plain.runModule · directory) (options.warned.runModule · directory) := by
  intro progress other h
  dsimp only [rootEvents, runModule, FileTree.moduleText?]
  rw [← h.tree]
  cases progress.tree.entries directory with
  | error fault => exact h.stop _
  | ok entries =>
    dsimp only
    cases moduleSource entries with
    | error fault => exact h.stop _
    | ok text =>
      have hnoted := Alike.events (unformatted reason)
        [.noted (.debug ("Generating mod file " ++ (options.moduleRoot directory).quoted)),
          .rendered text]
      have hwrites := hnoted.andThen (Alike.writeFile (options.moduleRoot directory) text)
      rw [followed_nil] at hwrites
      simp only [plain_format, warned_format hformatter]
      exact hwrites progress other h

theorem runModules_alike_warned (directories : List Path) :
    Alike (unformatted reason) (options.plain.rootsEvents directories)
      (options.plain.runModules · directories) (options.warned.runModules · directories) := by
  induction directories with
  | nil => exact Alike.stop none
  | cons directory rest ih =>
    rw [rootsEvents_cons]
    exact (runModule_alike_warned hformatter directory).andThen ih

theorem runAll_alike_warned (targets : List Target) :
    Alike (unformatted reason) (options.plain.allEvents targets) (options.plain.runAll · targets)
      (options.warned.runAll · targets) := by
  have hroots : Alike (unformatted reason)
      (fun classes => options.plain.rootsEvents (options.plain.rootDirectories classes) classes)
      (fun classes => options.plain.runModules classes (options.plain.rootDirectories classes))
      fun classes =>
        options.warned.runModules classes (options.warned.rootDirectories classes) := by
    intro classes other h
    have hdirectories :
        options.warned.rootDirectories other = options.plain.rootDirectories classes := by
      rw [rootDirectories, rootDirectories, h.written]
      rfl
    simp only [hdirectories]
    exact runModules_alike_warned hformatter _ classes other h
  have hreport : Alike (unformatted reason) (fun _ => [])
      (fun last => (last, if last.failed = 0 then none
        else some (.incomplete last.failed targets.length)))
      fun last => (last, if last.failed = 0 then none
        else some (.incomplete last.failed targets.length)) := by
    intro last other h
    dsimp only
    rw [h.failed]
    exact h.stop _
  have hall := (runTargets_alike_warned hformatter targets).andThen (hroots.andThen hreport)
  rw [followed_nil] at hall
  exact hall

end Alike

/-! ### Whole runs -/

/-- Both runs read the same input, and leave the records of the events. -/
theorem run_parallel {options : Options} {reason : String}
    (hformatter : options.formatter = .unstartable reason) (tree : FileTree) :
    Parallel (unformatted reason) (options.plain.events tree) [] [] (options.plain.run tree)
      (options.warned.run tree) := by
  have hread : options.warned.readInput tree = options.plain.readInput tree := rfl
  let start : Progress := { tree, log := [.debug "Reading input"] }
  unfold events run
  rw [hread]
  cases options.plain.readInput tree with
  | error failure => exact ⟨.refl start, rfl, rfl, rfl⟩
  | ok descriptor =>
    have hall := runAll_alike_warned hformatter descriptor.interfaces start start (.refl start)
    exact ⟨hall.sameFiles, hall.failure, hall.log_plain, hall.log_warned⟩

theorem renderedTexts_java (options : Options) (h : options.backend = .java) (tree : FileTree) :
    options.renderedTexts tree = [] := by
  have hclass : ∀ target, options.rustText? target = none := by
    intro target
    unfold rustText?
    cases target.forwarder options.suffix with
    | error fault => rfl
    | ok unit =>
      dsimp only
      rw [h]
      cases Backend.java.classPath options.outputDir unit.name <;> rfl
  have hroots : ∀ classes, options.rootDirectories classes = [] := by
    intro classes
    rw [rootDirectories, h]
  unfold renderedTexts
  split
  · rfl
  · simp only [hclass, hroots, reached, List.filterMap_none, List.nil_append, List.filterMap_nil]
    split <;> rfl

/-- **Wanting formatted texts changes nothing but the log**, where the formatter cannot be started.
The run ends in the same way and leaves
the same tree as the run that wants none, and its log is the log of that run with one warning in the
place of each Rust text that is rendered, and no other. -/
theorem run_warned {options : Options} {reason : String}
    (hformatter : options.formatter = .unstartable reason) (tree : FileTree) :
    let plain := options.plain.run tree
    let warned := options.warned.run tree
    let events := options.plain.events tree
    let texts := options.plain.renderedTexts tree
    warned.2 = plain.2 ∧ warned.1.tree = plain.1.tree ∧
      plain.1.log = events.flatMap (Event.records []) ∧
      warned.1.log = events.flatMap (Event.records [unformatted reason]) ∧
      events.filterMap Event.text? = texts ∧
      plain.1.log = warned.1.log.filter (·.level ≠ .warn) ∧
      warned.1.log.filter (·.level = .warn) = texts.map (fun _ => unformatted reason) ∧
      (options.backend = .java → texts = [] ∧ warned.1.log = plain.1.log) := by
  intro plain warned events texts
  have hruns : Parallel (unformatted reason) events [] [] plain warned :=
    run_parallel hformatter tree
  have hcalm : ∀ event ∈ events, event.IsCalm := options.plain.isCalm_events tree
  have htexts : events.filterMap Event.text? = texts := options.plain.texts_events tree
  have hplain : plain.1.log = events.flatMap (Event.records []) := hruns.log_plain
  have hwarned : warned.1.log = events.flatMap (Event.records [unformatted reason]) :=
    hruns.log_warned
  have hrest : plain.1.log = warned.1.log.filter (·.level ≠ .warn) := by
    rw [hplain, hwarned, Event.filter_records hcalm rfl]
  have hwarnings : warned.1.log.filter (·.level = .warn) =
      texts.map (fun _ => unformatted reason) := by
    rw [hwarned, Event.filter_records_warn hcalm rfl, htexts]
  refine ⟨hruns.failure.symm, hruns.sameFiles.tree.symm, hplain, hwarned, htexts, hrest, hwarnings,
    fun hjava => ?_⟩
  have hnone : texts = [] := options.plain.renderedTexts_java hjava tree
  rw [hnone, List.map_nil, List.filter_eq_nil_iff] at hwarnings
  refine ⟨hnone, ?_⟩
  rw [hrest, eq_comm, List.filter_eq_self]
  exact fun record hrecord => by simpa using hwarnings record hrecord

/-- The texts of a class and of two module roots, in its package and in the crate. -/
theorem run_warned_storeTree :
    crateOptions.formatter = .unstartable "No such file or directory (os error 2)" ∧
      (crateOptions.plain.renderedTexts storeTree).length = 3 ∧
      (crateOptions.warned.run storeTree).2 = none ∧
      (crateOptions.warned.run storeTree).1.tree = (crateOptions.run storeTree).1.tree ∧
      (crateOptions.warned.run storeTree).1.log.filter (·.level = .warn) =
        List.replicate 3 (unformatted "No such file or directory (os error 2)") := by
  have hread : crateOptions.plain.readInput storeTree = .ok ⟨[storeTarget]⟩ := readInput_storeTree
  have hlength : (crateOptions.plain.renderedTexts storeTree).length = 3 := by
    rw [renderedTexts, hread]
    decide +kernel
  have hplain : crateOptions.plain = crateOptions := rfl
  have hformatter : crateOptions.formatter =
      .unstartable "No such file or directory (os error 2)" := rfl
  obtain ⟨hend, htree, -, -, -, -, hwarnings, -⟩ := run_warned hformatter storeTree
  rw [hplain] at hend htree
  refine ⟨hformatter, hlength, hend.trans run_storeTree, htree, hwarnings.trans ?_⟩
  rw [List.map_const', hlength]

end Options

end Forwarding
