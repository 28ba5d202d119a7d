import Forwarding.Proofs.Generation
import Forwarding.Proofs.Run.Steps

/-!
# Runs that keep going

A run that keeps going leaves out the targets whose names are malformed, and does with the others
what it would do with them alone.

* `Progress.Appends`: a part of a run reads the file tree and adds to the rest of the progress;
* `Options.runTarget_appends`, `Options.runModules_appends`: a target and the module roots do;
* `Options.targetLogs`: the records of each target that a run comes to;
* `Options.runTargets_agrees`, `Options.targetLogs_filter`: the targets with malformed names change
  neither the files nor the records of the others;
* `Options.runOn_of_failure`, `Options.runOn_of_targets`: how a whole run goes beside the one without
  these targets;
* `Options.runOn_filter`: the same for whole runs.
-/

namespace Forwarding

/-- The interface's qualified name ends in its simple name. -/
def Target.isWellNamed (target : Target) : Bool := target.interface.className.isOk

theorem Target.isWellNamed_eq_false_iff {target : Target} :
    target.isWellNamed = false ↔ ∃ fault, target.interface.className = .error fault := by
  unfold isWellNamed
  cases target.interface.className <;> simp [Except.isOk, Except.toBool]

theorem Target.isWellNamed_iff {target : Target} {suffix : String} :
    target.isWellNamed = true ↔ ∃ unit, target.forwarder suffix = .ok unit := by
  unfold isWellNamed forwarder
  cases hforwarder : target.interface.forwarder target.delegate (target.className suffix) with
  | error fault =>
    rw [Interface.forwarder_eq_error_iff.1 hforwarder]
    simp [Except.isOk, Except.toBool]
  | ok unit =>
    cases hname : target.interface.className with
    | error fault => cases (Interface.forwarder_eq_error_iff.2 hname).symm.trans hforwarder
    | ok name => simp [Except.isOk, Except.toBool]

/-! ### Parts of a run -/

namespace Progress

/-- The progress after a part of the run that began with its tree and with no records. -/
def followedBy (progress part : Progress) : Progress where
  tree := part.tree
  log := progress.log ++ part.log
  written := progress.written ++ part.written
  failed := progress.failed + part.failed

theorem followedBy_assoc (progress part other : Progress) :
    (progress.followedBy part).followedBy other = progress.followedBy (part.followedBy other) := by
  simp [followedBy, Nat.add_assoc]

/-- A part of a run reads the tree alone, and adds records, files and counts. -/
def Appends (part : Progress → Progress × Option Failure) : Prop :=
  ∀ progress, part progress = (part { tree := progress.tree }).map progress.followedBy id

/-- What comes first may leave no time for what comes next. -/
theorem Appends.andThen {part next : Progress → Progress × Option Failure} (h : Appends part)
    (hnext : Appends next) :
    Appends fun progress =>
      match part progress with
      | (progress, some failure) => (progress, some failure)
      | (progress, none) => next progress := by
  intro progress
  simp only
  rw [h progress]
  obtain ⟨middle, failure⟩ := part { tree := progress.tree }
  cases failure with
  | some failure => rfl
  | none =>
    -- the second part begins with the tree that the first one left
    simp only [Prod.map, id]
    rw [hnext middle, hnext (progress.followedBy middle)]
    simp only [Prod.map, followedBy_assoc, id]
    rfl

theorem note_appends (records : List Record) :
    Appends fun progress => (progress.note records, none) := fun progress => by
  simp [followedBy, note]

theorem openFile_appends (path : Path) (text : String) :
    Appends fun progress => progress.openFile path text := fun progress => by
  dsimp only [openFile]
  split <;> simp [followedBy]

theorem writeFile_appends (path : Path) (text : String) :
    Appends fun progress => progress.writeFile path text := fun progress => by
  dsimp only [writeFile]
  split
  · exact openFile_appends path text progress
  · split
    · simp [followedBy]
    · rename_i made _
      exact openFile_appends path text { progress with tree := made }

end Progress

namespace Options

open Progress

variable {options : Options}

theorem runClass_appends (unit : Forwarder) :
    Appends fun progress => options.runClass progress unit := fun progress => by
  dsimp only [runClass]
  split
  · simp [followedBy]
  · split
    · simp [followedBy, note]
    · rename_i path _ _ log text _
      have hlast : Appends fun progress =>
          ({ progress.note
              [⟨.info, "Generated " ++ unit.name.qualified ++ " at " ++ path.quoted⟩] with
            written := progress.written ++ [path] }, none) := fun progress => by
        simp [followedBy, note]
      exact ((note_appends log).andThen ((writeFile_appends path text).andThen hlast)) progress

theorem runTarget_appends (target : Target) :
    Appends fun progress => options.runTarget progress target := fun progress => by
  dsimp only [runTarget]
  split
  · split_ifs <;> simp [followedBy, note]
  · rename_i unit _
    exact (note_appends _).andThen (runClass_appends unit) progress

theorem runTarget_eq (progress : Progress) (target : Target) :
    options.runTarget progress target =
      (options.runTarget { tree := progress.tree } target).map progress.followedBy id :=
  runTarget_appends target progress

theorem runModule_appends (directory : Path) :
    Appends fun progress => options.runModule progress directory := fun progress => by
  dsimp only [runModule]
  split
  · simp [followedBy]
  · split
    · simp [followedBy]
    · rename_i text _
      exact (note_appends _).andThen (writeFile_appends _ (options.format text).2) progress

theorem runModules_appends (directories : List Path) :
    Appends fun progress => options.runModules progress directories := by
  induction directories with
  | nil => exact fun progress => by simp [runModules, followedBy]
  | cons directory rest ih => exact (runModule_appends directory).andThen ih

theorem runModules_eq (progress : Progress) (directories : List Path) :
    options.runModules progress directories =
      (options.runModules { tree := progress.tree } directories).map progress.followedBy id :=
  runModules_appends directories progress

/-! ### The records of each target -/

/-- The targets that a run comes to, each with its records, up to the one that ends the run. -/
def targetLogs (options : Options) : FileTree → List Target → List (Target × List Record)
  | _, [] => []
  | tree, target :: rest =>
      match options.runTarget { tree } target with
      | (part, some _) => [(target, part.log)]
      | (part, none) => (target, part.log) :: options.targetLogs part.tree rest

theorem log_runTargets (progress : Progress) (targets : List Target) :
    (options.runTargets progress targets).1.log =
      progress.log ++ (options.targetLogs progress.tree targets).flatMap Prod.snd := by
  induction targets generalizing progress with
  | nil => simp [runTargets, targetLogs]
  | cons target rest ih =>
    rw [runTargets, targetLogs, runTarget_eq]
    obtain ⟨part, failure⟩ := options.runTarget { tree := progress.tree } target
    cases failure with
    | some failure => simp [followedBy]
    | none => simp [ih, followedBy]

/-! ### Leaving out targets with malformed names -/

section KeepGoing

variable (hkeep : options.keepGoing = true)
include hkeep

/-- A target with a malformed name leaves one record and is counted. -/
theorem runTarget_malformed {target : Target} {fault : MalformedName}
    (h : target.interface.className = .error fault) (progress : Progress) :
    options.runTarget progress target =
      ({ progress.note [⟨.error, "Skipping " ++ target.interface.qualifiedName ++ ": " ++
          fault.message⟩] with failed := progress.failed + 1 }, none) := by
  have hforwarder : target.forwarder options.suffix = .error fault :=
    Interface.forwarder_eq_error_iff.2 h
  rw [runTarget, hforwarder]
  exact if_pos hkeep

theorem log_of_mem_targetLogs {tree : FileTree} {targets : List Target} {target : Target}
    {records : List Record} (hmem : (target, records) ∈ options.targetLogs tree targets)
    {fault : MalformedName} (h : target.interface.className = .error fault) :
    records = [⟨.error, "Skipping " ++ target.interface.qualifiedName ++ ": " ++
      fault.message⟩] := by
  induction targets generalizing tree with
  | nil => cases hmem
  | cons other rest ih =>
    rw [targetLogs] at hmem
    have hself : ∀ {part : Progress} {failure : Option Failure},
        options.runTarget { tree } other = (part, failure) → (target, records) = (other, part.log) →
          records = [⟨.error, "Skipping " ++ target.interface.qualifiedName ++ ": " ++
            fault.message⟩] := by
      intro part failure hpart hsame
      obtain ⟨rfl, rfl⟩ := Prod.mk.inj hsame
      rw [runTarget_malformed hkeep h] at hpart
      rw [← (Prod.mk.inj hpart).1]
      rfl
    split at hmem
    · rename_i part failure hpart
      exact hself hpart (List.mem_singleton.1 hmem)
    · rename_i part hpart
      rcases List.mem_cons.1 hmem with hsame | hmem
      · exact hself hpart hsame
      · exact ih hmem

/-- Either the run comes to all targets, or it ends at one with a good name. -/
theorem exists_unprocessed (progress : Progress) (targets : List Target) :
    ∃ unprocessed,
      targets = (options.targetLogs progress.tree targets).map Prod.fst ++ unprocessed ∧
      (unprocessed = [] ∨
        (∃ failure, (options.runTargets progress targets).2 = some failure) ∧
          ∃ last, (options.targetLogs progress.tree targets).getLast? = some last ∧
            last.1.isWellNamed = true) := by
  induction targets generalizing progress with
  | nil => exact ⟨[], rfl, Or.inl rfl⟩
  | cons target rest ih =>
    rw [runTargets, targetLogs, runTarget_eq progress target]
    cases hpart : options.runTarget { tree := progress.tree } target with
    | mk part failure =>
      cases failure with
      | some failure =>
        refine ⟨rest, rfl, Or.inr ⟨⟨failure, rfl⟩, (target, part.log), rfl, ?_⟩⟩
        by_contra hname
        obtain ⟨fault, hfault⟩ := Target.isWellNamed_eq_false_iff.1 (Bool.not_eq_true _ ▸ hname)
        rw [runTarget_malformed hkeep hfault] at hpart
        cases (Prod.mk.inj hpart).2
      | none =>
        obtain ⟨unprocessed, hrest, hend⟩ := ih (progress.followedBy part)
        refine ⟨unprocessed, congrArg (target :: ·) hrest, hend.imp_right ?_⟩
        rintro ⟨hfailure, last, hlast, hname⟩
        refine ⟨hfailure, last, ?_, hname⟩
        exact List.mem_getLast?_cons hlast

/-- The records of the other targets stay as they are. -/
theorem targetLogs_filter (tree : FileTree) (targets : List Target) :
    options.targetLogs tree (targets.filter Target.isWellNamed) =
      (options.targetLogs tree targets).filter fun entry => entry.1.isWellNamed := by
  induction targets generalizing tree with
  | nil => rfl
  | cons target rest ih =>
    cases hname : target.isWellNamed with
    | false =>
      obtain ⟨fault, hfault⟩ := Target.isWellNamed_eq_false_iff.1 hname
      rw [List.filter_cons_of_neg (by simp [hname]), ih, targetLogs,
        runTarget_malformed hkeep hfault]
      exact (List.filter_cons_of_neg (by simp [hname])).symm
    | true =>
      rw [List.filter_cons_of_pos hname, targetLogs, targetLogs]
      split
      · simp [hname]
      · simp [hname, ih]

/-- The other targets do the same to the files, and end in the same way. -/
theorem runTargets_agrees {whole kept : Progress} (htree : whole.tree = kept.tree)
    (hwritten : whole.written = kept.written) (targets : List Target) :
    let last := options.runTargets whole targets
    let lastKept := options.runTargets kept (targets.filter Target.isWellNamed)
    last.1.tree = lastKept.1.tree ∧ last.1.written = lastKept.1.written ∧
      last.2 = lastKept.2 := by
  induction targets generalizing whole kept with
  | nil => exact ⟨htree, hwritten, rfl⟩
  | cons target rest ih =>
    cases hname : target.isWellNamed with
    | false =>
      obtain ⟨fault, hfault⟩ := Target.isWellNamed_eq_false_iff.1 hname
      rw [List.filter_cons_of_neg (by simp [hname]), runTargets, runTarget_malformed hkeep hfault]
      exact ih htree hwritten
    | true =>
      rw [List.filter_cons_of_pos hname, runTargets, runTargets, runTarget_eq whole,
        runTarget_eq kept, htree]
      obtain ⟨part, failure⟩ := options.runTarget { tree := kept.tree } target
      have hfiles : (whole.followedBy part).written = (kept.followedBy part).written :=
        congrArg (· ++ part.written) hwritten
      cases failure with
      | some failure => exact ⟨rfl, hfiles, rfl⟩
      | none => exact ih rfl hfiles

end KeepGoing

/-- Each target with a malformed name is counted. -/
theorem failed_runTargets {progress last : Progress} {targets : List Target}
    (h : options.runTargets progress targets = (last, none)) :
    last.failed + (targets.filter Target.isWellNamed).length =
      progress.failed + targets.length := by
  induction targets generalizing progress with
  | nil =>
    obtain rfl := (Prod.mk.inj h).1
    rfl
  | cons target rest ih =>
    obtain ⟨next, hstep, hrest⟩ := runTargets_cons_eq_none.1 h
    have hlast := ih hrest
    rcases runTarget_eq_none hstep with ⟨⟨fault, hfault⟩, -, -, -, hfailed⟩ |
      ⟨unit, path, text, hmakes, -, hfailed, -⟩
    · have hname : target.isWellNamed = false :=
        Target.isWellNamed_eq_false_iff.2 ⟨fault, Interface.forwarder_eq_error_iff.1 hfault⟩
      rw [List.filter_cons_of_neg (by simp [hname]), List.length_cons]
      omega
    · have hname : target.isWellNamed = true := Target.isWellNamed_iff.2 ⟨unit, hmakes.forwarder⟩
      rw [List.filter_cons_of_pos hname, List.length_cons, List.length_cons]
      omega

/-! ### Whole runs -/

/-- The run on a tree whose input holds the targets. -/
def runOn (options : Options) (tree : FileTree) (targets : List Target) :
    Progress × Option Failure :=
  options.runAll { tree, log := [.debug "Reading input"] } targets

theorem runTarget_inputFile (file : Path) (progress : Progress) (target : Target) :
    { options with inputFile := file }.runTarget progress target =
      options.runTarget progress target := by
  simp only [runTarget, runClass, render, format]

theorem runTargets_inputFile (file : Path) (progress : Progress) (targets : List Target) :
    { options with inputFile := file }.runTargets progress targets =
      options.runTargets progress targets := by
  induction targets generalizing progress with
  | nil => rfl
  | cons target rest ih => simp only [runTargets, runTarget_inputFile, ih]

theorem runModules_inputFile (file : Path) (progress : Progress) (directories : List Path) :
    { options with inputFile := file }.runModules progress directories =
      options.runModules progress directories := by
  induction directories generalizing progress with
  | nil => rfl
  | cons directory rest ih => simp only [runModules, runModule, moduleRoot, format, ih]

/-- Whichever file the targets are read from, the run is the run on these targets. -/
theorem run_eq_runOn {file : Path} {tree : FileTree} {descriptor : Descriptor}
    (h : { options with inputFile := file }.readInput tree = .ok descriptor) :
    { options with inputFile := file }.run tree = options.runOn tree descriptor.interfaces := by
  rw [run_eq_runAll h, runOn]
  simp only [runAll, runTargets_inputFile, runModules_inputFile]

theorem runAll_of_failure {progress last : Progress} {targets : List Target} {failure : Failure}
    (h : options.runTargets progress targets = (last, some failure)) :
    options.runAll progress targets = (last, some failure) := by
  rw [runAll, h]

/-- The module roots come after the classes, and the number of skipped targets at the end. -/
theorem runAll_of_targets {progress last part : Progress} {targets : List Target}
    {failure : Option Failure} (h : options.runTargets progress targets = (last, none))
    (hpart : options.runModules { tree := last.tree } (options.rootDirectories last) =
      (part, failure)) :
    options.runAll progress targets = (last.followedBy part,
      failure <|> if last.failed = 0 then none
        else some (.incomplete last.failed targets.length)) := by
  have hmodules : options.runModules last (options.rootDirectories last) =
      (last.followedBy part, failure) := by
    rw [runModules_eq, hpart]
    rfl
  rw [runAll_eq h, hmodules]
  cases failure with
  | some failure => rfl
  | none =>
    have hfailed : (last.followedBy part).failed = last.failed := by
      simp [followedBy, (runModules_runsModules hpart).failed]
    simp [hfailed]

/-- What a run with skipped targets reports at its end. -/
theorem report_eq {progress last : Progress} {targets : List Target} (h : progress.failed = 0)
    (hlast : options.runTargets progress targets = (last, none)) :
    (if last.failed = 0 then none else some (Failure.incomplete last.failed targets.length)) =
      if targets.filter Target.isWellNamed = targets then none
      else some (.incomplete (targets.length - (targets.filter Target.isWellNamed).length)
        targets.length) := by
  have hcount := failed_runTargets hlast
  rw [h, Nat.zero_add] at hcount
  have hall : targets.filter Target.isWellNamed = targets ↔ last.failed = 0 := by
    rw [List.filter_eq_self, ← List.length_filter_eq_length_iff]
    omega
  have hskipped : targets.length - (targets.filter Target.isWellNamed).length = last.failed := by
    omega
  simp only [hall, hskipped]

/-- Both runs end at the same class, and then no module root is written. -/
theorem runOn_of_failure (hkeep : options.keepGoing = true) {tree : FileTree}
    {targets : List Target} {last : Progress} {failure : Failure}
    (h : options.runTargets { tree, log := [.debug "Reading input"] } targets =
      (last, some failure)) :
    failure.Interrupts ∧ options.runOn tree targets = (last, some failure) ∧
      ∃ lastKept,
        options.runTargets { tree, log := [.debug "Reading input"] }
          (targets.filter Target.isWellNamed) = (lastKept, some failure) ∧
        options.runOn tree (targets.filter Target.isWellNamed) = (lastKept, some failure) ∧
        last.tree = lastKept.tree := by
  let start : Progress := { tree, log := [.debug "Reading input"] }
  obtain ⟨htree, -, hfailure⟩ :=
    runTargets_agrees hkeep (rfl : start.tree = start.tree) rfl targets
  rcases hlastKept : options.runTargets start (targets.filter Target.isWellNamed) with
    ⟨lastKept, failureKept⟩
  rw [h, hlastKept] at htree hfailure
  obtain rfl : some failure = failureKept := hfailure
  exact ⟨(runTargets_interrupts h).resolve_right fun h => by simp [hkeep] at h,
    runAll_of_failure h, lastKept, rfl, runAll_of_failure hlastKept, htree⟩

/-- Both runs come to the same module roots in the same tree, and only the run that keeps going has
left out targets to report. -/
theorem runOn_of_targets (hkeep : options.keepGoing = true) {tree : FileTree}
    {targets : List Target} {last : Progress}
    (h : options.runTargets { tree, log := [.debug "Reading input"] } targets = (last, none)) :
    let wellNamed := targets.filter Target.isWellNamed
    ∃ lastKept part failure,
      options.runTargets { tree, log := [.debug "Reading input"] } wellNamed = (lastKept, none) ∧
      (∀ fault, failure = some fault → fault.Interrupts) ∧
      options.runOn tree targets = (last.followedBy part, failure <|>
        if wellNamed = targets then none
        else some (.incomplete (targets.length - wellNamed.length) targets.length)) ∧
      options.runOn tree wellNamed = (lastKept.followedBy part, failure) := by
  intro wellNamed
  let start : Progress := { tree, log := [.debug "Reading input"] }
  obtain ⟨htree, hwritten, hfailure⟩ :=
    runTargets_agrees hkeep (rfl : start.tree = start.tree) rfl targets
  rcases hlastKept : options.runTargets start wellNamed with ⟨lastKept, failureKept⟩
  rw [h, hlastKept] at htree hwritten hfailure
  obtain rfl : none = failureKept := hfailure
  rcases hpart : options.runModules { tree := last.tree } (options.rootDirectories last) with
    ⟨part, failure⟩
  have hdirectories : options.rootDirectories lastKept = options.rootDirectories last := by
    rw [rootDirectories, rootDirectories, show lastKept.written = last.written from hwritten.symm]
  have hpartKept : options.runModules { tree := lastKept.tree }
      (options.rootDirectories lastKept) = (part, failure) := by
    rw [hdirectories, show lastKept.tree = last.tree from htree.symm, hpart]
  refine ⟨lastKept, part, failure, rfl, ?_, ?_, ?_⟩
  · rintro fault rfl
    exact runModules_interrupts hpart
  · rw [← report_eq rfl h]
    exact runAll_of_targets h hpart
  · have hall : wellNamed.filter Target.isWellNamed = wellNamed := by simp [wellNamed]
    have hreport := report_eq rfl hlastKept
    rw [if_pos hall] at hreport
    rw [runOn, runAll_of_targets hlastKept hpartKept, hreport]
    cases failure <;> rfl

/-- Keeping going is the same as leaving out the targets with malformed names: it leaves the same
files, ends at the same failure or else reports how many were left out, and adds one record for each
of them at its place. -/
theorem runOn_filter {options : Options} (hkeep : options.keepGoing = true) (tree : FileTree)
    (targets : List Target) :
    let wellNamed := targets.filter Target.isWellNamed
    let whole := options.runOn tree targets
    let kept := options.runOn tree wellNamed
    let logs := options.targetLogs tree targets
    (∀ file list, { options with inputFile := file }.readInput tree = .ok ⟨list⟩ →
        { options with inputFile := file }.run tree = options.runOn tree list) ∧
      whole.1.tree = kept.1.tree ∧
      ((∃ failure, failure.Interrupts ∧ kept.2 = some failure ∧ whole.2 = some failure) ∨
        kept.2 = none ∧ whole.2 =
          if wellNamed = targets then none
          else some (.incomplete (targets.length - wellNamed.length) targets.length)) ∧
      (∃ rest,
        whole.1.log = [.debug "Reading input"] ++ logs.flatMap Prod.snd ++ rest ∧
        kept.1.log = [.debug "Reading input"] ++
          (logs.filter fun entry => entry.1.isWellNamed).flatMap Prod.snd ++ rest) ∧
      (∀ target records, (target, records) ∈ logs →
        ∀ fault, target.interface.className = .error fault →
          records = [⟨.error, "Skipping " ++ target.interface.qualifiedName ++ ": " ++
            fault.message⟩]) ∧
      ∃ unprocessed, targets = logs.map Prod.fst ++ unprocessed ∧
        (unprocessed = [] ∨ kept.2 ≠ none ∧
          ∃ last, logs.getLast? = some last ∧ last.1.isWellNamed = true) := by
  intro wellNamed whole kept logs
  have hlog := options.log_runTargets { tree, log := [.debug "Reading input"] } targets
  have hlogKept := options.log_runTargets { tree, log := [.debug "Reading input"] } wellNamed
  rw [targetLogs_filter hkeep] at hlogKept
  obtain ⟨unprocessed, hprocessed, hend⟩ :=
    exists_unprocessed hkeep { tree, log := [.debug "Reading input"] } targets
  refine ⟨fun _ _ => run_eq_runOn, ?_⟩
  rcases hlast : options.runTargets { tree, log := [.debug "Reading input"] } targets with
    ⟨last, _ | failure⟩
  · obtain ⟨lastKept, part, failure, hlastKept, hinterrupts, hwhole, hkept⟩ :=
      runOn_of_targets hkeep hlast
    rw [hlast] at hlog hend
    rw [hlastKept] at hlogKept
    have hall : unprocessed = [] := hend.resolve_right fun ⟨⟨_, h⟩, _⟩ => by cases h
    rw [show whole = _ from hwhole, show kept = _ from hkept]
    refine ⟨rfl, ?_, ⟨part.log, congrArg (· ++ part.log) hlog, congrArg (· ++ part.log) hlogKept⟩,
      fun _ _ hmem _ => log_of_mem_targetLogs hkeep hmem, unprocessed, hprocessed, Or.inl hall⟩
    cases failure with
    | none => exact Or.inr ⟨rfl, rfl⟩
    | some failure => exact Or.inl ⟨failure, hinterrupts failure rfl, rfl, rfl⟩
  · obtain ⟨hinterrupts, hwhole, lastKept, hlastKept, hkept, htree⟩ := runOn_of_failure hkeep hlast
    rw [hlast] at hlog hend
    rw [hlastKept] at hlogKept
    rw [show whole = _ from hwhole, show kept = _ from hkept]
    refine ⟨htree, Or.inl ⟨failure, hinterrupts, rfl, rfl⟩, ⟨[], ?_, ?_⟩,
      fun _ _ hmem _ => log_of_mem_targetLogs hkeep hmem, unprocessed, hprocessed,
      hend.imp_right fun h => ⟨by simp, h.2⟩⟩
    · rw [List.append_nil]
      exact hlog
    · rw [List.append_nil]
      exact hlogKept

/-- A run into the directory `out`. -/
def keepingOptions : Options :=
  { inputFile := ⟨["in"]⟩, outputDir := ⟨["out"]⟩, keepGoing := true }

/-- The target for an interface without methods. -/
def emptyTarget (qualifiedName simpleName : String) : Target :=
  { interface := ⟨qualifiedName, simpleName, []⟩, delegate := ⟨"com", "Default", "delegate"⟩ }

theorem runOn_filter_greeter :
    let targets := [emptyTarget "com.Greeter" "Greeter", emptyTarget "com.Greeting" "Broken",
      emptyTarget "com.Store" "Store"]
    let kept := [emptyTarget "com.Greeter" "Greeter", emptyTarget "com.Store" "Store"]
    keepingOptions.keepGoing = true ∧
      (keepingOptions.runOn .empty targets).1.tree = (keepingOptions.runOn .empty kept).1.tree ∧
      (keepingOptions.runOn .empty kept).2 = none ∧
      (keepingOptions.runOn .empty targets).2 = some (.incomplete 1 3) := by
  intro targets kept
  have hkeep : keepingOptions.keepGoing = true := rfl
  obtain ⟨-, htree, hend, -⟩ := runOn_filter hkeep .empty targets
  have hkept : targets.filter Target.isWellNamed = kept := by decide
  rw [hkept] at htree hend
  have hok : (keepingOptions.runOn .empty kept).2.isNone = true := by decide +kernel
  rcases hend with ⟨failure, -, hfailure, -⟩ | ⟨hnone, hreport⟩
  · rw [hfailure] at hok
    cases hok
  · rw [if_neg (by decide)] at hreport
    exact ⟨hkeep, htree, hnone, hreport⟩

end Options

end Forwarding
