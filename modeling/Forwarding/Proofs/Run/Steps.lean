import Forwarding.Proofs.Backend
import Forwarding.Proofs.FileTree.Listing
import Forwarding.Run

/-!
# Steps of a run

What each step of a run does to the file tree and to the records of progress.

* `Failure.Interrupts`: a failure at a file or a name, which ends the run where it stands;
* `Progress.writeFile_writes`: writing a file, whether it succeeds or not;
* `Options.Makes`: the file and the text that a run makes of a target;
* `Options.runTarget_eq_none`, `Options.runTargets_runsTargets`: a target, and all of them;
* `Options.runModule_eq_none`, `Options.runModules_runsModules`: a module root, and all of them;
* `Options.run_ends`: a run that comes to its end has gone through all of both.
-/

namespace Forwarding

open FileTree

/-- The run ends where it stands, for a file or a name. -/
def Failure.Interrupts : Failure → Prop
  | .name _ | .makeDirectory .. | .openOutput .. | .list _ => True
  | .openInput .. | .readInput _ | .input _ | .malformed _ | .incomplete .. => False

/-! ### Writing a file -/

namespace Progress

variable {progress : Progress} {path : Path} {text : String}

/-- What writing a file comes to: directories are made on the way to it, and success means that the
path leads to a file with the text. -/
structure Writes (progress : Progress) (path : Path) (text : String)
    (result : Progress × Option Failure) : Prop where
  log : result.1.log = progress.log
  written : result.1.written = progress.written
  failed : result.1.failed = progress.failed
  grows : Grows (OnWay progress.tree.workDir path.components.dropLast)
    (· = path.location progress.tree.workDir) progress.tree result.1.tree
  interrupts : ∀ failure, result.2 = some failure → failure.Interrupts
  walk : result.2 = none →
    result.1.tree.walk path = .ok (path.location progress.tree.workDir)
  look : result.2 = none →
    result.1.tree.look (path.location progress.tree.workDir) = some (.file text)

theorem openFile_writes (progress : Progress) (path : Path) (text : String) :
    progress.Writes path text (progress.openFile path text) := by
  unfold openFile
  split
  · rename_i tree hwrite
    obtain ⟨hgrows, hwalk, hlook⟩ := write_eq_ok hwrite
    exact
      { log := rfl
        written := rfl
        failed := rfl
        grows := hgrows
        interrupts := fun _ h => by cases h
        walk := fun _ => hwalk
        look := fun _ => hlook }
  · exact
      { log := rfl
        written := rfl
        failed := rfl
        grows := .refl _ _ _
        interrupts := fun _ h => by
          obtain rfl := Option.some.inj h
          trivial
        walk := fun h => by cases h
        look := fun h => by cases h }

theorem writeFile_writes (progress : Progress) (path : Path) (text : String) :
    progress.Writes path text (progress.writeFile path text) := by
  unfold writeFile
  split
  · exact openFile_writes progress path text
  · rename_i parent hparent
    obtain ⟨last, hsteps⟩ := Path.components_of_parent? hparent
    have hmade : Grows (OnWay progress.tree.workDir parent.components)
        (· = path.location progress.tree.workDir) progress.tree
        (progress.tree.makeDirs parent).1 := (makeDirs_makesDirs progress.tree parent).grows
    -- the directories that are made are those on the way to the file
    have hway : path.components.dropLast = parent.components := by
      rw [hsteps, List.dropLast_concat]
    rw [← hway] at hmade
    split
    · rename_i tree fault hresult
      rw [hresult] at hmade
      exact
        { log := rfl
          written := rfl
          failed := rfl
          grows := hmade
          interrupts := fun _ h => by
            obtain rfl := Option.some.inj h
            trivial
          walk := fun h => by cases h
          look := fun h => by cases h }
    · rename_i tree hresult
      rw [hresult] at hmade
      have hopened := openFile_writes { progress with tree } path text
      have hworkDir : tree.workDir = progress.tree.workDir := hmade.workDir
      exact
        { log := hopened.log
          written := hopened.written
          failed := hopened.failed
          grows := hmade.trans (hworkDir ▸ hopened.grows)
          interrupts := hopened.interrupts
          walk := hworkDir ▸ hopened.walk
          look := hworkDir ▸ hopened.look }

end Progress

namespace Options

variable {options : Options}

/-! ### Classes -/

/-- The run makes the class `unit` of the target and gives its file the text. -/
structure Makes (options : Options) (target : Target) (unit : Forwarder) (path : Path)
    (text : String) : Prop where
  forwarder : target.forwarder options.suffix = .ok unit
  classPath : options.backend.classPath options.outputDir unit.name = .ok path
  render : (options.render unit).2 = .ok text

/-- A target has one class, one file and one text. -/
theorem Makes.unique {target : Target} {unit other : Forwarder} {path otherPath : Path}
    {text otherText : String} (h : options.Makes target unit path text)
    (h' : options.Makes target other otherPath otherText) :
    other = unit ∧ otherPath = path ∧ otherText = text := by
  obtain rfl := Except.ok.inj (h.forwarder.symm.trans h'.forwarder)
  exact ⟨rfl, Except.ok.inj (h'.classPath.symm.trans h.classPath),
    Except.ok.inj (h'.render.symm.trans h.render)⟩

/-- What a class that was written comes to. -/
theorem runClass_eq_none {progress next : Progress} {unit : Forwarder}
    (h : options.runClass progress unit = (next, none)) :
    ∃ path text, options.backend.classPath options.outputDir unit.name = .ok path ∧
      (options.render unit).2 = .ok text ∧
      next.written = progress.written ++ [path] ∧ next.failed = progress.failed ∧
      Grows (OnWay progress.tree.workDir path.components.dropLast)
        (· = path.location progress.tree.workDir) progress.tree next.tree ∧
      next.tree.walk path = .ok (path.location progress.tree.workDir) ∧
      next.tree.look (path.location progress.tree.workDir) = some (.file text) := by
  unfold runClass at h
  split at h
  · cases h
  · rename_i path hpath
    split at h
    · cases h
    · rename_i log text hrender
      have hwrites := (progress.note log).writeFile_writes path text
      split at h
      · cases h
      · rename_i made hwrite
        rw [hwrite] at hwrites
        obtain rfl := (Prod.mk.inj h).1
        exact ⟨path, text, hpath, by rw [hrender], congrArg (· ++ [path]) hwrites.written,
          hwrites.failed, hwrites.grows, hwrites.walk rfl, hwrites.look rfl⟩

theorem runClass_interrupts {progress next : Progress} {unit : Forwarder} {failure : Failure}
    (h : options.runClass progress unit = (next, some failure)) : failure.Interrupts := by
  unfold runClass at h
  split at h
  · obtain rfl := Option.some.inj (Prod.mk.inj h).2
    trivial
  · split at h
    · obtain rfl := Option.some.inj (Prod.mk.inj h).2
      trivial
    · rename_i path _ _ log text _
      have hwrites := (progress.note log).writeFile_writes path text
      split at h
      · rename_i hwrite
        rw [hwrite] at hwrites
        exact hwrites.interrupts _ (Prod.mk.inj h).2
      · cases h

/-! ### Targets -/

/-- The locations that the classes of the targets can add directories at. -/
def ClassDirectory (options : Options) (workDir : Location) (targets : List Target)
    (location : Location) : Prop :=
  ∃ target ∈ targets, ∃ unit path text, options.Makes target unit path text ∧
    OnWay workDir path.components.dropLast location

/-- The locations of the classes of the targets. -/
def ClassFile (options : Options) (workDir : Location) (targets : List Target)
    (location : Location) : Prop :=
  ∃ target ∈ targets, ∃ unit path text, options.Makes target unit path text ∧
    location = path.location workDir

theorem ClassDirectory.mono {workDir location : Location} {targets more : List Target}
    (h : options.ClassDirectory workDir targets location) (hmore : targets ⊆ more) :
    options.ClassDirectory workDir more location := by
  obtain ⟨target, htarget, hmakes⟩ := h
  exact ⟨target, hmore htarget, hmakes⟩

theorem ClassFile.mono {workDir location : Location} {targets more : List Target}
    (h : options.ClassFile workDir targets location) (hmore : targets ⊆ more) :
    options.ClassFile workDir more location := by
  obtain ⟨target, htarget, hmakes⟩ := h
  exact ⟨target, hmore htarget, hmakes⟩

/-- A target that does not end the run is skipped for its name, or its class is written. -/
theorem runTarget_eq_none {progress next : Progress} {target : Target}
    (h : options.runTarget progress target = (next, none)) :
    ((∃ fault, target.forwarder options.suffix = .error fault) ∧ options.keepGoing = true ∧
        next.tree = progress.tree ∧ next.written = progress.written ∧
        next.failed = progress.failed + 1) ∨
      ∃ unit path text, options.Makes target unit path text ∧
        next.written = progress.written ++ [path] ∧ next.failed = progress.failed ∧
        Grows (OnWay progress.tree.workDir path.components.dropLast)
          (· = path.location progress.tree.workDir) progress.tree next.tree ∧
        next.tree.walk path = .ok (path.location progress.tree.workDir) ∧
        next.tree.look (path.location progress.tree.workDir) = some (.file text) := by
  unfold runTarget at h
  split at h
  · rename_i fault hunit
    split_ifs at h with hkeep
    · obtain rfl := (Prod.mk.inj h).1
      exact Or.inl ⟨⟨fault, hunit⟩, hkeep, rfl, rfl, rfl⟩
    · cases h
  · rename_i unit hunit
    obtain ⟨path, text, hpath, htext, hrest⟩ := runClass_eq_none h
    exact Or.inr ⟨unit, path, text, ⟨hunit, hpath, htext⟩, hrest⟩

theorem runTarget_interrupts {progress next : Progress} {target : Target} {failure : Failure}
    (h : options.runTarget progress target = (next, some failure)) :
    failure.Interrupts ∨ options.keepGoing = false ∧
      ∃ fault, target.forwarder options.suffix = .error fault ∧ failure = .malformed fault := by
  unfold runTarget at h
  split at h
  · rename_i fault hunit
    split_ifs at h with hkeep
    · cases h
    · exact Or.inr ⟨by simpa using hkeep, fault, hunit, (Option.some.inj (Prod.mk.inj h).2).symm⟩
  · exact Or.inl (runClass_interrupts h)

/-- Whatever a target comes to, all that changes are its own file and the directories on the way to
it. -/
theorem runTarget_grows (options : Options) (progress : Progress) (target : Target) :
    Grows (options.ClassDirectory progress.tree.workDir [target])
      (options.ClassFile progress.tree.workDir [target]) progress.tree
      (options.runTarget progress target).1.tree := by
  unfold runTarget
  split
  · split_ifs <;> exact .refl _ _ _
  · rename_i unit hunit
    unfold runClass
    split
    · exact .refl _ _ _
    · rename_i path hpath
      split
      · exact .refl _ _ _
      · rename_i log text hrender
        have hmakes : options.Makes target unit path text := ⟨hunit, hpath, by rw [hrender]⟩
        have hwrites := ((progress.note (target.generationLog options.suffix)).note
          log).writeFile_writes path text
        have hgrows : Grows (options.ClassDirectory progress.tree.workDir [target])
            (options.ClassFile progress.tree.workDir [target]) progress.tree
            (((progress.note (target.generationLog options.suffix)).note log).writeFile path
              text).1.tree :=
          hwrites.grows.mono
            (fun location h => ⟨target, List.mem_cons_self, unit, path, text, hmakes, h⟩)
            fun location h => ⟨target, List.mem_cons_self, unit, path, text, hmakes, h⟩
        split
        · rename_i hwrite
          rw [hwrite] at hgrows
          exact hgrows
        · rename_i hwrite
          rw [hwrite] at hgrows
          exact hgrows

/-- The same for all targets. -/
theorem runTargets_grows (options : Options) (progress : Progress) (targets : List Target) :
    Grows (options.ClassDirectory progress.tree.workDir targets)
      (options.ClassFile progress.tree.workDir targets) progress.tree
      (options.runTargets progress targets).1.tree := by
  induction targets generalizing progress with
  | nil => exact .refl _ _ _
  | cons target rest ih =>
    have hfirst := (options.runTarget_grows progress target).mono
      (fun _ h => h.mono (List.cons_subset_cons target (List.nil_subset rest)))
      fun _ h => h.mono (List.cons_subset_cons target (List.nil_subset rest))
    rw [runTargets]
    split
    · rename_i next failure hstep
      rw [hstep] at hfirst
      exact hfirst
    · rename_i next hstep
      rw [hstep] at hfirst
      have hrest := ih next
      rw [hfirst.workDir] at hrest
      exact hfirst.trans (hrest.mono (fun _ h => h.mono (List.subset_cons_self target rest))
        fun _ h => h.mono (List.subset_cons_self target rest))

theorem runTargets_cons_eq_none {progress last : Progress} {target : Target} {rest : List Target} :
    options.runTargets progress (target :: rest) = (last, none) ↔
      ∃ next, options.runTarget progress target = (next, none) ∧
        options.runTargets next rest = (last, none) := by
  rw [runTargets]
  split
  · rename_i next failure hstep
    simp [hstep]
  · rename_i next hstep
    simp [hstep]

/-- The targets that come later begin where the first ones end, unless these end the run. -/
theorem runTargets_append (options : Options) (progress : Progress) (front rest : List Target) :
    options.runTargets progress (front ++ rest) =
      match options.runTargets progress front with
      | (next, some failure) => (next, some failure)
      | (next, none) => options.runTargets next rest := by
  induction front generalizing progress with
  | nil => rfl
  | cons target front ih =>
    rw [List.cons_append, runTargets, runTargets]
    rcases options.runTarget progress target with ⟨next, _ | failure⟩
    · exact ih next
    · rfl

theorem runTargets_append_eq_none {progress last : Progress} {front rest : List Target} :
    options.runTargets progress (front ++ rest) = (last, none) ↔
      ∃ next, options.runTargets progress front = (next, none) ∧
        options.runTargets next rest = (last, none) := by
  rw [runTargets_append]
  rcases options.runTargets progress front with ⟨next, _ | failure⟩ <;> simp

theorem runTargets_interrupts {progress last : Progress} {targets : List Target} {failure : Failure}
    (h : options.runTargets progress targets = (last, some failure)) :
    failure.Interrupts ∨ options.keepGoing = false ∧ ∃ fault, failure = .malformed fault := by
  induction targets generalizing progress with
  | nil => cases h
  | cons target rest ih =>
    rw [runTargets] at h
    split at h
    · rename_i next other hstep
      obtain rfl := Option.some.inj (Prod.mk.inj h).2
      rcases runTarget_interrupts hstep with hinterrupts | ⟨hkeep, fault, -, rfl⟩
      · exact Or.inl hinterrupts
      · exact Or.inr ⟨hkeep, fault, rfl⟩
    · exact ih h

/-- What all targets come to when none ends the run. -/
structure RunsTargets (options : Options) (progress : Progress) (targets : List Target)
    (last : Progress) : Prop where
  grows : Grows (options.ClassDirectory progress.tree.workDir targets)
    (options.ClassFile progress.tree.workDir targets) progress.tree last.tree
  mem_written : ∀ path, path ∈ last.written ↔ path ∈ progress.written ∨
    ∃ target ∈ targets, ∃ unit text, options.Makes target unit path text
  made : ∀ target ∈ targets, ∀ unit, target.forwarder options.suffix = .ok unit →
    ∃ path text, options.Makes target unit path text ∧
      last.tree.walk path = .ok (path.location progress.tree.workDir) ∧
      ∃ text, last.tree.look (path.location progress.tree.workDir) = some (.file text)
  failed_le : progress.failed ≤ last.failed
  failed_eq : last.failed = progress.failed →
    ∀ target ∈ targets, ∃ unit, target.forwarder options.suffix = .ok unit

theorem runTargets_runsTargets {progress last : Progress} {targets : List Target}
    (h : options.runTargets progress targets = (last, none)) :
    options.RunsTargets progress targets last := by
  induction targets generalizing progress with
  | nil =>
    obtain rfl := (Prod.mk.inj h).1
    exact
      { grows := .refl _ _ _
        mem_written := by simp
        made := List.forall_mem_nil _
        failed_le := Nat.le_refl _
        failed_eq := fun _ => List.forall_mem_nil _ }
  | cons target rest ih =>
    obtain ⟨next, hstep, hrest⟩ := runTargets_cons_eq_none.1 h
    have hlast := ih hrest
    have hgrows : Grows (options.ClassDirectory next.tree.workDir (target :: rest))
        (options.ClassFile next.tree.workDir (target :: rest)) next.tree last.tree :=
      hlast.grows.mono (fun _ h => h.mono (List.subset_cons_self target rest))
        fun _ h => h.mono (List.subset_cons_self target rest)
    have hmem := hlast.mem_written
    have hmade := hlast.made
    -- a target that is skipped leaves the tree alone, and another one adds its own file to it
    have hle := hlast.failed_le
    rcases runTarget_eq_none hstep with ⟨⟨fault, hfault⟩, -, htree, hwritten, hfailed⟩ |
      ⟨unit, path, text, hmakes, hwritten, hfailed, hfirst, hwalk, hlook⟩
    · rw [htree] at hgrows hmade
      exact
        { grows := hgrows
          mem_written := fun other => by
            rw [hmem, hwritten, List.exists_mem_cons_iff]
            refine or_congr_right (or_iff_right ?_).symm
            rintro ⟨unit, text, hmakes⟩
            cases hfault.symm.trans hmakes.forwarder
          made := List.forall_mem_cons.2
            ⟨fun unit hunit => (by cases hfault.symm.trans hunit), hmade⟩
          failed_le := by omega
          failed_eq := fun heq => by omega }
    · rw [hfirst.workDir] at hgrows hmade
      exact
        { grows := (hfirst.mono (fun location h => ⟨target, List.mem_cons_self, _, _, _, hmakes, h⟩)
            fun location h => ⟨target, List.mem_cons_self, _, _, _, hmakes, h⟩).trans hgrows
          mem_written := fun other => by
            have hself : other = path ↔ ∃ unit text, options.Makes target unit other text :=
              ⟨fun h => ⟨unit, text, h ▸ hmakes⟩,
                fun ⟨_, _, hother⟩ => (hmakes.unique hother).2.1⟩
            rw [hmem, hwritten, List.exists_mem_cons_iff, List.mem_append, List.mem_singleton,
              or_assoc, hself]
          made := List.forall_mem_cons.2
            ⟨fun other hother => by
              obtain rfl := Except.ok.inj (hmakes.forwarder.symm.trans hother)
              exact ⟨path, text, hmakes, hgrows.walk hwalk, hgrows.look_file hlook⟩, hmade⟩
          failed_le := by omega
          failed_eq := fun heq => List.forall_mem_cons.2
            ⟨⟨unit, hmakes.forwarder⟩, hlast.failed_eq (by omega)⟩ }

/-! ### Module roots -/

/-- The name of the module root of a directory. -/
def rootName (options : Options) (directory : Path) : String :=
  if directory.same options.outputDir then "lib.rs" else "mod.rs"

theorem rootName_cases (options : Options) (directory : Path) :
    options.rootName directory = "lib.rs" ∨ options.rootName directory = "mod.rs" := by
  unfold rootName
  split_ifs
  · exact Or.inl rfl
  · exact Or.inr rfl

/-- The location of the module root of a directory. -/
def rootLocation (options : Options) (workDir : Location) (directory : Path) : Location :=
  directory.location workDir ++ [options.rootName directory]

theorem isModuleRoot_rootLocation (options : Options) (workDir : Location) (directory : Path) :
    IsModuleRoot (options.rootLocation workDir directory) :=
  isModuleRoot_concat.2 (options.rootName_cases directory)

theorem isStepName_rootName (options : Options) (directory : Path) :
    IsStepName (options.rootName directory) := by
  rcases options.rootName_cases directory with h | h
  all_goals
    rw [h]
    exact ⟨by decide, by decide, by decide, by decide⟩

theorem components_moduleRoot (options : Options) (directory : Path) :
    (options.moduleRoot directory).components =
      directory.components ++ [.named (options.rootName directory)] :=
  Path.components_push_name directory (options.isStepName_rootName directory)

theorem location_moduleRoot (options : Options) (workDir : Location) (directory : Path) :
    (options.moduleRoot directory).location workDir = options.rootLocation workDir directory := by
  rw [Path.location, components_moduleRoot, Location.along_append]
  rfl

/-- Whatever a module root comes to, all that changes is its own file. -/
theorem runModule_grows (options : Options) (progress : Progress) (directory : Path) :
    Grows (fun _ => False) (· = options.rootLocation progress.tree.workDir directory)
      progress.tree (options.runModule progress directory).1.tree := by
  unfold runModule
  split
  · exact .refl _ _ _
  · rename_i entries hentries
    obtain ⟨hdirectory, rfl⟩ := entries_eq_ok_iff.1 hentries
    split
    · exact .refl _ _ _
    · rename_i text _
      have hgrows := ((progress.note (.debug ("Generating mod file " ++
        (options.moduleRoot directory).quoted) :: (options.format text).1)).writeFile_writes
          (options.moduleRoot directory) (options.format text).2).grows
      rw [location_moduleRoot, components_moduleRoot, List.dropLast_concat] at hgrows
      refine hgrows.of_existing fun location hway => ?_
      have hthere : progress.tree.look location = some .directory := look_of_onWay hdirectory hway
      exact ne_of_eq_of_ne hthere (by simp)

/-- What a module root that was written comes to.  No directory is made for it. -/
theorem runModule_eq_none {progress next : Progress} {directory : Path}
    (h : options.runModule progress directory = (next, none)) :
    ∃ text, progress.tree.isDir directory = true ∧
      moduleSource (progress.tree.listing (directory.location progress.tree.workDir)) = .ok text ∧
      next.written = progress.written ∧ next.failed = progress.failed ∧
      Grows (fun _ => False) (· = options.rootLocation progress.tree.workDir directory)
        progress.tree next.tree ∧
      next.tree.look (options.rootLocation progress.tree.workDir directory) =
        some (.file (options.format text).2) := by
  have hgrows := options.runModule_grows progress directory
  rw [h] at hgrows
  unfold runModule at h
  split at h
  · cases h
  · rename_i entries hentries
    obtain ⟨hdirectory, rfl⟩ := entries_eq_ok_iff.1 hentries
    split at h
    · cases h
    · rename_i text htext
      have hwrites := (progress.note (.debug ("Generating mod file " ++
        (options.moduleRoot directory).quoted) :: (options.format text).1)).writeFile_writes
          (options.moduleRoot directory) (options.format text).2
      rw [h] at hwrites
      have hlook := hwrites.look rfl
      rw [location_moduleRoot] at hlook
      exact ⟨text, hdirectory, htext, hwrites.written, hwrites.failed, hgrows, hlook⟩

theorem runModule_interrupts {progress next : Progress} {directory : Path} {failure : Failure}
    (h : options.runModule progress directory = (next, some failure)) : failure.Interrupts := by
  unfold runModule at h
  split at h
  · obtain rfl := Option.some.inj (Prod.mk.inj h).2
    trivial
  · split at h
    · obtain rfl := Option.some.inj (Prod.mk.inj h).2
      trivial
    · rename_i text _
      have hwrites := (progress.note (.debug ("Generating mod file " ++
        (options.moduleRoot directory).quoted) :: (options.format text).1)).writeFile_writes
          (options.moduleRoot directory) (options.format text).2
      rw [h] at hwrites
      exact hwrites.interrupts failure rfl

/-- The same for all module roots. -/
theorem runModules_grows (options : Options) (progress : Progress) (directories : List Path) :
    Grows (fun _ => False)
      (fun location => ∃ directory ∈ directories,
        location = options.rootLocation progress.tree.workDir directory) progress.tree
      (options.runModules progress directories).1.tree := by
  induction directories generalizing progress with
  | nil => exact .refl _ _ _
  | cons directory rest ih =>
    have hfirst : Grows (fun _ => False)
        (fun location => ∃ other ∈ directory :: rest,
          location = options.rootLocation progress.tree.workDir other) progress.tree
        (options.runModule progress directory).1.tree :=
      (options.runModule_grows progress directory).mono (fun _ h => h)
        fun _ h => ⟨directory, List.mem_cons_self, h⟩
    rw [runModules]
    split
    · rename_i next failure hstep
      rw [hstep] at hfirst
      exact hfirst
    · rename_i next hstep
      rw [hstep] at hfirst
      have hrest := ih next
      rw [hfirst.workDir] at hrest
      exact hfirst.trans (hrest.mono (fun _ h => h) fun _ ⟨other, hother, h⟩ =>
        ⟨other, List.mem_cons_of_mem directory hother, h⟩)

theorem runModules_cons_eq_none {progress last : Progress} {directory : Path} {rest : List Path} :
    options.runModules progress (directory :: rest) = (last, none) ↔
      ∃ next, options.runModule progress directory = (next, none) ∧
        options.runModules next rest = (last, none) := by
  rw [runModules]
  split
  · rename_i next failure hstep
    simp [hstep]
  · rename_i next hstep
    simp [hstep]

theorem runModules_interrupts {progress last : Progress} {directories : List Path}
    {failure : Failure} (h : options.runModules progress directories = (last, some failure)) :
    failure.Interrupts := by
  induction directories generalizing progress with
  | nil => cases h
  | cons directory rest ih =>
    rw [runModules] at h
    split at h
    · rename_i next other hstep
      obtain rfl := Option.some.inj (Prod.mk.inj h).2
      exact runModule_interrupts hstep
    · exact ih h

/-- What all module roots come to when none ends the run.  What the directories hold stays the
same, so it does not matter in which order the module roots are written. -/
structure RunsModules (options : Options) (progress : Progress) (directories : List Path)
    (last : Progress) : Prop where
  grows : Grows (fun _ => False)
    (fun location => ∃ directory ∈ directories,
      location = options.rootLocation progress.tree.workDir directory) progress.tree last.tree
  written : last.written = progress.written
  failed : last.failed = progress.failed
  root : ∀ directory ∈ directories, last.tree.isDir directory = true ∧
    ∃ text, moduleSource
        (progress.tree.listing (directory.location progress.tree.workDir)) = .ok text ∧
      last.tree.look (options.rootLocation progress.tree.workDir directory) =
        some (.file (options.format text).2)

theorem runModules_runsModules {progress last : Progress} {directories : List Path}
    (h : options.runModules progress directories = (last, none)) :
    options.RunsModules progress directories last := by
  induction directories generalizing progress with
  | nil =>
    obtain rfl := (Prod.mk.inj h).1
    exact
      { grows := .refl _ _ _
        written := rfl
        failed := rfl
        root := List.forall_mem_nil _ }
  | cons directory rest ih =>
    obtain ⟨next, hstep, hrest⟩ := runModules_cons_eq_none.1 h
    obtain ⟨text, hdirectory, htext, hwritten, hfailed, hfirst, hlook⟩ := runModule_eq_none hstep
    have hlast := ih hrest
    have hgrows := hlast.grows
    have hroot := hlast.root
    have hlisting : ∀ location, next.tree.listing location = progress.tree.listing location :=
      (hfirst.mono (fun _ h => h) fun _ h =>
        h ▸ options.isModuleRoot_rootLocation _ directory).listing_eq
    simp only [hlisting, hfirst.workDir] at hgrows hroot
    refine
      { grows := (hfirst.mono (fun _ h => h) fun _ h => ⟨directory, List.mem_cons_self, h⟩).trans
          (hgrows.mono (fun _ h => h) fun _ ⟨other, hother, h⟩ =>
            ⟨other, List.mem_cons_of_mem directory hother, h⟩)
        written := hlast.written.trans hwritten
        failed := hlast.failed.trans hfailed
        root := List.forall_mem_cons.2
          ⟨⟨hgrows.isDir (hfirst.isDir hdirectory), text, htext, ?_⟩, hroot⟩ }
    by_cases hagain : ∃ other ∈ rest, options.rootLocation progress.tree.workDir directory =
        options.rootLocation progress.tree.workDir other
    · -- the same root once more is written with the same text
      obtain ⟨other, hother, hsame⟩ := hagain
      obtain ⟨-, otherText, hotherText, hotherLook⟩ := hroot other hother
      rw [← (List.append_singleton_inj.1 hsame).1, htext] at hotherText
      rw [hsame, hotherLook, Except.ok.inj hotherText]
    · -- no later root is at this location
      exact hgrows.look_of_not_mem hlook hagain

/-! ### Whole runs -/

/-- The directories in which the run writes module roots. -/
def rootDirectories (options : Options) (progress : Progress) : List Path :=
  match options.backend with
  | .java => []
  | .rust => moduleDirs options.outputDir progress.written

/-- After the classes, a run ends as its module roots do, or with the number of skipped targets. -/
theorem runAll_eq {progress classes : Progress} {targets : List Target}
    (h : options.runTargets progress targets = (classes, none)) :
    options.runAll progress targets =
      match options.runModules classes (options.rootDirectories classes) with
      | (last, some failure) => (last, some failure)
      | (last, none) =>
          (last, if last.failed = 0 then none
            else some (.incomplete last.failed targets.length)) := by
  rw [runAll, h]
  rfl

/-- Either a target ends the run, or what changes after the classes are module roots. -/
theorem runAll_cases (options : Options) (progress : Progress) (targets : List Target) :
    (∃ failure, options.runTargets progress targets =
        ((options.runTargets progress targets).1, some failure) ∧
      options.runAll progress targets =
        ((options.runTargets progress targets).1, some failure)) ∨
      ∃ classes, options.runTargets progress targets = (classes, none) ∧
        Grows (fun _ => False)
          (fun location => ∃ directory ∈ options.rootDirectories classes,
            location = options.rootLocation classes.tree.workDir directory)
          classes.tree (options.runAll progress targets).1.tree := by
  rcases htargets : options.runTargets progress targets with ⟨classes, _ | failure⟩
  · have hgrows := options.runModules_grows classes (options.rootDirectories classes)
    refine Or.inr ⟨classes, rfl, ?_⟩
    rw [runAll_eq htargets]
    rcases hmodules : options.runModules classes (options.rootDirectories classes) with
      ⟨last, _ | failure⟩
    · rwa [hmodules] at hgrows
    · rwa [hmodules] at hgrows
  · exact Or.inl ⟨failure, rfl, by rw [runAll, htargets]⟩

/-- However a run ends, all directories that it makes are on the way to its classes. -/
theorem runAll_grows (options : Options) (progress : Progress) (targets : List Target) :
    Grows (options.ClassDirectory progress.tree.workDir targets) (fun _ => True) progress.tree
      (options.runAll progress targets).1.tree := by
  have hclasses : Grows (options.ClassDirectory progress.tree.workDir targets) (fun _ => True)
      progress.tree (options.runTargets progress targets).1.tree :=
    (options.runTargets_grows progress targets).mono (fun _ h => h) fun _ _ => trivial
  rcases options.runAll_cases progress targets with ⟨failure, -, hall⟩ | ⟨classes, hfirst, hroots⟩
  · rw [hall]
    exact hclasses
  · rw [hfirst] at hclasses
    exact hclasses.trans (hroots.mono (fun _ h => h.elim) fun _ _ => trivial)

/-- A run that ends well, or for skipped targets only, has gone through all classes and all module
roots. -/
theorem runAll_ends {progress last : Progress} {targets : List Target} {failure : Option Failure}
    (h : options.runAll progress targets = (last, failure))
    (hfailure : failure = none ∨ ∃ failed total, failure = some (.incomplete failed total)) :
    ∃ classes, options.runTargets progress targets = (classes, none) ∧
      options.runModules classes (options.rootDirectories classes) = (last, none) ∧
      failure = if last.failed = 0 then none
        else some (.incomplete last.failed targets.length) := by
  have hends : ∀ fault, failure = some fault → ¬ fault.Interrupts ∧
      ∀ name, fault ≠ .malformed name := by
    rintro fault rfl
    obtain h | ⟨failed, total, h⟩ := hfailure
    · cases h
    · obtain rfl := Option.some.inj h
      exact ⟨id, fun name => by simp⟩
  rw [runAll] at h
  split at h
  · rename_i classes fault htargets
    obtain rfl := (Prod.mk.inj h).2
    obtain ⟨hinterrupts, hmalformed⟩ := hends fault rfl
    rcases runTargets_interrupts htargets with h | ⟨-, name, rfl⟩
    · exact absurd h hinterrupts
    · exact absurd rfl (hmalformed name)
  · rename_i classes htargets
    refine ⟨classes, htargets, ?_⟩
    dsimp only at h
    split at h
    · rename_i roots fault hmodules
      obtain rfl := (Prod.mk.inj h).2
      exact absurd (runModules_interrupts hmodules) (hends fault rfl).1
    · rename_i roots hmodules
      obtain ⟨rfl, rfl⟩ := Prod.mk.inj h
      exact ⟨hmodules, rfl⟩

/-- A run that has read its input goes through the targets. -/
theorem run_eq_runAll {tree : FileTree} {descriptor : Descriptor}
    (h : options.readInput tree = .ok descriptor) :
    options.run tree =
      options.runAll { tree, log := [.debug "Reading input"] } descriptor.interfaces := by
  rw [run, h]

/-- A run that has read its input and does not end at a failure of one of them has gone through all
targets and module roots. -/
theorem run_ends {tree : FileTree} {last : Progress} {failure : Option Failure}
    {descriptor : Descriptor} (hread : options.readInput tree = .ok descriptor)
    (h : options.run tree = (last, failure))
    (hfailure : failure = none ∨ ∃ failed total, failure = some (.incomplete failed total)) :
    ∃ classes,
      options.runTargets { tree, log := [.debug "Reading input"] } descriptor.interfaces =
        (classes, none) ∧
      options.runModules classes (options.rootDirectories classes) = (last, none) ∧
      failure = if last.failed = 0 then none
        else some (.incomplete last.failed descriptor.interfaces.length) := by
  rw [run_eq_runAll hread] at h
  exact runAll_ends h hfailure

end Options

end Forwarding
