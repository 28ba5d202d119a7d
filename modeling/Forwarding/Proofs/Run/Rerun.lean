import Forwarding.Proofs.FileTree.Remaking
import Forwarding.Proofs.Run.Aborting

/-!
# Runs that are repeated

Nothing that a run leaves changes a decision of the next one: the classes that were written can be
written again, the directories that were made are there, and module roots are not listed.  So a run
that is repeated in the tree that it left leaves it as it is, and ends as before.

* `Failure.Recurs`: how the failure of a run that is repeated can differ;
* `Options.runTargets_again`: targets that end the run end it again;
* `Options.runTargets_of_grows`, `Options.look_again`: targets that do not can be gone through
  again, and only module roots change;
* `Options.runModules_alike`: module roots come to the same in trees that differ in them only;
* `Options.run_again`: the whole run;
* `Options.detour_again`: a run whose failure differs.
-/

namespace Forwarding

open FileTree

/-! ### Progress on another tree -/

namespace Progress

variable {progress next : Progress}

/-- The progress with another file tree. -/
def on (progress : Progress) (tree : FileTree) : Progress := { progress with tree }

@[simp] theorem on_tree (progress : Progress) (tree : FileTree) : (progress.on tree).tree = tree :=
  rfl

/-- Writing a file leaves the records as they are. -/
theorem writeFile_eq_on {path : Path} {text : String} {failure : Option Failure}
    (h : progress.writeFile path text = (next, failure)) : next = progress.on next.tree := by
  have hwrites := progress.writeFile_writes path text
  rw [h] at hwrites
  obtain ⟨tree, log, written, failed⟩ := next
  obtain ⟨rfl, rfl, rfl⟩ := And.intro hwrites.log (And.intro hwrites.written hwrites.failed)
  rfl

/-- Writing a file keeps everything in a directory. -/
theorem writeFile_isRooted (progress : Progress) (h : progress.tree.IsRooted) (path : Path)
    (text : String) : (progress.writeFile path text).1.tree.IsRooted := by
  have hopen : ∀ {start : Progress}, start.tree.IsRooted →
      (start.openFile path text).1.tree.IsRooted := by
    intro start hstart
    unfold openFile
    split
    · rename_i tree hwrite
      exact hstart.write hwrite
    · exact hstart
  unfold writeFile
  split
  · exact hopen h
  · rename_i parent _
    have hmade := h.makeDirs parent
    split
    · rename_i tree fault hmake
      rwa [hmake] at hmade
    · rename_i tree hmake
      rw [hmake] at hmade
      exact hopen hmade

/-- What writing a file comes to in a directory that is there: a failure, which changes nothing, or
the file. -/
def outcome (progress : Progress) (location : Location) (text : String) :
    Option Failure → Progress × Option Failure
  | some failure => (progress, some failure)
  | none => (progress.on (progress.tree.put location (.file text)), none)

/-- What keeps a file with a short name from being opened in a directory that is there. -/
def openFailure? (path : Path) (occupied : Bool) : Option Failure :=
  match spellingFault? path with
  | some fault => some (.openOutput path fault)
  | none => if occupied then some (.openOutput path .isDirectory) else none

end Progress

/-- What a failure becomes when the run is repeated.  It stays the same, unless a file stood in the
place of a directory to be made and stands on the way to it now.  In a tree in which everything
stands in a directory this needs a path with a step up. -/
def Failure.Recurs (tree : FileTree) (failure again : Option Failure) : Prop :=
  again = failure ∨
    ∃ path, failure = some (.makeDirectory path .alreadyExists) ∧
      again = some (.makeDirectory path .notDirectory) ∧ (tree.IsRooted → .parent ∈ path.components)

/-! ### Files that cannot be written -/

/-- A file that cannot be written cannot be written again, and nothing more is made. -/
theorem Progress.writeFile_again {progress next : Progress} {path : Path} {text : String}
    {failure : Failure} (h : progress.writeFile path text = (next, some failure)) :
    (∃ again, next.writeFile path text = (next, some again) ∧
      Failure.Recurs progress.tree (some failure) (some again)) ∧
      Grows (fun _ => True) (fun _ => False) progress.tree next.tree := by
  have hopen : ∀ {start : Progress}, start.openFile path text = (next, some failure) →
      next = start := by
    intro start hopen
    unfold openFile at hopen
    split at hopen
    · cases hopen
    · exact (Prod.mk.inj hopen).1.symm
  rcases hparent : path.parent? with _ | parent
  · rw [writeFile, hparent] at h
    obtain rfl := hopen h
    exact ⟨⟨failure, by rwa [writeFile, hparent], Or.inl rfl⟩, .refl _ _ _⟩
  · rw [writeFile, hparent] at h
    dsimp only at h
    have hgrows : Grows (fun _ => True) (fun _ => False) progress.tree
        (progress.tree.makeDirs parent).1 :=
      (makeDirs_makesDirs progress.tree parent).grows.mono (fun _ _ => trivial) fun _ h => h
    rcases hmake : progress.tree.makeDirs parent with ⟨above, result⟩
    rw [hmake] at h hgrows
    obtain ⟨again, hagain, hresult⟩ := makeDirs_again (Path.parent?_spelling hparent).1 hmake
    rcases result with fault | _
    · obtain ⟨rfl, hfailure⟩ := Prod.mk.inj h
      obtain rfl := Option.some.inj hfailure
      obtain ⟨other, rfl⟩ := hresult.exists_error
      refine ⟨⟨.makeDirectory parent other, ?_, ?_⟩, hgrows⟩
      · rw [writeFile, hparent]
        dsimp only
        rw [hagain]
      · rcases hresult with hsame | ⟨hfault, hother⟩
        · exact Or.inl (by rw [Except.error.inj hsame])
        · obtain rfl := Except.error.inj hfault
          obtain rfl := Except.error.inj hother
          exact Or.inr ⟨parent, rfl, rfl, fun hrooted =>
            hrooted.parent_mem_of_again (Path.parent?_spelling hparent).1 hmake hagain⟩
    · obtain rfl := hresult.eq_ok
      obtain rfl := hopen h
      refine ⟨⟨failure, ?_, Or.inl rfl⟩, hgrows⟩
      rw [writeFile, hparent]
      dsimp only
      rw [hagain]
      exact h

namespace Options

variable {options : Options} {progress next classes : Progress} {target : Target}
  {targets : List Target}

/-- A target that ends the run ends it again where nothing but its directories is added. -/
theorem runTarget_again {failure : Failure}
    (h : options.runTarget progress target = (next, some failure)) :
    (∃ again, options.runTarget (progress.on next.tree) target = (next, some again) ∧
      Failure.Recurs progress.tree (some failure) (some again)) ∧
      Grows (fun _ => True) (fun _ => False) progress.tree next.tree := by
  have hsame : next.tree = progress.tree →
      (∃ again, options.runTarget (progress.on next.tree) target = (next, some again) ∧
        Failure.Recurs progress.tree (some failure) (some again)) ∧
        Grows (fun _ => True) (fun _ => False) progress.tree next.tree := by
    intro hsame
    refine ⟨⟨failure, ?_, Or.inl rfl⟩, hsame ▸ .refl _ _ _⟩
    rw [hsame]
    exact h
  unfold runTarget at h
  split at h
  · split_ifs at h
    · cases h
    · obtain rfl := (Prod.mk.inj h).1
      exact hsame rfl
  · rename_i unit hunit
    unfold runClass at h
    split at h
    · obtain rfl := (Prod.mk.inj h).1
      exact hsame rfl
    · rename_i path hpath
      split at h
      · obtain rfl := (Prod.mk.inj h).1
        exact hsame rfl
      · rename_i log text hrender
        split at h
        · rename_i written other hwrite
          obtain ⟨rfl, hfailure⟩ := Prod.mk.inj h
          obtain rfl := Option.some.inj hfailure
          obtain ⟨⟨again, hagain, hrecurs⟩, hgrows⟩ := Progress.writeFile_again hwrite
          have hstart : ((progress.on written.tree).note
              (target.generationLog options.suffix)).note log = written :=
            (Progress.writeFile_eq_on hwrite).symm
          refine ⟨⟨again, ?_, hrecurs⟩, hgrows⟩
          rw [runTarget, hunit]
          dsimp only
          rw [runClass, hpath]
          dsimp only
          rw [hrender]
          dsimp only
          rw [hstart, hagain]
        · cases h

/-! ### Trees in which everything stands in a directory -/

theorem runTarget_isRooted (h : progress.tree.IsRooted) (target : Target) :
    (options.runTarget progress target).1.tree.IsRooted := by
  unfold runTarget
  split
  · split_ifs <;> exact h
  · unfold runClass
    split
    · exact h
    · rename_i path _
      split
      · exact h
      · rename_i log text _
        have hwritten := Progress.writeFile_isRooted
          ((progress.note (target.generationLog options.suffix)).note log) h path text
        split
        · rename_i hwrite
          rwa [hwrite] at hwritten
        · rename_i hwrite
          rw [hwrite] at hwritten
          exact hwritten

theorem runTargets_isRooted (options : Options) (h : progress.tree.IsRooted)
    (targets : List Target) : (options.runTargets progress targets).1.tree.IsRooted := by
  induction targets generalizing progress with
  | nil => exact h
  | cons target rest ih =>
    have hfirst := options.runTarget_isRooted h target
    rw [runTargets]
    split
    · rename_i hstep
      rwa [hstep] at hfirst
    · rename_i hstep
      rw [hstep] at hfirst
      exact ih hfirst

/-! ### Classes that can be written -/

/-- Where a target does not end the run, what it adds to the records does not depend on the tree. -/
theorem runTarget_eq_on {later : FileTree} {other : Progress}
    (h : options.runTarget progress target = (next, none))
    (h' : options.runTarget (progress.on later) target = (other, none)) :
    other = next.on other.tree := by
  unfold runTarget at h h'
  split at h
  · rename_i fault hunit
    rw [hunit] at h'
    dsimp only at h'
    split_ifs at h h'
    · obtain rfl := (Prod.mk.inj h).1
      obtain rfl := (Prod.mk.inj h').1
      rfl
    · cases h
  · rename_i unit hunit
    rw [hunit] at h'
    dsimp only at h'
    unfold runClass at h h'
    split at h
    · cases h
    · rename_i path hpath
      rw [hpath] at h'
      dsimp only at h'
      split at h
      · cases h
      · rename_i log text hrender
        rw [hrender] at h'
        dsimp only at h'
        split at h
        · cases h
        · rename_i written hwrite
          split at h'
          · cases h'
          · rename_i otherWritten hotherWrite
            obtain rfl := (Prod.mk.inj h).1
            obtain rfl := (Prod.mk.inj h').1
            rw [Progress.writeFile_eq_on hwrite, Progress.writeFile_eq_on hotherWrite]
            rfl

/-- A target that does not end the run does not end it in a tree that came of it. -/
theorem runTarget_of_grows {directories files : Location → Prop} {later : FileTree}
    (h : options.runTarget progress target = (next, none))
    (hgrows : Grows directories files next.tree later) :
    ∃ tree, options.runTarget (progress.on later) target = (next.on tree, none) := by
  have hnone : (options.runTarget (progress.on later) target).2 = none := by
    rcases runTarget_eq_none h with ⟨hfault, hkeep, -⟩ |
      ⟨unit, path, text, hmakes, -, -, hfirst, hwalk, hlook⟩
    · exact runTarget_snd_eq_none_iff.2 (Or.inl ⟨hfault, hkeep⟩)
    · rw [hmakes.runTarget_eq_none_iff]
      have haccepts : progress.tree.Accepts path :=
        (hmakes.runTarget_eq_none_iff progress).1 (by rw [h])
      obtain ⟨front, last, hsegments, hlast⟩ := Backend.segments_classPath hmakes.classPath
      obtain ⟨other, hother⟩ := hgrows.look_file hlook
      refine haccepts.of_directories (hgrows.workDir.trans hfirst.workDir)
        (fun place hplace => hgrows.look_directory (hfirst.look_directory hplace)) ?_ ?_
      · intro place hway fileText hfile
        rw [← hfirst.workDir] at hway
        have hdirectory := hgrows.look_directory (look_of_walk hsegments hlast hwalk hway)
        rw [Progress.on_tree, hdirectory] at hfile
        cases hfile
      · rw [Progress.on_tree, hother]
        simp
  rcases hresult : options.runTarget (progress.on later) target with ⟨other, failure⟩
  rw [hresult] at hnone
  obtain rfl : failure = none := hnone
  exact ⟨other.tree, by rw [← runTarget_eq_on h hresult]⟩

/-- The same for all targets. -/
theorem runTargets_of_grows {directories files : Location → Prop} {later : FileTree}
    (h : options.runTargets progress targets = (classes, none))
    (hgrows : Grows directories files classes.tree later) :
    ∃ tree, options.runTargets (progress.on later) targets = (classes.on tree, none) := by
  have hgrows' : Grows (fun _ => True) (fun _ => True) classes.tree later :=
    hgrows.mono (fun _ _ => trivial) fun _ _ => trivial
  clear hgrows
  induction targets generalizing progress later with
  | nil =>
    obtain rfl := (Prod.mk.inj h).1
    exact ⟨later, rfl⟩
  | cons target rest ih =>
    obtain ⟨next, hstep, hrest⟩ := runTargets_cons_eq_none.1 h
    have hnext : Grows (fun _ => True) (fun _ => True) next.tree classes.tree := by
      have hall := options.runTargets_grows next rest
      rw [hrest] at hall
      exact hall.mono (fun _ _ => trivial) fun _ _ => trivial
    obtain ⟨tree, htree⟩ := runTarget_of_grows hstep (hnext.trans hgrows')
    have hfurther : Grows (fun _ => True) (fun _ => True) later tree := by
      have hone := options.runTarget_grows (progress.on later) target
      rw [htree] at hone
      exact hone.mono (fun _ _ => trivial) fun _ _ => trivial
    obtain ⟨last, hlast⟩ := ih hrest (hgrows'.trans hfurther)
    refine ⟨last, ?_⟩
    rw [runTargets, htree]
    exact hlast

/-! ### Classes again -/

/-- Written classes are all that writing them again would leave. -/
theorem Leaves.again {tree last later : FileTree} {directories files : Location → Prop}
    (h : options.Leaves tree targets last) (hgrows : Grows directories files last later)
    (hfiles : ∀ location, ¬ files location) : options.Leaves later targets later := by
  have hworkDir : later.workDir = tree.workDir := hgrows.workDir.trans h.workDir
  refine
    { workDir := rfl
      entry := rfl
      makes := h.makes
      directory := fun location hlocation => ?_
      file := ?_
      other := fun _ _ _ => rfl }
  · rw [hworkDir] at hlocation
    exact hgrows.look_directory (h.directory location hlocation)
  · rw [hworkDir]
    intro front target after hsplit unit path text hmakes hlast
    exact hgrows.look_of_not_mem (h.file front target after hsplit unit path text hmakes hlast)
      (hfiles _)

/-- Targets that end the run end at one of them. -/
theorem exists_ending_target {last : Progress} {failure : Failure}
    (h : options.runTargets progress targets = (last, some failure)) :
    ∃ before target after classes, targets = before ++ target :: after ∧
      options.runTargets progress before = (classes, none) ∧
      options.runTarget classes target = (last, some failure) := by
  induction targets generalizing progress with
  | nil => cases h
  | cons target rest ih =>
    rw [runTargets] at h
    split at h
    · rename_i next other hstep
      obtain ⟨rfl, hother⟩ := Prod.mk.inj h
      exact ⟨[], target, rest, progress, rfl, rfl, by rw [hstep, hother]⟩
    · rename_i next hstep
      obtain ⟨before, other, after, classes, rfl, hbefore, hother⟩ := ih h
      refine ⟨target :: before, other, after, classes, rfl, ?_, hother⟩
      exact runTargets_cons_eq_none.2 ⟨next, hstep, hbefore⟩

/-- Targets that end the run end it again in the tree that they leave, which stays as it is. -/
theorem runTargets_again {last : Progress} {failure : Failure}
    (h : options.runTargets progress targets = (last, some failure)) :
    ∃ again, options.runTargets (progress.on last.tree) targets = (last, some again) ∧
      Failure.Recurs progress.tree (some failure) (some again) := by
  obtain ⟨before, target, after, classes, rfl, hbefore, hstep⟩ := exists_ending_target h
  obtain ⟨⟨again, hagain, hrecurs⟩, hgrows⟩ := runTarget_again hstep
  obtain ⟨tree, htree⟩ := runTargets_of_grows hbefore hgrows
  have hleaves : options.Leaves last.tree before last.tree :=
    (runTargets_leaves hbefore).again hgrows fun _ h => h
  obtain rfl : tree = last.tree := hleaves.unique (runTargets_leaves htree)
  refine ⟨again, ?_, hrecurs.imp_right ?_⟩
  · rw [runTargets_append, htree]
    dsimp only
    rw [runTargets, hagain]
  · rintro ⟨path, hfailure, hother, hup⟩
    refine ⟨path, hfailure, hother, fun hrooted => ?_⟩
    have hclasses := options.runTargets_isRooted hrooted before
    rw [hbefore] at hclasses
    exact hup hclasses

/-! ### Module roots again -/

/-- Whether the module root of a directory that is there can be written, and the failure if not, is
settled by whether a directory stands in its place. -/
theorem exists_rootFailure (options : Options) (workDir : Location) (directory : Path) :
    ∃ failure : Bool → Option Failure, ∀ (progress : Progress) (text : String),
      progress.tree.workDir = workDir → progress.tree.isDir directory = true →
        progress.writeFile (options.moduleRoot directory) text =
          progress.outcome (options.rootLocation workDir directory) text
            (failure (progress.tree.look (options.rootLocation workDir directory) =
              some .directory)) := by
  have hstep := options.isStepName_rootName directory
  have hname := hstep.not_mem
  have hcomponents := options.components_moduleRoot directory
  obtain ⟨parent, hparent, hparentSteps⟩ := Path.exists_parent? hcomponents (by simp)
  obtain ⟨front, hsegments⟩ : ∃ front,
      (options.moduleRoot directory).segments = front ++ [options.rootName directory] :=
    ⟨_, congrArg Path.segments (Path.push_ofText directory hstep)⟩
  obtain ⟨head, hhead, htrace⟩ := exists_head_concat hsegments (ofSegment?_of_not_mem hname)
  have hfront : directory.components = head ++ front.filterMap Component.ofSegment? :=
    (List.append_inj' (hcomponents.symm.trans hhead) rfl).1
  have hfits : ¬ (options.rootName directory).utf8ByteSize > nameLimit := by
    rcases options.rootName_cases directory with h | h <;> rw [h] <;> decide
  refine ⟨fun occupied =>
    let opening := Progress.openFailure? (options.moduleRoot directory) occupied
    if parent.components = [] then opening
    else (spellingFault? parent).elim opening fun fault => some (.makeDirectory parent fault), ?_⟩
  rintro progress text rfl hdirectory
  have hstart : progress.tree.start (options.moduleRoot directory) =
      progress.tree.start directory :=
    progress.tree.start_of_components [options.rootName directory] hcomponents
  have hparentStart : progress.tree.start parent = progress.tree.start directory :=
    progress.tree.start_of_components [] (by rw [hparentSteps]; simp)
  obtain ⟨next, hnext⟩ :=
    (isDir_iff_trace_components (spellingFault?_of_isDir hdirectory)).1 hdirectory
  have hmade := makeDirs_of_trace ((hparentStart ▸ hparentSteps ▸ hnext :
    progress.tree.trace (progress.tree.start parent) parent.components = .ok next))
  rw [hfront, ← hstart, (htrace _ _).1] at hnext
  have hlocation : next ++ [options.rootName directory] =
      options.rootLocation progress.tree.workDir directory := by
    rw [← location_moduleRoot, location_eq_along_concat hsegments hname, (trace_eq_ok hnext).1]
  have hwrite := write_of_trace hsegments hname hnext text
  rw [if_neg hfits, hlocation] at hwrite
  have hopen : progress.openFile (options.moduleRoot directory) text =
      progress.outcome (options.rootLocation progress.tree.workDir directory) text
        (Progress.openFailure? (options.moduleRoot directory)
          (progress.tree.look (options.rootLocation progress.tree.workDir directory) =
            some .directory)) := by
    rw [Progress.openFile, hwrite, Progress.openFailure?]
    rcases spellingFault? (options.moduleRoot directory) with _ | fault
    · by_cases hlook : progress.tree.look (options.rootLocation progress.tree.workDir directory) =
        some .directory <;> simp [hlook, Progress.outcome, Progress.on]
    · rfl
  rw [Progress.writeFile, hparent]
  dsimp only
  rw [hmade]
  by_cases hnil : parent.components = []
  · rw [if_pos hnil, if_pos hnil]
    dsimp only
    rw [hopen]
  · rw [if_neg hnil, if_neg hnil]
    rcases spellingFault? parent with _ | fault
    · dsimp only [Option.elim]
      rw [hopen]
    · rfl

/-- What a directory holds is listed, unless it is not there or its path cannot be spelled. -/
theorem entries_eq {tree : FileTree} {directory : Path}
    (h : spellingFault? directory = none → tree.isDir directory = true) :
    tree.entries directory =
      match spellingFault? directory with
      | some fault => .error fault
      | none => .ok (tree.listing (directory.location tree.workDir)) := by
  rcases hspelling : spellingFault? directory with _ | fault
  · exact entries_eq_ok_iff.2 ⟨h hspelling, rfl⟩
  · rw [entries, walk, hspelling]

/-- A module root comes to the same in two trees that differ in module roots only. -/
theorem runModule_alike {later : FileTree} {directory : Path}
    (hgrows : Grows (fun _ => False) IsModuleRoot progress.tree later)
    (hdirectory : spellingFault? directory = none → progress.tree.isDir directory = true) :
    ∃ (log : List Record) (text : String) (failure : Option Failure),
      options.runModule progress directory =
        (progress.note log).outcome (options.rootLocation progress.tree.workDir directory) text
          failure ∧
      options.runModule (progress.on later) directory =
        ((progress.note log).on later).outcome
          (options.rootLocation progress.tree.workDir directory) text failure := by
  have hentries := entries_eq hdirectory
  have hlater := entries_eq fun hspelling => hgrows.isDir (hdirectory hspelling)
  have hnote : progress.note [] = progress := by
    rw [Progress.note, List.append_nil]
  rw [runModule, runModule, Progress.on_tree, hentries, hlater]
  rcases hspelling : spellingFault? directory with _ | fault
  · dsimp only
    rw [hgrows.workDir, hgrows.listing_eq]
    rcases moduleSource (progress.tree.listing (directory.location progress.tree.workDir)) with
      fault | text
    · exact ⟨[], "", some (.name fault), by rw [hnote]; rfl, by rw [hnote]; rfl⟩
    · obtain ⟨failure, hfailure⟩ :=
        options.exists_rootFailure progress.tree.workDir directory
      refine ⟨_, (options.format text).2, _,
        hfailure (progress.note _) _ rfl (hdirectory hspelling), ?_⟩
      dsimp only
      have hagain := hfailure ((progress.note (.debug ("Generating mod file " ++
        (options.moduleRoot directory).quoted) :: (options.format text).1)).on later)
        (options.format text).2 hgrows.workDir (hgrows.isDir (hdirectory hspelling))
      have hoccupied : ∀ location, later.look location = some .directory ↔
          progress.tree.look location = some .directory := fun _ => hgrows.look_directory_iff
      rw [Progress.on_tree] at hagain
      simp only [hoccupied] at hagain
      exact hagain
  · exact ⟨[], "", some (.list fault), by rw [hnote]; rfl, by rw [hnote]; rfl⟩

/-- The same for all module roots.  Whatever stands somewhere afterwards, either both have put it
there or neither has changed it. -/
theorem runModules_alike {later : FileTree} {directories : List Path}
    (hgrows : Grows (fun _ => False) IsModuleRoot progress.tree later)
    (hdirectories : ∀ directory ∈ directories, spellingFault? directory = none →
      progress.tree.isDir directory = true) :
    ∃ last tree failure, options.runModules progress directories = (last, failure) ∧
      options.runModules (progress.on later) directories = (last.on tree, failure) ∧
      ∀ location, tree.look location = last.tree.look location ∨
        last.tree.look location = progress.tree.look location ∧
          tree.look location = later.look location := by
  induction directories generalizing progress later with
  | nil => exact ⟨progress, later, none, rfl, rfl, fun location => Or.inr ⟨rfl, rfl⟩⟩
  | cons directory rest ih =>
    obtain ⟨hdirectory, hrest⟩ := List.forall_mem_cons.1 hdirectories
    obtain ⟨log, text, failure, hfirst, hsecond⟩ := runModule_alike hgrows hdirectory
    rw [runModules, runModules, hfirst, hsecond]
    cases failure with
    | some failure =>
      exact ⟨progress.note log, later, some failure, rfl, rfl, fun location => Or.inr ⟨rfl, rfl⟩⟩
    | none =>
      have hne : options.rootLocation progress.tree.workDir directory ≠ [] := by
        simp [rootLocation]
      have hput : Grows (fun _ => False) IsModuleRoot
          ((progress.note log).on (progress.tree.put
            (options.rootLocation progress.tree.workDir directory) (.file text))).tree
          (later.put (options.rootLocation progress.tree.workDir directory) (.file text)) :=
        hgrows.put hne _
      have hmade := options.runModule_grows progress directory
      rw [hfirst] at hmade
      obtain ⟨last, tree, failure, hlast, htree, hsame⟩ :=
        ih hput fun other hother hspelling => hmade.isDir (hrest other hother hspelling)
      refine ⟨last, tree, failure, hlast, htree, fun location => ?_⟩
      rcases hsame location with hlook | ⟨hlook, hlater⟩
      · exact Or.inl hlook
      · rw [Progress.on_tree, look_put _ hne] at hlook
        rw [look_put _ hne] at hlater
        split_ifs at hlook hlater
        · exact Or.inl (hlater.trans hlook.symm)
        · exact Or.inr ⟨hlook, hlater⟩

/-- The directories of the module roots are there once the classes are. -/
theorem RunsTargets.isDir (h : options.RunsTargets progress targets classes)
    (hwritten : progress.written = []) {directory : Path}
    (hdirectory : directory ∈ options.rootDirectories classes)
    (hspelling : spellingFault? directory = none) : classes.tree.isDir directory = true := by
  obtain ⟨path, hpath, hancestor⟩ : ∃ path ∈ classes.written, directory ∈ path.ancestors := by
    unfold rootDirectories at hdirectory
    cases hbackend : options.backend with
    | java => simp [hbackend] at hdirectory
    | rust =>
      rw [hbackend] at hdirectory
      obtain ⟨path, hpath, hmem⟩ := List.mem_flatMap.1 (mem_of_mem_ascending hdirectory)
      exact ⟨path, hpath, mem_of_mem_upToOutput hmem⟩
  rw [h.mem_written, hwritten] at hpath
  obtain ⟨target, hmem, unit, text, hmakes⟩ := hpath.resolve_left List.not_mem_nil
  obtain ⟨otherPath, otherText, hother, hwalk, -⟩ := h.made target hmem unit hmakes.forwarder
  obtain ⟨-, rfl, -⟩ := hmakes.unique hother
  obtain ⟨front, name, hsegments, hname⟩ := Backend.segments_classPath hmakes.classPath
  obtain ⟨next, htrace⟩ := trace_of_walk hsegments hname hwalk
  obtain ⟨rest, last, hcomponents⟩ := Path.components_of_mem_ancestorsUpTo hancestor
  have hne : directory.components ≠ [] := by
    intro hnil
    simp [spellingFault?, Path.text_eq_empty hnil] at hspelling
  have hstart : classes.tree.start directory = classes.tree.start otherPath := by
    have hsame : directory.isAbsolute = otherPath.isAbsolute := by
      rw [Bool.eq_iff_iff, Path.isAbsolute_iff, Path.isAbsolute_iff, hcomponents,
        List.append_assoc, List.head?_append_of_ne_nil _ hne]
    rw [start, start, hsame]
  rw [hcomponents, List.dropLast_concat, trace_append, ← hstart] at htrace
  obtain ⟨middle, hmiddle, -⟩ := bind_eq_ok_iff.1 htrace
  exact (isDir_iff_trace_components hspelling).2 ⟨middle, hmiddle⟩

/-! ### Runs again -/

/-- What the classes come to when they are written again after the module roots: only the module
roots can differ from what the classes came to at first. -/
theorem look_again {tree first last again : FileTree} {files : Location → Prop}
    (hfirst : options.Leaves tree targets first)
    (hgrows : Grows (fun _ => False) files first last)
    (hagain : options.Leaves last targets again) (location : Location) :
    again.look location = first.look location ∨
      again.look location = last.look location := by
  have hworkDir : last.workDir = tree.workDir := hgrows.workDir.trans hfirst.workDir
  by_cases hdirectory : options.ClassDirectory tree.workDir targets location
  · exact Or.inl ((hagain.directory location (hworkDir ▸ hdirectory)).trans
      (hfirst.directory location hdirectory).symm)
  · by_cases hfile : options.ClassFile tree.workDir targets location
    · obtain ⟨front, target, after, hsplit, ⟨unit, path, text, hmakes, rfl⟩, hlast⟩ :=
        hfile.exists_last
      refine Or.inl ((hworkDir ▸ hagain.file front target after hsplit unit path text hmakes ?_ :
        again.look (path.location tree.workDir) = _).trans
          (hfirst.file front target after hsplit unit path text hmakes hlast).symm)
      rwa [hworkDir]
    · exact Or.inr (hagain.other location (hworkDir ▸ hdirectory) (hworkDir ▸ hfile))

/-- The module roots, repeated after the classes. -/
theorem runModules_again {last : Progress} {failure : Option Failure}
    (hwritten : progress.written = [])
    (htargets : options.runTargets progress targets = (classes, none))
    (h : options.runModules classes (options.rootDirectories classes) = (last, failure)) :
    ∃ tree, options.runTargets (progress.on last.tree) targets = (classes.on tree, none) ∧
      options.runModules (classes.on tree) (options.rootDirectories classes) = (last, failure) := by
  have hmodules := options.runModules_grows classes (options.rootDirectories classes)
  rw [h] at hmodules
  obtain ⟨tree, htree⟩ := runTargets_of_grows htargets hmodules
  have hagain : options.Leaves last.tree targets tree := runTargets_leaves htree
  have hlook := look_again (runTargets_leaves htargets) hmodules hagain
  have hgrows : Grows (fun _ => False) IsModuleRoot classes.tree tree := by
    refine ⟨hagain.workDir.trans hmodules.workDir, hagain.entry.trans hmodules.entry,
      fun location => ?_⟩
    rcases hlook location with hsame | hsame
    · exact Or.inl hsame
    · rw [hsame]
      refine (hmodules.look location).imp_right (Or.imp_right ?_)
      rintro ⟨⟨directory, -, rfl⟩, hrest⟩
      exact ⟨options.isModuleRoot_rootLocation _ directory, hrest⟩
  obtain ⟨other, after, otherFailure, hother, hafter, hsame⟩ :=
    runModules_alike hgrows fun directory hdirectory =>
      (runTargets_runsTargets htargets).isDir hwritten hdirectory
  obtain ⟨rfl, rfl⟩ := Prod.mk.inj (h.symm.trans hother)
  refine ⟨tree, htree, ?_⟩
  have hend := options.runModules_grows (classes.on tree) (options.rootDirectories classes)
  rw [hafter] at hend
  obtain rfl : after = last.tree := by
    refine ext_look (hend.workDir.trans hagain.workDir) (hend.entry.trans hagain.entry)
      fun location => ?_
    rcases hsame location with h | ⟨huntouched, hlater⟩
    · exact h
    · rcases hlook location with h | h
      · rw [hlater, h, huntouched]
      · rw [hlater, h]
  exact hafter

/-- A run on targets, repeated in the tree that it leaves. -/
theorem runAll_again {last : Progress} {failure : Option Failure}
    (hwritten : progress.written = []) (h : options.runAll progress targets = (last, failure)) :
    ∃ again, options.runAll (progress.on last.tree) targets = (last, again) ∧
      Failure.Recurs progress.tree failure again := by
  rcases htargets : options.runTargets progress targets with ⟨classes, _ | fault⟩
  · rw [runAll_eq htargets] at h
    rcases hmodules : options.runModules classes (options.rootDirectories classes) with
      ⟨other, fault⟩
    rw [hmodules] at h
    obtain rfl : other = last := by cases fault <;> exact (Prod.mk.inj h).1
    obtain ⟨tree, htree, hagain⟩ := runModules_again hwritten htargets hmodules
    refine ⟨failure, ?_, Or.inl rfl⟩
    have hroots : options.rootDirectories (classes.on tree) = options.rootDirectories classes := rfl
    rw [runAll_eq htree, hroots, hagain]
    exact h
  · rw [runAll_of_failure htargets] at h
    obtain ⟨rfl, rfl⟩ := Prod.mk.inj h
    obtain ⟨again, hagain, hrecurs⟩ := runTargets_again htargets
    exact ⟨some again, runAll_of_failure hagain, hrecurs⟩

/-- The input is read as before, unless something was written in its place. -/
theorem readInput_again {tree last : FileTree} {directories files : Location → Prop}
    {descriptor : Descriptor} (h : options.readInput tree = .ok descriptor)
    (hgrows : Grows directories files tree last)
    (hlook : last.look (options.inputFile.location tree.workDir) =
      tree.look (options.inputFile.location tree.workDir)) :
    options.readInput last = .ok descriptor := by
  rcases hread : tree.read options.inputFile with fault | text
  · rw [readInput, hread] at h
    cases fault <;> cases h
  · obtain ⟨location, hwalk, hfile⟩ := read_eq_ok_iff.1 hread
    obtain rfl := walk_eq_ok hwalk
    have hagain : last.read options.inputFile = .ok text :=
      read_eq_ok_iff.2 ⟨_, hgrows.walk hwalk, hlook.trans hfile⟩
    rw [readInput, hread] at h
    rw [readInput, hagain]
    exact h

/-- **Running again changes nothing**, unless the run has written its own input.  However a run
ends, repeating it in the tree that it leaves leaves the same tree, records and counts, and it ends
in the same way, but for one thing: where it ended because a file stood in the place of a directory
to be made, the file may now stand on the way to this. -/
theorem run_again {tree : FileTree}
    (hinput : (options.run tree).1.tree.look (options.inputFile.location tree.workDir) =
      tree.look (options.inputFile.location tree.workDir)) :
    (options.run (options.run tree).1.tree).1 = (options.run tree).1 ∧
      Failure.Recurs tree (options.run tree).2 (options.run (options.run tree).1.tree).2 := by
  rcases hread : options.readInput tree with failure | descriptor
  · have hrun : options.run tree =
        ({ tree, log := [.debug "Reading input"] }, some failure) := by
      rw [run, hread]
    rw [hrun]
    exact ⟨congrArg Prod.fst hrun, Or.inl (congrArg Prod.snd hrun)⟩
  · have hrun : ∀ {start : FileTree}, options.readInput start = .ok descriptor →
        options.run start =
          options.runAll { tree := start, log := [.debug "Reading input"] }
            descriptor.interfaces := run_eq_runAll
    have hgrows := options.runAll_grows { tree, log := [.debug "Reading input"] }
      descriptor.interfaces
    rw [← hrun hread] at hgrows
    rw [hrun (readInput_again hread hgrows hinput)]
    rcases hfirst : options.run tree with ⟨last, failure⟩
    obtain ⟨again, hagain, hrecurs⟩ := runAll_again rfl ((hrun hread).symm.trans hfirst)
    rw [show options.runAll { tree := last.tree, log := [.debug "Reading input"] }
      descriptor.interfaces = (last, again) from hagain]
    exact ⟨rfl, hrecurs⟩

/-- A run whose output directory lies on a way up from a directory that is missing. -/
def detourOptions : Options :=
  { inputFile := ⟨["in"]⟩, outputDir := ⟨["new", "..", "file", "c"]⟩ }

/-- The tree of a run that finds a file on its way. -/
def detourTree : FileTree :=
  (FileTree.empty.put ["file"] (.file "text")).put ["in"] (.file ("\x7b\"interfaces\":[" ++
    "\x7b\"qualifiedName\":\"A\",\"simpleName\":\"A\",\"members\":[]," ++
    "\"delegate\":[\"\",\"B\",\"d\"]\x7d]\x7d"))

/-- A run that ends well, and one that ends at a file on its way. -/
theorem run_again_store :
    ((crateOptions.run storeTree).1.tree.look ["in"] = storeTree.look ["in"] ∧
      (crateOptions.run (crateOptions.run storeTree).1.tree).1 = (crateOptions.run storeTree).1) ∧
    (detourOptions.run detourTree).1.tree.look ["in"] = detourTree.look ["in"] ∧
      (detourOptions.run (detourOptions.run detourTree).1.tree).1 =
        (detourOptions.run detourTree).1 := by
  have hstore : (crateOptions.run storeTree).1.tree.look ["in"] = storeTree.look ["in"] := by
    decide +kernel
  have hdetour : (detourOptions.run detourTree).1.tree.look ["in"] = detourTree.look ["in"] := by
    decide +kernel
  exact ⟨⟨hstore, (run_again hstore).1⟩, hdetour, (run_again hdetour).1⟩

/-- The first run makes the missing directory and ends at the file in the place of a directory, and
the second one ends at the file on its way. -/
theorem detour_again :
    (detourOptions.run detourTree).1.tree.look ["in"] = detourTree.look ["in"] ∧
      (detourOptions.run detourTree).2.bind Failure.message? =
        some ("Failed to create package directory \"new/../file/c\": " ++
          FileFault.message .alreadyExists) ∧
      (detourOptions.run (detourOptions.run detourTree).1.tree).2.bind Failure.message? =
        some ("Failed to create package directory \"new/../file/c\": " ++
          FileFault.message .notDirectory) := by
  decide +kernel

end Options

end Forwarding
