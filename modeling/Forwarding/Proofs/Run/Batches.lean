import Forwarding.Proofs.Run.Accumulation

/-!
# Runs in batches

If a run over all targets ends well and no two of them share a file, the targets can be distributed
over successive runs in any order: each of these ends well too, and in the end the same file tree is
left.

* `FileTree.Between`: a tree on the way from one tree to a later one;
* `Options.Completes`: what a run that ended well shows of its targets;
* `Options.Completes.runOn`: a run over some of the targets on a tree in between ends well;
* `Options.runOn_batches`: runs in batches.
-/

namespace Forwarding

open FileTree

/-! ### Trees in between -/

/-- The tree has the directories of the first one, and nothing but what is of the same kind in the
last one. -/
structure FileTree.Between (before last tree : FileTree) : Prop where
  workDir : tree.workDir = before.workDir
  lower : ∀ location, before.look location = some .directory →
    tree.look location = some .directory
  directory : ∀ location, tree.look location = some .directory →
    last.look location = some .directory
  file : ∀ location text, tree.look location = some (.file text) →
    ∃ text, last.look location = some (.file text)

namespace FileTree.Between

variable {before last tree later : FileTree} {directories files : Location → Prop}

/-- A tree in between may grow to what the last one has. -/
theorem grows (h : Between before last tree) (hgrows : Grows directories files tree later)
    (hdirectories : ∀ location, directories location → last.look location = some .directory)
    (hfiles : ∀ location, files location → ∃ text, last.look location = some (.file text)) :
    Between before last later where
  workDir := hgrows.workDir.trans h.workDir
  lower := fun location hlook => hgrows.look_directory (h.lower location hlook)
  directory := fun location hlook => by
    rcases hgrows.look location with hsame | ⟨hmade, -⟩ | ⟨-, -, text, htext⟩
    · exact h.directory location (hsame ▸ hlook)
    · exact hdirectories location hmade
    · rw [htext] at hlook
      cases hlook
  file := fun location text hlook => by
    rcases hgrows.look location with hsame | ⟨-, -, hmade⟩ | ⟨hwritten, -⟩
    · exact h.file location text (hsame ▸ hlook)
    · rw [hmade] at hlook
      cases hlook
    · exact hfiles location hwritten

/-- What a directory holds in between it holds in the end. -/
theorem holds (h : Between before last tree) {directory : Location} {entry : Entry}
    (hholds : tree.Holds directory entry) : last.Holds directory entry := by
  obtain ⟨stem, isFile⟩ := entry
  cases isFile with
  | false => exact h.directory _ hholds
  | true =>
    obtain ⟨hmod, hlib, text, hlook⟩ := hholds
    exact ⟨hmod, hlib, h.file _ text hlook⟩

end FileTree.Between

/-- If all entries of a directory can be declared, so can some of them. -/
theorem exists_moduleSource_of_subset {entries more : List Entry} {text : String}
    (h : moduleSource more = .ok text) (hsubset : entries ⊆ more) :
    ∃ text, moduleSource entries = .ok text := by
  obtain ⟨declarations, hdeclarations, -⟩ := map_eq_ok_iff.1 h
  rw [mapM_eq_ok_iff] at hdeclarations
  obtain ⟨fewer, hfewer⟩ : ∃ fewer, List.Forall₂
      (fun entry declaration => Declaration.ofEntry entry = .ok declaration) entries fewer :=
    exists_forall₂ fun entry hentry => by
      obtain ⟨declaration, -, hof⟩ := exists_of_mem_right hdeclarations.flip (hsubset hentry)
      exact ⟨declaration, hof⟩
  exact ⟨_, map_eq_ok_iff.2 ⟨fewer, mapM_eq_ok_iff.2 hfewer, rfl⟩⟩

namespace Options

variable {options : Options} {tree before last : FileTree} {targets more : List Target}

/-! ### What a run that ended well shows -/

/-- Module roots that were written have directories and paths that can be spelled. -/
theorem spelling_of_runModules {progress next : Progress} {directories : List Path}
    (h : options.runModules progress directories = (next, none)) :
    ∀ directory ∈ directories, spellingFault? directory = none ∧
      spellingFault? (options.moduleRoot directory) = none := by
  induction directories generalizing progress with
  | nil => exact List.forall_mem_nil _
  | cons directory rest ih =>
    obtain ⟨middle, hstep, hrest⟩ := runModules_cons_eq_none.1 h
    obtain ⟨hdirectory, -, haccepts⟩ := runModule_eq_none_iff.1 (by rw [hstep])
    exact List.forall_mem_cons.2
      ⟨⟨spellingFault?_of_isDir hdirectory, haccepts.spelling⟩, ih hrest⟩

/-- The files of the targets were accepted from the beginning. -/
theorem accepts_of_runTargets {progress classes : Progress}
    (h : options.runTargets progress targets = (classes, none)) (hslash : options.NoSlash targets)
    {target : Target} (hmem : target ∈ targets) {unit : Forwarder} {path : Path} {text : String}
    (hmakes : options.Makes target unit path text)
    (hall : ∀ other ∈ targets, ∃ unit path text, options.Makes other unit path text) :
    progress.tree.Accepts path := by
  obtain ⟨file, -, -, hcomponents⟩ := hmakes.components hmem hslash
  obtain ⟨front, after, rfl⟩ := List.append_of_mem hmem
  obtain ⟨start, hfront, hrest⟩ := runTargets_append_eq_none.1 h
  obtain ⟨next, hstep, -⟩ := runTargets_cons_eq_none.1 hrest
  cases front with
  | nil =>
    obtain rfl := (Prod.mk.inj hfront).1
    exact (hmakes.runTarget_eq_none_iff progress).1 (by rw [hstep])
  | cons first others =>
    -- the first file shows that the way to the output directory can be paved
    obtain ⟨middle, hfirst, -⟩ := runTargets_cons_eq_none.1 hfront
    obtain ⟨otherUnit, otherPath, otherText, hotherMakes⟩ := hall first (by simp)
    obtain ⟨otherFile, -, -, hotherComponents⟩ := hotherMakes.components (by simp) hslash
    have hotherAccepts := (hotherMakes.runTarget_eq_none_iff progress).1 (by rw [hfirst])
    have haccepts := (hmakes.runTarget_eq_none_iff start).1 (by rw [hstep])
    obtain ⟨-, base, hbase⟩ := hotherAccepts.exists_base hotherComponents
    exact haccepts.of_grows (runTargets_runsTargets hfront).grows hcomponents hbase

/-- What a run that ended well shows of its targets. -/
structure Completes (options : Options) (tree : FileTree) (targets : List Target)
    (last : FileTree) : Prop where
  slash : options.NoSlash targets
  between : Between tree last tree
  accumulates : options.Accumulates tree targets last
  accepts : ∀ target ∈ targets, ∀ unit path text, options.Makes target unit path text →
    tree.Accepts path
  spelling : options.backend = .rust → ∀ written : List Path,
    (∀ path ∈ written, ∃ target ∈ targets, ∃ unit text, options.Makes target unit path text) →
      ∀ directory ∈ moduleDirs options.outputDir written, spellingFault? directory = none ∧
        spellingFault? (options.moduleRoot directory) = none

theorem completes_of_runOn {last : Progress} (hslash : options.NoSlash targets)
    (hapart : targets.Pairwise options.Apart) (h : options.runOn tree targets = (last, none)) :
    options.Completes tree targets last.tree := by
  obtain ⟨classes, hclasses, hroots, hall⟩ := runAll_makes h rfl
  have hruns := runTargets_runsTargets hclasses
  have haccumulates : options.Accumulates tree targets last.tree :=
    (Accumulates.nil options tree).runOn (show options.NoSlash ([] ++ targets) from hslash)
      hapart h
  refine ⟨hslash, ?_, haccumulates,
    fun target hmem unit path text hmakes => accepts_of_runTargets hclasses hslash hmem hmakes hall,
    fun hbackend written hwritten directory hdirectory => ?_⟩
  · exact ⟨rfl, fun _ h => h, fun _ => haccumulates.grows.look_directory,
      fun _ _ => haccumulates.grows.look_file⟩
  · rw [rootDirectories, hbackend] at hroots
    refine spelling_of_runModules hroots directory (moduleDirs_subset (fun path hpath => ?_)
      (fun path hpath => (hruns.mem_written path).2 (Or.inr (hwritten path hpath))) hdirectory)
    obtain hpath | ⟨target, hmem, unit, text, hmakes⟩ := (hruns.mem_written path).1 hpath
    · cases hpath
    · exact Backend.classPath_eq_pushAll hmakes.classPath (hslash target hmem unit hmakes.forwarder)

namespace Completes

/-! ### Runs over some of the targets -/

/-- The files are accepted by every tree in between. -/
theorem accepts_between (h : options.Completes tree targets last) {middle : FileTree}
    (hbetween : Between tree last middle) {target : Target} (hmem : target ∈ targets)
    {unit : Forwarder} {path : Path} {text : String}
    (hmakes : options.Makes target unit path text) : middle.Accepts path := by
  refine (h.accepts target hmem unit path text hmakes).of_directories hbetween.workDir
    hbetween.lower (fun place hway text hfile => ?_) fun hdirectory => ?_
  · obtain ⟨other, hother⟩ := hbetween.file place text hfile
    have hthere := h.accumulates.directory place ⟨target, hmem, unit, path, _, hmakes, hway⟩
    rw [hother] at hthere
    cases hthere
  · obtain ⟨other, hother⟩ := h.accumulates.exists_file
      (Or.inl ⟨target, hmem, unit, path, text, hmakes, rfl⟩)
    have hthere := hbetween.directory _ hdirectory
    rw [hother] at hthere
    cases hthere

theorem runTargets (h : options.Completes tree targets last) {progress : Progress}
    (hbetween : Between tree last progress.tree) (hmore : more ⊆ targets) :
    ∃ next, options.runTargets progress more = (next, none) ∧ Between tree last next.tree := by
  induction more generalizing progress with
  | nil => exact ⟨progress, rfl, hbetween⟩
  | cons target rest ih =>
    obtain ⟨hmem, hrest⟩ := List.cons_subset.1 hmore
    obtain ⟨unit, path, text, hmakes⟩ := h.accumulates.makes target hmem
    have hstep := (hmakes.runTarget_eq_none_iff progress).2 (h.accepts_between hbetween hmem hmakes)
    have hgrows := options.runTarget_grows progress target
    rw [hbetween.workDir] at hgrows
    rcases hnext : options.runTarget progress target with ⟨next, failure⟩
    obtain rfl : failure = none := by rwa [hnext] at hstep
    rw [hnext] at hgrows
    have hsingle : [target] ⊆ targets := List.cons_subset.2 ⟨hmem, List.nil_subset _⟩
    obtain ⟨final, hfinal, hlast⟩ := ih (hbetween.grows hgrows
      (fun location hlocation => h.accumulates.directory location (hlocation.mono hsingle))
      fun location hlocation => h.accumulates.exists_file (Or.inl (hlocation.mono hsingle))) hrest
    exact ⟨final, runTargets_cons_eq_none.2 ⟨next, hnext, hfinal⟩, hlast⟩

/-- Module roots that the whole run has written can be written in between, if their directories are
there. -/
theorem runModules (h : options.Completes tree targets last) {progress : Progress}
    {directories : List Path} (hbetween : Between tree last progress.tree)
    (hdirectories : ∀ directory ∈ directories, progress.tree.isDir directory = true ∧
      spellingFault? (options.moduleRoot directory) = none ∧
        options.RootFile tree.workDir targets (options.rootLocation tree.workDir directory)) :
    ∃ next, options.runModules progress directories = (next, none) := by
  induction directories generalizing progress with
  | nil => exact ⟨progress, rfl⟩
  | cons directory rest ih =>
    obtain ⟨⟨hdirectory, hspelling, hroot⟩, hrest⟩ := List.forall_mem_cons.1 hdirectories
    obtain ⟨text, hlook⟩ := h.accumulates.exists_file (Or.inr hroot)
    have hgrows := options.runModule_grows progress directory
    have hsource : ∃ text, moduleSource (progress.tree.listing
        (directory.location progress.tree.workDir)) = .ok text := by
      obtain ⟨hbackend, names, file, front, hplace, hfront, hlocation⟩ := hroot
      obtain ⟨other, hother, -⟩ := h.accumulates.root hbackend names file front hplace hfront
      rw [hbetween.workDir, (List.append_singleton_inj.1 hlocation).1]
      exact exists_moduleSource_of_subset hother fun entry hentry =>
        mem_listing.2 (hbetween.holds (mem_listing.1 hentry))
    have hstep := runModule_eq_none_iff.2 ⟨hdirectory, hsource, accepts_moduleRoot hdirectory
      hspelling fun hplace => by
        rw [hbetween.workDir] at hplace
        have hthere := hbetween.directory _ hplace
        rw [hlook] at hthere
        cases hthere⟩
    rcases hnext : options.runModule progress directory with ⟨next, failure⟩
    obtain rfl : failure = none := by rwa [hnext] at hstep
    rw [hnext, hbetween.workDir] at hgrows
    obtain ⟨final, hfinal⟩ := ih (hbetween.grows hgrows (fun _ h => h.elim)
      fun location hlocation => hlocation ▸ ⟨text, hlook⟩) fun other hother =>
        ⟨hgrows.isDir (hrest other hother).1, (hrest other hother).2⟩
    exact ⟨final, runModules_cons_eq_none.2 ⟨next, hnext, hfinal⟩⟩

/-- The module directories of some of the targets are there once their classes are. -/
theorem isDir_of_mem_rootDirectories (h : options.Completes tree targets last)
    {progress classes : Progress} (hbetween : Between tree last progress.tree)
    (hruns : options.RunsTargets progress more classes) (hwritten : progress.written = [])
    (hmore : more ⊆ targets) {directory : Path}
    (hdirectory : directory ∈ options.rootDirectories classes) :
    classes.tree.isDir directory = true ∧
      spellingFault? (options.moduleRoot directory) = none := by
  have hslash : options.NoSlash more := fun target hmem => h.slash target (hmore hmem)
  have hbackend := (rootFile_of_mem_rootDirectories hslash hruns hwritten hdirectory []).1
  rw [rootDirectories, hbackend] at hdirectory
  obtain ⟨hspelling, hroot⟩ := h.spelling hbackend classes.written (fun path hpath => by
    obtain hpath | ⟨target, hmem, hmakes⟩ := (hruns.mem_written path).1 hpath
    · rw [hwritten] at hpath
      cases hpath
    · exact ⟨target, hmore hmem, hmakes⟩) directory hdirectory
  refine ⟨?_, hroot⟩
  obtain ⟨names, -, front, ⟨target, hmem, unit, hunit, rfl, -⟩, ⟨rest, hrest⟩, hsteps⟩ :=
    (mem_moduleDirs_iff_isPlace hslash hruns hwritten).1 (List.mem_map_of_mem hdirectory)
  obtain ⟨other, path, text, hmakes⟩ := h.accumulates.makes target (hmore hmem)
  obtain rfl := Except.ok.inj (hunit.symm.trans hmakes.forwarder)
  obtain ⟨file, -, -, hcomponents⟩ := hmakes.components hmem hslash
  have hbelow : path.components = directory.components ++ rest.map .named ++ [.named file] := by
    rw [hcomponents, hsteps, ← hrest, List.map_append, List.append_assoc _ (front.map _)]
  have haccepts := h.accepts target (hmore hmem) unit path text hmakes
  have hworkDir : classes.tree.workDir = tree.workDir :=
    hruns.grows.workDir.trans hbetween.workDir
  have hstart : classes.tree.start directory = tree.start directory := by
    rw [start, start, hworkDir]
  refine isDir_of_onWay hspelling ?_ (fun step hstep => haccepts.fits step ?_)
    fun place hplace => ?_
  · rw [hstart]
    exact hruns.grows.look_directory (hbetween.lower _ (haccepts.exists_base hbelow).1)
  · rw [hbelow, List.append_assoc]
    exact List.mem_append_left _ hstep
  · refine hruns.look_directory ⟨target, hmem, unit, path, text, hmakes, ?_⟩
    rw [hruns.grows.workDir] at hplace
    refine hplace.mono ?_
    rw [hbelow, List.dropLast_concat]
    exact List.prefix_append _ _

/-- A run over some of the targets on a tree in between ends well. -/
theorem runOn (h : options.Completes tree targets last) {middle : FileTree}
    (hbetween : Between tree last middle) (hmore : more ⊆ targets) :
    (options.runOn middle more).2 = none := by
  have hslash : options.NoSlash more := fun target hmem => h.slash target (hmore hmem)
  obtain ⟨classes, hclasses, hclassesBetween⟩ : ∃ classes,
      options.runTargets { tree := middle, log := [.debug "Reading input"] } more =
        (classes, none) ∧ Between tree last classes.tree := h.runTargets hbetween hmore
  have hruns := runTargets_runsTargets hclasses
  obtain ⟨next, hnext⟩ : ∃ next,
      options.runModules classes (options.rootDirectories classes) = (next, none) :=
    h.runModules hclassesBetween fun directory hdirectory => by
      obtain ⟨hthere, hspelling⟩ :=
        h.isDir_of_mem_rootDirectories hbetween hruns rfl hmore hdirectory
      exact ⟨hthere, hspelling,
        (rootFile_of_mem_rootDirectories hslash hruns rfl hdirectory _).mono hmore⟩
  -- no target is skipped, since each has a class
  have hnamed : more.filter Target.isWellNamed = more := List.filter_eq_self.2 fun target hmem => by
    obtain ⟨unit, path, text, hmakes⟩ := h.accumulates.makes target (hmore hmem)
    exact Target.isWellNamed_iff.2 ⟨unit, hmakes.forwarder⟩
  have hfailed : next.failed = 0 := by
    have hcount := failed_runTargets hclasses
    rw [hnamed] at hcount
    rw [(runModules_runsModules hnext).failed]
    dsimp only at hcount
    omega
  rw [Options.runOn, runAll_eq hclasses, hnext]
  exact if_pos hfailed

end Completes

/-! ### Batches -/

/-- The tree after runs over batches of targets, one after another. -/
def treeAfter (options : Options) (tree : FileTree) (batches : List (List Target)) : FileTree :=
  batches.foldl (fun tree batch => (options.runOn tree batch).1.tree) tree

/-- Runs over batches of the targets end well, each on the tree that the ones before it left. -/
theorem Completes.treeAfter (h : options.Completes tree targets last) {done : List Target}
    {middle : FileTree} (hmiddle : options.Accumulates tree done middle)
    {batches : List (List Target)} (hperm : (done ++ batches.flatten).Perm targets)
    (hapart : (done ++ batches.flatten).Pairwise options.Apart) :
    (∀ front batch rest, batches = front ++ batch :: rest →
        (options.runOn (options.treeAfter middle front) batch).2 = none) ∧
      options.Accumulates tree (done ++ batches.flatten) (options.treeAfter middle batches) := by
  induction batches generalizing done middle with
  | nil =>
    refine ⟨fun front batch rest hsplit => by simp at hsplit, ?_⟩
    rw [List.flatten_nil, List.append_nil]
    exact hmiddle
  | cons batch rest ih =>
    rw [List.flatten_cons, ← List.append_assoc] at hperm hapart
    have hsubset : done ++ batch ⊆ targets :=
      fun target hmem => hperm.subset (List.mem_append_left _ hmem)
    obtain ⟨hdone, hbatch⟩ := List.append_subset.1 hsubset
    have hbetween : Between tree last middle := h.between.grows hmiddle.grows
      (fun location hlocation => h.accumulates.directory location (hlocation.mono hdone))
      fun location hlocation => h.accumulates.exists_file
        (hlocation.imp (fun h => h.mono hdone) fun h => h.mono hdone)
    have hrun := h.runOn hbetween hbatch
    have hnext := hmiddle.runOn (fun target hmem => h.slash target (hsubset hmem))
      (List.pairwise_append.1 hapart).1 (Prod.ext rfl hrun : options.runOn middle batch = (_, none))
    obtain ⟨hall, hlast⟩ := ih hnext hperm hapart
    refine ⟨fun front other others hsplit => ?_, ?_⟩
    · rcases List.cons_eq_append_iff.1 hsplit with ⟨rfl, hsame⟩ | ⟨more, rfl, hmore⟩
      · obtain ⟨rfl, -⟩ := List.cons.inj hsame
        exact hrun
      · exact hall more other others hmore
    · rw [List.flatten_cons, ← List.append_assoc]
      exact hlast

/-- If one run over all targets ends well, so do runs over batches of them in any order, and they
leave the same file tree.  It does not matter from which file a run reads its batch. -/
theorem runOn_batches {batches : List (List Target)} (hslash : options.NoSlash targets)
    (hapart : targets.Pairwise options.Apart) (hwhole : (options.runOn tree targets).2 = none)
    (hperm : batches.flatten.Perm targets) :
    (∀ file tree list, { options with inputFile := file }.readInput tree = .ok ⟨list⟩ →
        { options with inputFile := file }.run tree = options.runOn tree list) ∧
      (∀ front batch rest, batches = front ++ batch :: rest →
        (options.runOn (options.treeAfter tree front) batch).2 = none) ∧
      options.treeAfter tree batches = (options.runOn tree targets).1.tree := by
  have hcompletes := completes_of_runOn hslash hapart
    (Prod.ext rfl hwhole : options.runOn tree targets = (_, none))
  obtain ⟨hall, hlast⟩ := hcompletes.treeAfter (Accumulates.nil options tree) hperm
    ((hperm.pairwise_iff Apart.symm).2 hapart)
  exact ⟨fun _ _ _ => run_eq_runOn, hall,
    hcompletes.accumulates.unique (hlast.of_mem_iff fun target => hperm.mem_iff.symm)⟩

/-- Another class in the package of the store. -/
def emptyGreeter : Target := emptyTarget "com.Greeter" "Greeter"

theorem runOn_batches_greeter :
    crateOptions.NoSlash [emptyGreeter, storeTarget] ∧
      [emptyGreeter, storeTarget].Pairwise crateOptions.Apart ∧
      (crateOptions.runOn .empty [emptyGreeter, storeTarget]).2 = none ∧
      [[storeTarget], [emptyGreeter]].flatten.Perm [emptyGreeter, storeTarget] ∧
      crateOptions.treeAfter .empty [[storeTarget], [emptyGreeter]] =
        (crateOptions.runOn .empty [emptyGreeter, storeTarget]).1.tree := by
  have hslash : crateOptions.NoSlash [emptyGreeter, storeTarget] := by
    intro target hmem unit hunit
    rcases List.mem_cons.1 hmem with rfl | hmem
    · obtain rfl := Except.ok.inj hunit
      exact ⟨by decide, by decide⟩
    · exact noSlash_storeTarget target hmem unit hunit
  have hapart : crateOptions.Apart emptyGreeter storeTarget := by
    intro unit path text other otherPath otherText hmakes hother
    obtain rfl := Except.ok.inj hmakes.forwarder
    obtain rfl := Except.ok.inj hother.forwarder
    have hpath : crateOptions.backend.classPath crateOptions.outputDir ⟨"com", "GreeterImpl"⟩ =
        .ok ⟨["out", "com", "greeter_impl.rs"]⟩ := by decide +kernel
    have hotherPath : crateOptions.backend.classPath crateOptions.outputDir ⟨"com", "StoreImpl"⟩ =
        .ok ⟨["out", "com", "store_impl.rs"]⟩ := by decide +kernel
    obtain rfl := Except.ok.inj (hpath.symm.trans hmakes.classPath)
    obtain rfl := Except.ok.inj (hotherPath.symm.trans hother.classPath)
    decide
  have hpairwise : [emptyGreeter, storeTarget].Pairwise crateOptions.Apart :=
    List.pairwise_pair.2 hapart
  have hwhole : (crateOptions.runOn .empty [emptyGreeter, storeTarget]).2 = none :=
    Option.isNone_iff_eq_none.1 (by decide +kernel)
  have hperm : [[storeTarget], [emptyGreeter]].flatten.Perm [emptyGreeter, storeTarget] :=
    List.Perm.swap emptyGreeter storeTarget []
  obtain ⟨-, -, hsame⟩ := runOn_batches hslash hpairwise hwhole hperm
  exact ⟨hslash, hpairwise, hwhole, hperm, hsame⟩

end Options

end Forwarding
