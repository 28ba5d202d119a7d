import Forwarding.Proofs.Run.Acceptance
import Forwarding.Proofs.Run.Declarations
import Forwarding.Proofs.Run.KeepGoing

/-!
# Targets that fail beside others

In a fresh output directory no class stands in the way of another one, so a target does not end a
run among others exactly if it does not end a run alone.  But a target that does end it, for a name
that is no identifier or at a file, ends it for all that come later, even if the run is to keep
going.

* `Options.Spread`: what classes add to a fresh output directory;
* `Options.Spread.runTarget_eq_none_iff`: the classes that are there do not matter;
* `Options.read_of_keepGoing_iff`: a target that succeeds alone has its class after a run that
  keeps going exactly if all targets before it succeed alone or have malformed names;
* `Options.keepGoing_stops`: a class that is not written because of the one before it.
-/

namespace Forwarding

open FileTree Text

/-! ### Names of directories and of files -/

theorem Backend.dot_not_mem_directories {backend : Backend} {name : ClassName} {directory : String}
    (h : directory ∈ backend.directories name) : '.' ∉ directory.toList := by
  obtain ⟨segment, hsegment, rfl⟩ := List.mem_map.1 h
  have hdot := (ClassName.of_mem_packageSegments hsegment).2.1
  cases backend with
  | java => exact hdot
  | rust => exact fun hmem => hdot (mem_of_mem_safeName hmem (by decide))

theorem Backend.dot_mem_fileName {backend : Backend} {simpleName file : String}
    (h : backend.fileName simpleName = .ok file) : '.' ∈ file.toList := by
  obtain ⟨stem, -, rfl⟩ := fileName_eq_ok_iff.1 h
  rw [String.toList_append]
  refine List.mem_append_right _ ?_
  cases backend <;> decide

namespace Options

variable {options : Options} {tree later : FileTree}

/-! ### Classes side by side -/

/-- What classes add to a fresh output directory: directories whose names have no dot, and files
whose names have one.  If anything was added, the way to the output directory could be paved. -/
structure Spread (options : Options) (tree later : FileTree) : Prop where
  grows : Grows
    (fun location => ∃ names : List String, (∀ name ∈ names, '.' ∉ name.toList) ∧
      OnWay tree.workDir (options.outputDir.components ++ names.map .named) location)
    (fun location => ∃ (names : List String) (file : String), '.' ∈ file.toList ∧
      location = options.outputDir.location tree.workDir ++ names ++ [file]) tree later
  base : later = tree ∨ ∃ base,
    tree.pave (tree.start options.outputDir) options.outputDir.components = some base

theorem Spread.refl (options : Options) (tree : FileTree) : options.Spread tree tree :=
  ⟨.refl _ _ _, Or.inl rfl⟩

/-- The classes that are there do not matter for whether another one is accepted. -/
theorem Spread.accepts_iff (h : options.Spread tree later) (hvacant : options.IsVacant tree)
    {path : Path} {names : List String} {file : String}
    (hcomponents : path.components =
      options.outputDir.components ++ names.map .named ++ [.named file])
    (hnames : ∀ name ∈ names, '.' ∉ name.toList) (hfile : '.' ∈ file.toList) :
    later.Accepts path ↔ tree.Accepts path := by
  have hlocation := location_file tree.workDir hcomponents
  have hdropLast : path.components.dropLast =
      options.outputDir.components ++ names.map .named := by
    rw [hcomponents, List.dropLast_concat]
  constructor
  · intro haccepts
    rcases h.base with rfl | ⟨base, hbase⟩
    · exact haccepts
    · exact haccepts.of_grows h.grows hcomponents hbase
  · intro haccepts
    obtain ⟨made, hmade, -⟩ := haccepts.way
    refine haccepts.of_directories h.grows.workDir (fun _ => h.grows.look_directory)
      (fun place hway text hlook => ?_) fun hlook => ?_
    · rw [hdropLast] at hway
      rcases h.grows.look place with hsame | ⟨-, -, hdirectory⟩ | ⟨⟨others, other, hdot, rfl⟩, -⟩
      · -- a file that was there before would keep the class from being accepted
        have hthere : tree.look place = some (.file text) := hsame.symm.trans hlook
        have hstays : made.look place = tree.look place :=
          look_pave_of_ne_none hmade (by simp [hthere])
        rw [look_pave_of_onWay hmade ((tree.onWay_start_iff (List.dropLast_prefix _)).2
          (hdropLast ▸ hway)), hthere] at hstays
        cases hstays
      · rw [hlook] at hdirectory
        cases hdirectory
      · rw [List.append_assoc] at hway
        have hfront := hvacant.isPrefix_of_onWay (by simp) hway
        exact hnames other (hfront.subset (by simp)) hdot
    · rw [hlocation, List.append_assoc] at hlook
      rcases h.grows.look _ with hsame | ⟨⟨others, hothers, hway⟩, -⟩ | ⟨-, -, text, htext⟩
      · rw [hsame, hvacant.look _ (by simp)] at hlook
        cases hlook
      · have hfront := hvacant.isPrefix_of_onWay (by simp) hway
        exact hothers file (hfront.subset (by simp)) hfile
      · rw [htext] at hlook
        cases hlook

/-- Nor for whether another target ends the run. -/
theorem Spread.runTarget_eq_none_iff (h : options.Spread tree later)
    (hvacant : options.IsVacant tree) {target : Target} (hslash : options.NoSlash [target])
    {progress : Progress} (hprogress : progress.tree = later) :
    (options.runTarget progress target).2 = none ↔
      (options.runTarget { tree } target).2 = none := by
  rw [runTarget_snd_eq_none_iff, runTarget_snd_eq_none_iff, hprogress]
  refine or_congr_right (exists₂_congr fun unit path => exists_congr fun text =>
    and_congr_right fun hmakes => ?_)
  obtain ⟨file, hfile, -, hcomponents⟩ := hmakes.components List.mem_cons_self hslash
  exact h.accepts_iff hvacant hcomponents (fun _ => Backend.dot_not_mem_directories)
    (Backend.dot_mem_fileName hfile)

/-- A target that does not end the run adds its class. -/
theorem Spread.runTarget (h : options.Spread tree later) (hvacant : options.IsVacant tree)
    {target : Target} (hslash : options.NoSlash [target]) {progress next : Progress}
    (hprogress : progress.tree = later) (hstep : options.runTarget progress target = (next, none)) :
    options.Spread tree next.tree := by
  rcases runTarget_eq_none hstep with ⟨-, -, htree, -⟩ | ⟨unit, path, text, hmakes, -, -, hgrows, -⟩
  · rwa [htree, hprogress]
  · obtain ⟨file, hfile, -, hcomponents⟩ := hmakes.components List.mem_cons_self hslash
    have haccepts := ((h.accepts_iff hvacant hcomponents
      (fun _ => Backend.dot_not_mem_directories) (Backend.dot_mem_fileName hfile)).1
        (hprogress ▸ (hmakes.runTarget_eq_none_iff progress).1 (by rw [hstep])))
    rw [hprogress, h.grows.workDir] at hgrows
    refine ⟨h.grows.trans (hgrows.mono (fun location hway => ?_) fun location hlocation => ?_),
      Or.inr (haccepts.exists_base hcomponents).2⟩
    · rw [hcomponents, List.dropLast_concat] at hway
      exact ⟨_, fun _ => Backend.dot_not_mem_directories, hway⟩
    · exact ⟨_, file, Backend.dot_mem_fileName hfile, hlocation.trans (location_file _ hcomponents)⟩

/-- So all targets come to their end exactly if each does alone. -/
theorem Spread.runTargets_eq_none_iff (h : options.Spread tree later)
    (hvacant : options.IsVacant tree) {targets : List Target} (hslash : options.NoSlash targets)
    {progress : Progress} (hprogress : progress.tree = later) :
    ((options.runTargets progress targets).2 = none ↔
        ∀ other ∈ targets, (options.runTarget { tree } other).2 = none) ∧
      ((options.runTargets progress targets).2 = none →
        options.Spread tree (options.runTargets progress targets).1.tree) := by
  induction targets generalizing progress later with
  | nil => exact ⟨by simp [runTargets], fun _ => hprogress ▸ h⟩
  | cons target rest ih =>
    have hfirst : options.NoSlash [target] := fun other hother =>
      hslash other (List.mem_singleton.1 hother ▸ List.mem_cons_self)
    have hrest : options.NoSlash rest := fun other hother =>
      hslash other (List.mem_cons_of_mem target hother)
    have hiff := h.runTarget_eq_none_iff hvacant hfirst hprogress
    rw [List.forall_mem_cons, ← hiff, runTargets]
    rcases hstep : options.runTarget progress target with ⟨next, _ | failure⟩
    · obtain ⟨hall, hspread⟩ := ih (h.runTarget hvacant hfirst hprogress hstep) hrest rfl
      exact ⟨by simpa using hall, hspread⟩
    · simp

/-! ### Whole runs -/

/-- A target that ends a run well is one with a class, whose file is accepted. -/
theorem accepts_of_runOn {target : Target} (h : (options.runOn tree [target]).2 = none) :
    ∃ unit path text, options.Makes target unit path text ∧ tree.Accepts path := by
  obtain ⟨classes, hclasses, -, hmakes⟩ :=
    runAll_makes (Prod.ext rfl h : options.runAll _ [target] = (_, none)) rfl
  obtain ⟨unit, path, text, hmakes⟩ := hmakes target List.mem_cons_self
  obtain ⟨next, hstep, -⟩ := runTargets_cons_eq_none.1 hclasses
  exact ⟨unit, path, text, hmakes, (hmakes.runTarget_eq_none_iff _).1 (by rw [hstep])⟩

section Apart

variable {progress : Progress} {target : Target} {before after : List Target} {unit : Forwarder}
  {path : Path} {text : String}

/-- If no target before it ends the run, a target leaves the text of its class where no later one
has its place. -/
theorem look_of_before_end (hslash : options.NoSlash (before ++ target :: after))
    (hvacant : options.IsVacant progress.tree)
    (hapart : ∀ other ∈ after, options.Apart target other)
    (hmakes : options.Makes target unit path text) (haccepts : progress.tree.Accepts path)
    (hall : ∀ other ∈ before, (options.runTarget { tree := progress.tree } other).2 = none) :
    let classes := (options.runTargets progress (before ++ target :: after)).1
    classes.tree.walk path = .ok (path.location progress.tree.workDir) ∧
      classes.tree.look (path.location progress.tree.workDir) = some (.file text) := by
  intro classes
  have hmem : target ∈ before ++ target :: after := by simp
  have hself : options.NoSlash [target] := fun other hother =>
    hslash other (List.mem_singleton.1 hother ▸ hmem)
  have hbefore : options.NoSlash before := fun other hother =>
    hslash other (List.mem_append_left _ hother)
  obtain ⟨hiff, hspread⟩ :=
    (Spread.refl options progress.tree).runTargets_eq_none_iff hvacant hbefore rfl
  have hstart := hspread (hiff.2 hall)
  have halone := (hmakes.runTarget_eq_none_iff { tree := progress.tree }).2 haccepts
  have hclasses : classes = (options.runTargets progress (before ++ target :: after)).1 := rfl
  rcases hfront : options.runTargets progress before with ⟨start, failure⟩
  obtain rfl : failure = none := by simpa [hfront] using hiff.2 hall
  rw [hfront] at hstart
  have hstep := (hstart.runTarget_eq_none_iff hvacant hself rfl).2 halone
  rcases hnext : options.runTarget start target with ⟨next, failure⟩
  obtain rfl : failure = none := by rwa [hnext] at hstep
  rw [runTargets_append, hfront] at hclasses
  dsimp only at hclasses
  rw [runTargets, hnext] at hclasses
  dsimp only at hclasses
  rcases runTarget_eq_none hnext with ⟨⟨fault, hfault⟩, -⟩ |
    ⟨otherUnit, otherPath, otherText, hother, -, -, hgrows, hwalk, hlook⟩
  · cases hfault.symm.trans hmakes.forwarder
  · obtain ⟨rfl, rfl, rfl⟩ := hmakes.unique hother
    have hlast := options.runTargets_grows next after
    rw [← hclasses, hgrows.workDir, hstart.grows.workDir] at hlast
    rw [hstart.grows.workDir] at hwalk hlook
    have hlater := not_classFile_of_apart hslash hmem (fun other hother => by simp [hother]) hapart
      hmakes progress.tree.workDir
    exact ⟨hlast.walk hwalk, hlast.look_of_not_mem hlook hlater⟩

/-- If one of the targets before it ends the run, there is no file where a target has its place. -/
theorem look_of_one_ends (hslash : options.NoSlash (before ++ target :: after))
    (hvacant : options.IsVacant progress.tree)
    (hapart : ∀ other ∈ before, options.Apart target other)
    (hmakes : options.Makes target unit path text)
    (hends : ∃ other ∈ before, (options.runTarget { tree := progress.tree } other).2 ≠ none)
    (found : String) :
    (options.runTargets progress (before ++ target :: after)).1.tree.look
      (path.location progress.tree.workDir) ≠ some (.file found) := by
  have hmem : target ∈ before ++ target :: after := by simp
  have hbefore : options.NoSlash before := fun other hother =>
    hslash other (List.mem_append_left _ hother)
  obtain ⟨hiff, -⟩ :=
    (Spread.refl options progress.tree).runTargets_eq_none_iff hvacant hbefore rfl
  have hgrows := options.runTargets_grows progress before
  rw [runTargets_append]
  rcases hfront : options.runTargets progress before with ⟨start, _ | failure⟩
  · obtain ⟨other, hother, hnot⟩ := hends
    exact absurd (hiff.1 (by rw [hfront]) other hother) hnot
  · rw [hfront] at hgrows
    rw [ne_eq, hgrows.look_file_iff (not_classFile_of_apart hslash hmem
      (List.subset_append_left before _) hapart hmakes _)]
    obtain ⟨file, -, -, hcomponents⟩ := hmakes.components hmem hslash
    rw [location_file _ hcomponents, List.append_assoc, hvacant.look _ (by simp)]
    simp

/-- The class can be read as soon as no target before it ends the run, and stays while no file is
written at its place. -/
theorem read_of_apart_iff (hslash : options.NoSlash (before ++ target :: after))
    (hvacant : options.IsVacant progress.tree)
    (hapart : ∀ other ∈ before ++ after, options.Apart target other)
    (hmakes : options.Makes target unit path text) (haccepts : progress.tree.Accepts path)
    {files : Location → Prop} {last : FileTree}
    (hlast : Grows (fun _ => False) files
      (options.runTargets progress (before ++ target :: after)).1.tree last)
    (hfiles : ¬ files (path.location progress.tree.workDir)) :
    last.read path = .ok text ↔
      ∀ other ∈ before, (options.runTarget { tree := progress.tree } other).2 = none := by
  obtain ⟨hbefore, hafter⟩ := List.forall_mem_append.1 hapart
  rw [read_eq_ok_iff]
  constructor
  · rintro ⟨location, hwalk, hlook⟩
    have hlocation := walk_eq_ok hwalk
    rw [hlast.workDir, (options.runTargets_grows progress _).workDir] at hlocation
    rw [hlocation, hlast.look_file_iff hfiles] at hlook
    by_contra hends
    push Not at hends
    exact look_of_one_ends hslash hvacant hbefore hmakes hends text hlook
  · intro hall
    obtain ⟨hwalk, hlook⟩ := look_of_before_end hslash hvacant hafter hmakes haccepts hall
    exact ⟨_, hlast.walk hwalk, hlast.look_of_not_mem hlook hfiles⟩

end Apart

/-- To keep going is not to be ended by malformed names. -/
theorem forall_runTarget_eq_none_iff (hkeep : options.keepGoing = true) {targets : List Target}
    {progress : Progress} :
    (∀ target ∈ targets, (options.runTarget progress target).2 = none) ↔
      ∀ target ∈ targets, target.isWellNamed = true →
        (options.runTarget progress target).2 = none := by
  refine forall₂_congr fun target _ => ⟨fun h _ => h, fun h => ?_⟩
  by_cases hname : target.isWellNamed = true
  · exact h hname
  · obtain ⟨fault, hfault⟩ := Target.isWellNamed_eq_false_iff.1 (Bool.not_eq_true _ ▸ hname)
    rw [runTarget_malformed hkeep hfault]

/-- A target that succeeds alone in a fresh output directory, and shares its file with no other, has
its class after a run that keeps going exactly if no target before it with a well-formed name would
end a run.  Only a module root can take the place of the class in the end. -/
theorem read_of_keepGoing_iff {descriptor : Descriptor} {target : Target}
    {before after : List Target} (hkeep : options.keepGoing = true)
    (hread : options.readInput tree = .ok descriptor)
    (htargets : descriptor.interfaces = before ++ target :: after)
    (hslash : options.NoSlash descriptor.interfaces) (hvacant : options.IsVacant tree)
    (halone : (options.runOn tree [target]).2 = none)
    (hapart : ∀ other ∈ before ++ after, options.Apart target other) :
    ∃ unit path text names file, options.Makes target unit path text ∧
      path.components = options.outputDir.components ++ names.map .named ++ [.named file] ∧
      ((options.runTargets { tree, log := [.debug "Reading input"] }
          descriptor.interfaces).1.tree.read path = .ok text ↔
        ∀ other ∈ before, other.isWellNamed = true →
          (options.runTarget { tree } other).2 = none) ∧
      (file ≠ rootFile names →
        ((options.run tree).1.tree.read path = .ok text ↔
          ∀ other ∈ before, other.isWellNamed = true →
            (options.runTarget { tree } other).2 = none)) := by
  rw [run_eq_runAll hread]
  rw [htargets] at hslash ⊢
  have hself : options.NoSlash [target] := fun other hother =>
    hslash other (by simp [List.mem_singleton.1 hother])
  obtain ⟨unit, path, text, hmakes, haccepts⟩ := accepts_of_runOn halone
  obtain ⟨file, -, -, hcomponents⟩ := hmakes.components List.mem_cons_self hself
  rw [← forall_runTarget_eq_none_iff hkeep]
  let start : Progress := { tree, log := [.debug "Reading input"] }
  have hreads : ∀ {files : Location → Prop} {last : FileTree},
      Grows (fun _ => False) files (options.runTargets start (before ++ target :: after)).1.tree
        last → ¬ files (path.location tree.workDir) →
      (last.read path = .ok text ↔
        ∀ other ∈ before, (options.runTarget { tree } other).2 = none) := fun hlast hfiles =>
    read_of_apart_iff hslash (show options.IsVacant start.tree from hvacant) hapart hmakes
      haccepts hlast hfiles
  refine ⟨unit, path, text, _, file, hmakes, hcomponents,
    hreads (.refl _ (fun _ => False) _) id, fun hroot => ?_⟩
  rcases options.runAll_cases start (before ++ target :: after) with
    ⟨failure, -, hall⟩ | ⟨classes, hclasses, hroots⟩
  · rw [hall]
    exact hreads (.refl _ (fun _ => False) _) id
  · have hruns := runTargets_runsTargets hclasses
    refine hreads (by rwa [hclasses]) ?_
    rintro ⟨directory, hdirectory, hlocation⟩
    -- only the module root of its own directory is where the class is
    obtain ⟨-, names, -, front, -, -, hroots⟩ :=
      rootFile_of_mem_rootDirectories hslash hruns rfl hdirectory classes.tree.workDir
    rw [hroots, hruns.grows.workDir, location_file _ hcomponents] at hlocation
    obtain ⟨hfront, rfl⟩ := List.append_singleton_inj.1 hlocation
    exact hroot (by rw [List.append_cancel_left hfront])

/-- A run into the crate at `out` that is to keep going. -/
def keepingCrateOptions : Options := { crateOptions with keepGoing := true }

theorem isVacant_input_keeping (text : String) :
    keepingCrateOptions.IsVacant (FileTree.empty.put ["in"] (.file text)) :=
  (isVacant_input text).of_outputDir rfl

/-- A target with a malformed name. -/
def brokenTarget : Target := { interface := ⟨"A", "B", []⟩, delegate := ⟨"", "D", "d"⟩ }

/-- The tree of a run that is told of this target and of another one after it. -/
def brokenTree : FileTree :=
  FileTree.empty.put ["in"] (.file ("\x7b\"interfaces\":[" ++
    "\x7b\"qualifiedName\":\"A\",\"simpleName\":\"B\",\"members\":[]," ++
    "\"delegate\":[\"\",\"D\",\"d\"]\x7d," ++
    "\x7b\"qualifiedName\":\"com.Store\",\"simpleName\":\"Store\",\"members\":[]," ++
    "\"delegate\":[\"com\",\"Memory\",\"store\"]\x7d]\x7d"))

theorem read_of_keepGoing_iff_broken :
    keepingCrateOptions.keepGoing = true ∧
      keepingCrateOptions.readInput brokenTree = .ok ⟨[brokenTarget, storeTarget]⟩ ∧
      keepingCrateOptions.NoSlash [brokenTarget, storeTarget] ∧
      keepingCrateOptions.IsVacant brokenTree ∧
      (keepingCrateOptions.runOn brokenTree [storeTarget]).2 = none ∧
      keepingCrateOptions.Apart storeTarget brokenTarget ∧
      ∃ unit path text, keepingCrateOptions.Makes storeTarget unit path text ∧
        (keepingCrateOptions.run brokenTree).1.tree.read path = .ok text := by
  have hread : keepingCrateOptions.readInput brokenTree = .ok ⟨[brokenTarget, storeTarget]⟩ :=
    toOption_eq_some_iff.1 (by decide +kernel)
  have hslash : keepingCrateOptions.NoSlash [brokenTarget, storeTarget] := by
    intro target hmem unit hunit
    rcases List.mem_cons.1 hmem with rfl | hmem
    · cases hunit
    · exact noSlash_storeTarget target hmem unit hunit
  have halone : (keepingCrateOptions.runOn brokenTree [storeTarget]).2 = none :=
    Option.isNone_iff_eq_none.1 (by decide +kernel)
  have hapart : keepingCrateOptions.Apart storeTarget brokenTarget := by
    intro unit path text other otherPath otherText _ hother
    cases hother.forwarder
  have hsplit : [brokenTarget, storeTarget] = [brokenTarget] ++ storeTarget :: [] := rfl
  obtain ⟨unit, path, text, names, file, hmakes, hcomponents, -, hstays⟩ :=
    read_of_keepGoing_iff rfl hread hsplit hslash (isVacant_input_keeping _) halone
      (by simpa using hapart)
  refine ⟨rfl, hread, hslash, isVacant_input_keeping _, halone, hapart, unit, path, text, hmakes,
    (hstays fun hroot => ?_).2 fun other hother hname => ?_⟩
  · -- the class stands in `store_impl.rs`, which is no module root
    obtain ⟨stem, -, hplace, hsame⟩ := hmakes.components List.mem_cons_self noSlash_storeTarget
    obtain rfl : stem = "store_impl.rs" := (isPlace_storeTarget_iff.1 hplace).2
    obtain rfl := Component.named.inj
      (List.append_singleton_inj.1 (hcomponents.symm.trans hsame)).2
    rcases rootFile_cases names with h | h
    · exact absurd (hroot.trans h) (by decide)
    · exact absurd (hroot.trans h) (by decide)
  · obtain rfl := List.mem_singleton.1 hother
    exact absurd hname (by decide)

/-- An interface with a method whose name in snake case is a number. -/
def numberedTarget : Target :=
  { interface := ⟨"N", "N", [.method ⟨"_1", ⟨"void", false⟩, []⟩]⟩, delegate := ⟨"", "D", "d"⟩ }

/-- The tree of a run that is told of this interface and of another one after it. -/
def numberedTree : FileTree :=
  FileTree.empty.put ["in"] (.file ("\x7b\"interfaces\":[" ++
    "\x7b\"qualifiedName\":\"N\",\"simpleName\":\"N\",\"members\":[" ++
    "\x7b\"kind\":\"method\",\"name\":\"_1\",\"returnType\":\x7b\"type\":\"void\"\x7d\x7d]," ++
    "\"delegate\":[\"\",\"D\",\"d\"]\x7d," ++
    "\x7b\"qualifiedName\":\"com.Store\",\"simpleName\":\"Store\",\"members\":[]," ++
    "\"delegate\":[\"com\",\"Memory\",\"store\"]\x7d]\x7d"))

/-- A method whose name is no identifier ends the run, and the class of the next target, which would
be written alone, is not. -/
theorem keepGoing_stops :
    keepingCrateOptions.keepGoing = true ∧
      keepingCrateOptions.readInput numberedTree = .ok ⟨[numberedTarget, storeTarget]⟩ ∧
      keepingCrateOptions.IsVacant numberedTree ∧
      (keepingCrateOptions.runOn numberedTree [storeTarget]).2 = none ∧
      (keepingCrateOptions.runOn numberedTree [storeTarget]).1.tree.look
        ["out", "com", "store_impl.rs"] ≠ none ∧
      (keepingCrateOptions.run numberedTree).2.bind Failure.message? =
        some "Ident cannot be a number; use Literal instead" ∧
      (keepingCrateOptions.run numberedTree).1.tree.look ["out", "com", "store_impl.rs"] =
        none := by
  have hread : keepingCrateOptions.readInput numberedTree =
      .ok ⟨[numberedTarget, storeTarget]⟩ := toOption_eq_some_iff.1 (by decide +kernel)
  rw [run_eq_runAll hread, ← Option.isNone_iff_eq_none]
  exact ⟨rfl, hread, isVacant_input_keeping _, by decide +kernel⟩

end Options

end Forwarding
