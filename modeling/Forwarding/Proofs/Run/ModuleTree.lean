import Forwarding.Proofs.Crate.Layout
import Forwarding.Proofs.Crate.ModuleName
import Forwarding.Proofs.Run.Steps

/-!
# The module tree of a crate

Each directory on the way to a class of a crate has a module root, which declares exactly what the
directory holds.  A declaration leads to the file or directory that has the name of its identifier,
so the class is reached from `lib.rs` exactly if its file and all directories on the way to it have
names that identifiers can have.

* `Declares`: declarations of exactly what a directory holds;
* `ReachesRoot`, `ReachesFile`: what is reached from `lib.rs` by declarations;
* `Options.IsPlace`: the directories and the file of a class;
* `Options.mem_moduleDirs_iff_isPlace`: the directories with module roots are those on the way to
  the places;
* `Options.LeavesCrate`, `Options.RootsDeclare`: what a run leaves in its crate, and what the module
  roots there declare;
* `Options.LeavesCrate.reachesFile_iff`: when the file of a class is reached;
* `Options.moduleTree_complete`: the module tree that a run leaves;
* `Options.crateFile_unreached`: a class that is not reached.
-/

namespace Forwarding

open FileTree

/-- The file of a module root in the directory with these names under the output directory. -/
def rootFile (front : List String) : String := if front = [] then "lib.rs" else "mod.rs"

theorem rootFile_cases (front : List String) :
    rootFile front = "lib.rs" ∨ rootFile front = "mod.rs" := by
  unfold rootFile
  split_ifs <;> simp

theorem rootFile_concat (front : List String) (name : String) :
    rootFile (front ++ [name]) = "mod.rs" := if_neg (by simp)

/-! ### Declarations of what a directory holds -/

/-- The declarations are of exactly what the directory holds, by name and a directory before a file
of the same name, in whatever order the directory is gone through. -/
def Declares (tree : FileTree) (directory : Location) (declarations : List Declaration) : Prop :=
  ∃ entries,
    List.Forall₂ (fun entry declaration => declaration.IsOf entry) entries declarations ∧
    (∀ entry, entry ∈ entries ↔ tree.Holds directory entry) ∧
    entries.Pairwise (fun a b =>
      a.name < b.name ∨ a.name = b.name ∧ a.isFile = false ∧ b.isFile = true) ∧
    ∀ children : List (String × Node), children.Perm (tree.children directory) →
      entries = ascending Entry.compare (children.filterMap entryOf)

theorem Entry.compare_eq_lt {a b : Entry} (h : a.compare b = .lt) :
    a.name < b.name ∨ a.name = b.name ∧ a.isFile = false ∧ b.isFile = true := by
  rw [compare, Ordering.then_eq_lt] at h
  rcases h with h | ⟨hname, h⟩
  · exact Or.inl (compareOfLessAndEq_eq_lt.1 h)
  · refine Or.inr ⟨Std.LawfulEqCmp.eq_of_compare hname, ?_⟩
    revert h
    cases a.isFile <;> cases b.isFile <;> decide

/-- The text of a module root declares exactly what its directory holds. -/
theorem exists_declares {tree : FileTree} {directory : Location} {text : String}
    (h : moduleSource (tree.listing directory) = .ok text) :
    ∃ declarations, Declares tree directory declarations ∧ text = moduleText declarations := by
  obtain ⟨declarations, hdeclarations, htext⟩ := moduleSource_eq_ok_iff.1 h
  exact ⟨declarations, ⟨_, hdeclarations, fun _ => mem_listing,
    (ascends_listing tree directory).imp Entry.compare_eq_lt, fun _ => listing_eq_of_perm⟩, htext⟩

namespace Declares

variable {tree : FileTree} {directory : Location} {declarations : List Declaration}

theorem exists_of_holds (h : Declares tree directory declarations) {entry : Entry}
    (hentry : tree.Holds directory entry) :
    ∃ declaration ∈ declarations, declaration.IsOf entry := by
  obtain ⟨entries, hdeclarations, hmem, -⟩ := h
  exact exists_of_mem_left hdeclarations ((hmem entry).2 hentry)

/-- What is declared has a name that identifiers have. -/
theorem isModuleName (h : Declares tree directory declarations) {declaration : Declaration}
    (hmem : declaration ∈ declarations) : IsModuleName declaration.ident.name := by
  obtain ⟨entries, hdeclarations, -⟩ := h
  obtain ⟨entry, -, hof⟩ := exists_of_mem_right hdeclarations hmem
  exact Ident.isModuleName_of_ofName hof.ident

/-- What is in the directory under a name that identifiers have is declared under this name. -/
theorem exists_name (h : Declares tree directory declarations) {entry : Entry}
    (hentry : tree.Holds directory entry) (hname : IsModuleName entry.name) :
    ∃ declaration ∈ declarations, declaration.ident.name = entry.name := by
  obtain ⟨declaration, hmem, hof⟩ := h.exists_of_holds hentry
  obtain ⟨ident, hident, hsame⟩ := Ident.isModuleName_iff.1 hname
  obtain rfl := Except.ok.inj (hident.symm.trans hof.ident)
  exact ⟨declaration, hmem, hsame⟩

end Declares

/-! ### What is reached -/

/-- The module root of the directory with these names is reached from `lib.rs`: it is a file, and a
module root that is reached declares a module of its directory's name. -/
inductive ReachesRoot (tree : FileTree) (crate : Location)
    (declared : List String → List Declaration) : List String → Prop
  | crate {text : String} : tree.look (crate ++ ["lib.rs"]) = some (.file text) →
      ReachesRoot tree crate declared []
  | descend {front : List String} {declaration : Declaration} {text : String} :
      ReachesRoot tree crate declared front → declaration ∈ declared front →
      tree.look (crate ++ front ++ [declaration.ident.name, "mod.rs"]) = some (.file text) →
      ReachesRoot tree crate declared (front ++ [declaration.ident.name])

/-- The file in the directory with these names is reached from `lib.rs`: it is a file, and a module
root that is reached declares a module of its name. -/
structure ReachesFile (tree : FileTree) (crate : Location)
    (declared : List String → List Declaration) (front : List String) (stem : String) : Prop where
  root : ReachesRoot tree crate declared front
  declaration : ∃ declaration ∈ declared front, declaration.ident.name = stem
  file : ∃ text, tree.look (crate ++ front ++ [stem ++ ".rs"]) = some (.file text)

namespace Options

variable {options : Options}

/-! ### Places of classes -/

/-- One of the targets has its class in the directories with these names under the output directory,
in this file. -/
def IsPlace (options : Options) (targets : List Target) (names : List String) (file : String) :
    Prop :=
  ∃ target ∈ targets, ∃ unit, target.forwarder options.suffix = .ok unit ∧
    names = options.backend.directories unit.name ∧
    options.backend.fileName unit.name.simpleName = .ok file

/-- The names of all classes of the targets have no slash. -/
def NoSlash (options : Options) (targets : List Target) : Prop :=
  ∀ target ∈ targets, ∀ unit, target.forwarder options.suffix = .ok unit → unit.name.NoSlash

/-- The path of a class leads to its place. -/
theorem Makes.components {target : Target} {targets : List Target} {unit : Forwarder} {path : Path}
    {text : String} (h : options.Makes target unit path text) (hmem : target ∈ targets)
    (hslash : options.NoSlash targets) :
    ∃ file, options.backend.fileName unit.name.simpleName = .ok file ∧
      options.IsPlace targets (options.backend.directories unit.name) file ∧
      path.components = options.outputDir.components ++
        (options.backend.directories unit.name).map .named ++ [.named file] := by
  obtain ⟨file, hfile, hcomponents⟩ :=
    Backend.components_classPath h.classPath (hslash target hmem unit h.forwarder)
  exact ⟨file, hfile, ⟨target, hmem, unit, h.forwarder, rfl, hfile⟩, hcomponents⟩

theorem location_directory {path outputDir : Path} {names : List String} (workDir : Location)
    (h : path.components = outputDir.components ++ names.map .named) :
    path.location workDir = outputDir.location workDir ++ names := by
  rw [Path.location, h, Location.along_append, Location.along_named]
  rfl

theorem location_file {path outputDir : Path} {names : List String} {file : String}
    (workDir : Location)
    (h : path.components = outputDir.components ++ names.map .named ++ [.named file]) :
    path.location workDir = outputDir.location workDir ++ names ++ [file] := by
  have hnames : path.components = outputDir.components ++ (names ++ [file]).map .named := by
    rw [h, List.map_append, ← List.append_assoc]
    rfl
  rw [location_directory workDir hnames, List.append_assoc]

section Crate

variable {progress classes last : Progress} {targets : List Target} {names : List String}
  {file : String}

/-- A place is that of a class which the run has written. -/
theorem IsPlace.exists_written (h : options.IsPlace targets names file)
    (hslash : options.NoSlash targets) (hclasses : options.RunsTargets progress targets classes) :
    ∃ path ∈ classes.written,
      path.components = options.outputDir.components ++ names.map .named ++ [.named file] ∧
      ∃ text, classes.tree.look (path.location progress.tree.workDir) = some (.file text) := by
  obtain ⟨target, hmem, unit, hunit, rfl, hfile⟩ := h
  obtain ⟨path, text, hmakes, -, hlook⟩ := hclasses.made target hmem unit hunit
  obtain ⟨other, hother, -, hcomponents⟩ := hmakes.components hmem hslash
  obtain rfl := Except.ok.inj (hother.symm.trans hfile)
  exact ⟨path, (hclasses.mem_written path).2 (Or.inr ⟨target, hmem, unit, text, hmakes⟩),
    hcomponents, hlook⟩

/-- The directories with module roots are those on the way from the output directory to the
places. -/
theorem mem_moduleDirs_iff_isPlace {steps : List Component} (hslash : options.NoSlash targets)
    (hclasses : options.RunsTargets progress targets classes) (hwritten : progress.written = []) :
    steps ∈ (moduleDirs options.outputDir classes.written).map Path.components ↔
      ∃ names file front, options.IsPlace targets names file ∧ front <+: names ∧
        steps = options.outputDir.components ++ front.map .named := by
  rw [mem_moduleDirs_iff]
  constructor
  · rintro ⟨path, hpath, hsteps⟩
    obtain hpath | ⟨target, hmem, unit, text, hmakes⟩ := (hclasses.mem_written path).1 hpath
    · rw [hwritten] at hpath
      cases hpath
    · obtain ⟨file, -, hplace, hcomponents⟩ := hmakes.components hmem hslash
      obtain ⟨front, hfront, rfl⟩ := (mem_ancestorsWithin_iff hcomponents).1 hsteps
      exact ⟨_, file, front, hplace, hfront, rfl⟩
  · rintro ⟨names, file, front, hplace, hfront, rfl⟩
    obtain ⟨path, hpath, hcomponents, -⟩ := hplace.exists_written hslash hclasses
    exact ⟨path, hpath, (mem_ancestorsWithin_iff hcomponents).2 ⟨front, hfront, rfl⟩⟩

theorem rootName_eq {directory : Path} {front : List String}
    (h : directory.components = options.outputDir.components ++ front.map .named) :
    options.rootName directory = rootFile front := by
  have hsame : directory.same options.outputDir = true ↔ front = [] := by
    rw [Path.same_iff, h, List.append_right_eq_self, List.map_eq_nil_iff]
  unfold rootName rootFile
  simp only [hsame]

/-- What a run leaves in the directories of its crate: the classes at their places, and on the way
to them the module roots that declare what the directories held after the classes were written. -/
structure LeavesCrate (options : Options) (tree : FileTree) (targets : List Target)
    (classes last : FileTree) : Prop where
  workDir : classes.workDir = tree.workDir
  place : ∀ names file, options.IsPlace targets names file →
    ∃ text, classes.look (options.outputDir.location tree.workDir ++ names ++ [file]) =
      some (.file text)
  root : ∀ names file front, options.IsPlace targets names file → front <+: names →
    classes.look (options.outputDir.location tree.workDir ++ front) = some .directory ∧
      ∃ text, moduleSource
          (classes.listing (options.outputDir.location tree.workDir ++ front)) = .ok text ∧
        last.look (options.outputDir.location tree.workDir ++ front ++ [rootFile front]) =
          some (.file (options.format text).2)
  grows : Grows
    (fun location => ∃ names file, options.IsPlace targets names file ∧
      OnWay tree.workDir (options.outputDir.components ++ names.map .named) location)
    (fun location => ∃ names file, options.IsPlace targets names file ∧
      location = options.outputDir.location tree.workDir ++ names ++ [file]) tree classes
  roots : Grows (fun _ => False)
    (fun location => ∃ names file front, options.IsPlace targets names file ∧ front <+: names ∧
      location = options.outputDir.location tree.workDir ++ front ++ [rootFile front]) classes last

theorem leavesCrate (hslash : options.NoSlash targets) (hwritten : progress.written = [])
    (hclasses : options.RunsTargets progress targets classes)
    (hroots : options.RunsModules classes (moduleDirs options.outputDir classes.written) last) :
    options.LeavesCrate progress.tree targets classes.tree last.tree where
  workDir := hclasses.grows.workDir
  place := fun names file hplace => by
    obtain ⟨path, -, hcomponents, hlook⟩ := hplace.exists_written hslash hclasses
    rwa [location_file _ hcomponents] at hlook
  root := fun names file front hplace hfront => by
    obtain ⟨directory, hdirectory, hcomponents⟩ := List.mem_map.1
      ((mem_moduleDirs_iff_isPlace hslash hclasses hwritten).2
        ⟨names, file, front, hplace, hfront, rfl⟩)
    obtain ⟨hisDir, text, htext, hlook⟩ := hroots.root directory hdirectory
    -- the module roots make no directories, so this one was there before
    have hthere := hroots.grows.look_directory_iff.1 (isDir_iff.1 hisDir).2
    rw [hroots.grows.workDir] at hthere
    rw [rootLocation, rootName_eq hcomponents] at hlook
    rw [hclasses.grows.workDir, location_directory _ hcomponents] at hthere htext hlook
    exact ⟨hthere, text, htext, hlook⟩
  grows := hclasses.grows.mono
    (fun location ⟨target, hmem, unit, path, text, hmakes, hway⟩ => by
      obtain ⟨file, -, hplace, hcomponents⟩ := hmakes.components hmem hslash
      rw [hcomponents, List.dropLast_concat] at hway
      exact ⟨_, file, hplace, hway⟩)
    fun location ⟨target, hmem, unit, path, text, hmakes, hlocation⟩ => by
      obtain ⟨file, -, hplace, hcomponents⟩ := hmakes.components hmem hslash
      exact ⟨_, file, hplace, hlocation.trans (location_file _ hcomponents)⟩
  roots := hroots.grows.mono (fun _ h => h) fun location ⟨directory, hdirectory, hlocation⟩ => by
    obtain ⟨names, file, front, hplace, hfront, hcomponents⟩ :=
      (mem_moduleDirs_iff_isPlace hslash hclasses hwritten).1 (List.mem_map_of_mem hdirectory)
    refine ⟨names, file, front, hplace, hfront, ?_⟩
    rw [hlocation, hclasses.grows.workDir, rootLocation, rootName_eq hcomponents,
      location_directory _ hcomponents]

/-! ### Reaching the classes -/

variable {tree classesTree lastTree : FileTree} {front : List String}

/-- What comes after the classes are module roots. -/
theorem LeavesCrate.isModuleRoot (h : options.LeavesCrate tree targets classesTree lastTree) :
    Grows (fun _ => False) IsModuleRoot classesTree lastTree :=
  h.roots.mono (fun _ h => h) fun _ ⟨_, _, front, _, _, hlocation⟩ =>
    hlocation ▸ isModuleRoot_concat.2 (rootFile_cases front)

/-- What the module roots on the way to the classes declare, as they are written. -/
def RootsDeclare (options : Options) (targets : List Target) (crate : Location)
    (classes last : FileTree) (declared : List String → List Declaration) : Prop :=
  ∀ names file front, options.IsPlace targets names file → front <+: names →
    Declares classes (crate ++ front) (declared front) ∧
      last.look (crate ++ front ++ [rootFile front]) =
        some (.file (options.format (moduleText (declared front))).2)

theorem LeavesCrate.exists_rootsDeclare
    (h : options.LeavesCrate tree targets classesTree lastTree) :
    ∃ declared, options.RootsDeclare targets (options.outputDir.location tree.workDir) classesTree
      lastTree declared := by
  have hroot : ∀ front, ∃ declarations, ∀ names file, options.IsPlace targets names file →
      front <+: names →
        Declares classesTree (options.outputDir.location tree.workDir ++ front) declarations ∧
          lastTree.look (options.outputDir.location tree.workDir ++ front ++ [rootFile front]) =
            some (.file (options.format (moduleText declarations)).2) := by
    intro front
    by_cases hfront : ∃ names file, options.IsPlace targets names file ∧ front <+: names
    · obtain ⟨names, file, hplace, hprefix⟩ := hfront
      obtain ⟨-, text, htext, hlook⟩ := h.root names file front hplace hprefix
      obtain ⟨declarations, hdeclares, rfl⟩ := exists_declares htext
      exact ⟨declarations, fun _ _ _ _ => ⟨hdeclares, hlook⟩⟩
    · exact ⟨[], fun names file hplace hprefix => absurd ⟨names, file, hplace, hprefix⟩ hfront⟩
  choose declared hdeclared using hroot
  exact ⟨declared, fun names file front hplace hprefix =>
    hdeclared front names file hplace hprefix⟩

section Reaching

variable {crate : Location} {declared : List String → List Declaration}
  (hdeclared : options.RootsDeclare targets crate classesTree lastTree declared)

include hdeclared

/-- What is reached on the way to a class has names that identifiers have. -/
theorem RootsDeclare.isModuleName (hplace : options.IsPlace targets names file)
    (hreaches : ReachesRoot lastTree crate declared front) (hfront : front <+: names) :
    ∀ name ∈ front, IsModuleName name := by
  induction hreaches with
  | crate => exact List.forall_mem_nil _
  | @descend front declaration _ _ hmem _ ih =>
    have habove : front <+: names := (List.prefix_append front _).trans hfront
    have hdeclares := (hdeclared names file front hplace habove).1
    exact List.forall_mem_append.2
      ⟨ih habove, List.forall_mem_singleton.2 (hdeclares.isModuleName hmem)⟩

/-- Going down from the output directory, each module root is declared by the one above it. -/
theorem RootsDeclare.reachesRoot (hplace : options.IsPlace targets names file)
    (hdirectory : ∀ front, front <+: names → classesTree.look (crate ++ front) = some .directory)
    (hfront : front <+: names) (hnames : ∀ name ∈ front, IsModuleName name) :
    ReachesRoot lastTree crate declared front := by
  -- from one directory to the next below it, so the last name is taken away
  induction front using List.reverseRecOn with
  | nil =>
    obtain ⟨-, hlook⟩ := hdeclared names file [] hplace hfront
    rw [List.append_nil] at hlook
    exact .crate hlook
  | append_singleton front name ih =>
    obtain ⟨habove, hname⟩ := List.forall_mem_append.1 hnames
    have hprefix : front <+: names := (List.prefix_append front [name]).trans hfront
    obtain ⟨hdeclares, -⟩ := hdeclared names file front hplace hprefix
    obtain ⟨-, hlook⟩ := hdeclared names file (front ++ [name]) hplace hfront
    have hholds : classesTree.Holds (crate ++ front) ⟨name, false⟩ := by
      have hthere := hdirectory (front ++ [name]) hfront
      rwa [← List.append_assoc] at hthere
    obtain ⟨declaration, hmem, rfl⟩ :=
      hdeclares.exists_name hholds (hname name (List.mem_singleton_self name))
    rw [rootFile_concat, ← List.append_assoc, List.append_assoc _ [_]] at hlook
    exact .descend (ih hprefix habove) hmem hlook

end Reaching

/-- The file of a class is reached exactly if it and the directories on the way to it have names
that identifiers have. -/
theorem LeavesCrate.reachesFile_iff (h : options.LeavesCrate tree targets classesTree lastTree)
    {declared : List String → List Declaration}
    (hdeclared : options.RootsDeclare targets (options.outputDir.location tree.workDir) classesTree
      lastTree declared) {stem : String} (hplace : options.IsPlace targets names (stem ++ ".rs"))
    (hlib : stem ≠ "lib") (hmod : stem ≠ "mod") :
    ReachesFile lastTree (options.outputDir.location tree.workDir) declared names stem ↔
      ∀ name ∈ names ++ [stem], IsModuleName name := by
  have hprefix := List.prefix_refl names
  obtain ⟨hdeclares, -⟩ := hdeclared names _ names hplace hprefix
  obtain ⟨source, hsource⟩ := h.place names _ hplace
  rw [List.forall_mem_append, List.forall_mem_singleton]
  constructor
  · rintro ⟨hroot, ⟨declaration, hmem, rfl⟩, -⟩
    exact ⟨hdeclared.isModuleName hplace hroot hprefix, hdeclares.isModuleName hmem⟩
  · rintro ⟨hnames, hstem⟩
    have hholds : classesTree.Holds (options.outputDir.location tree.workDir ++ names)
        ⟨stem, true⟩ := ⟨hmod, hlib, source, hsource⟩
    exact
      { root := hdeclared.reachesRoot hplace
          (fun front hfront => (h.root names _ front hplace hfront).1) hprefix hnames
        declaration := hdeclares.exists_name hholds hstem
        file := h.roots.look_file hsource }

theorem IsPlace.exists_stem (hbackend : options.backend = .rust)
    (h : options.IsPlace targets names file) : ∃ stem, file = stem ++ ".rs" := by
  obtain ⟨target, -, unit, -, -, hfile⟩ := h
  rw [hbackend] at hfile
  obtain ⟨stem, -, rfl⟩ := Backend.fileName_rust_eq_ok_iff.1 hfile
  exact ⟨stem, rfl⟩

/-- No file changes but the classes and the module roots. -/
theorem LeavesCrate.look_file_iff (h : options.LeavesCrate tree targets classesTree lastTree)
    {location : Location} {text : String}
    (hplace : ∀ names file, options.IsPlace targets names file →
      location ≠ options.outputDir.location tree.workDir ++ names ++ [file] ∧
        ∀ front, front <+: names →
          location ≠ options.outputDir.location tree.workDir ++ front ++ [rootFile front]) :
    lastTree.look location = some (.file text) ↔ tree.look location = some (.file text) := by
  rw [h.roots.look_file_iff, h.grows.look_file_iff]
  · rintro ⟨names, file, hmem, hlocation⟩
    exact (hplace names file hmem).1 hlocation
  · rintro ⟨names, file, front, hmem, hfront, hlocation⟩
    exact (hplace names file hmem).2 front hfront hlocation

end Crate

/-! ### Whole runs -/

/-- A run that comes to its end in a crate leaves the crate with all its classes and module
roots. -/
theorem runAll_leavesCrate {progress last : Progress} {failure : Option Failure}
    {targets : List Target} (hbackend : options.backend = .rust) (hslash : options.NoSlash targets)
    (hwritten : progress.written = []) (hrun : options.runAll progress targets = (last, failure))
    (hend : failure = none ∨ ∃ failed total, failure = some (.incomplete failed total)) :
    ∃ classes, options.runTargets progress targets = (classes, none) ∧
      options.LeavesCrate progress.tree targets classes.tree last.tree := by
  obtain ⟨classes, hclasses, hroots, -⟩ := runAll_ends hrun hend
  rw [rootDirectories, hbackend] at hroots
  exact ⟨classes, hclasses, leavesCrate hslash hwritten (runTargets_runsTargets hclasses)
    (runModules_runsModules hroots)⟩

/-- The same for a run that has read its input. -/
theorem run_leavesCrate {tree : FileTree} {last : Progress} {failure : Option Failure}
    {descriptor : Descriptor} (hbackend : options.backend = .rust)
    (hread : options.readInput tree = .ok descriptor)
    (hslash : options.NoSlash descriptor.interfaces) (hrun : options.run tree = (last, failure))
    (hend : failure = none ∨ ∃ failed total, failure = some (.incomplete failed total)) :
    ∃ classes,
      options.runTargets { tree, log := [.debug "Reading input"] } descriptor.interfaces =
        (classes, none) ∧
      options.LeavesCrate tree descriptor.interfaces classes.tree last.tree := by
  rw [run_eq_runAll hread] at hrun
  exact runAll_leavesCrate hbackend hslash rfl hrun hend

/-- In a crate every directory on the way to a class has a module root that declares exactly what
the directory holds once all classes are written.  So a class, but one whose own file is that of a
module root, is reached from `lib.rs` exactly if its file and these directories have names that
identifiers have.  No other file changes. -/
theorem moduleTree_complete {tree : FileTree} {last : Progress} {failure : Option Failure}
    {descriptor : Descriptor} (hbackend : options.backend = .rust)
    (hread : options.readInput tree = .ok descriptor)
    (hslash : options.NoSlash descriptor.interfaces) (hrun : options.run tree = (last, failure))
    (hend : failure = none ∨ ∃ failed total, failure = some (.incomplete failed total)) :
    let crate := options.outputDir.location tree.workDir
    ∃ (classes : Progress) (declared : List String → List Declaration),
      options.runTargets { tree, log := [.debug "Reading input"] } descriptor.interfaces =
        (classes, none) ∧
      (∀ path ∈ classes.written, ∃ names file,
        options.IsPlace descriptor.interfaces names file ∧
          path.location tree.workDir = crate ++ names ++ [file]) ∧
      (∀ names file, options.IsPlace descriptor.interfaces names file →
        (∃ text, last.tree.look (crate ++ names ++ [file]) = some (.file text)) ∧
        (∀ front, front <+: names →
          Declares classes.tree (crate ++ front) (declared front) ∧
            last.tree.look (crate ++ front ++ [rootFile front]) =
              some (.file (options.format (moduleText (declared front))).2)) ∧
        ∃ stem, file = stem ++ ".rs" ∧ (stem ≠ "lib" → stem ≠ "mod" →
          (ReachesFile last.tree crate declared names stem ↔
            ∀ name ∈ names ++ [stem], IsModuleName name))) ∧
      ∀ location text,
        (∀ names file, options.IsPlace descriptor.interfaces names file →
          location ≠ crate ++ names ++ [file] ∧
            ∀ front, front <+: names → location ≠ crate ++ front ++ [rootFile front]) →
        (last.tree.look location = some (.file text) ↔
          tree.look location = some (.file text)) := by
  intro crate
  obtain ⟨classes, hclasses, hleaves⟩ := run_leavesCrate hbackend hread hslash hrun hend
  obtain ⟨declared, hdeclared⟩ := hleaves.exists_rootsDeclare
  refine ⟨classes, declared, hclasses, ?_, fun names file hplace => ⟨?_, ?_, ?_⟩,
    fun location text h => hleaves.look_file_iff h⟩
  · intro path hpath
    rcases ((runTargets_runsTargets hclasses).mem_written path).1 hpath with hpath |
      ⟨target, hmem, unit, text, hmakes⟩
    · cases hpath
    · obtain ⟨file, -, hplace, hcomponents⟩ := hmakes.components hmem hslash
      exact ⟨_, file, hplace, location_file _ hcomponents⟩
  · obtain ⟨text, hlook⟩ := hleaves.place names file hplace
    exact hleaves.roots.look_file hlook
  · exact fun front hfront => hdeclared names file front hplace hfront
  · obtain ⟨stem, rfl⟩ := hplace.exists_stem hbackend
    exact ⟨stem, rfl, hleaves.reachesFile_iff hdeclared hplace⟩

/-- A run into the crate at `out`. -/
def crateOptions : Options :=
  { inputFile := ⟨["in"]⟩, outputDir := ⟨["out"]⟩, backend := .rust, noFormat := true }

/-- Where there is only the input file, there is no output directory. -/
theorem look_out_input (text : String) (rest : List String) :
    (FileTree.empty.put ["in"] (.file text)).look ("out" :: rest) = none := by
  rw [look_put _ (by simp), if_neg (by simp)]
  simp [FileTree.look, FileTree.empty]

/-- An empty interface whose class stands in a package. -/
def storeTarget : Target :=
  { interface := ⟨"com.Store", "Store", []⟩, delegate := ⟨"com", "Memory", "store"⟩ }

/-- The tree of a run that is told of this interface. -/
def storeTree : FileTree :=
  FileTree.empty.put ["in"] (.file ("\x7b\"interfaces\":[\x7b\"qualifiedName\":\"com.Store\"," ++
    "\"simpleName\":\"Store\",\"members\":[]," ++
    "\"delegate\":[\"com\",\"Memory\",\"store\"]\x7d]\x7d"))

theorem readInput_storeTree : crateOptions.readInput storeTree = .ok ⟨[storeTarget]⟩ :=
  toOption_eq_some_iff.1 (by decide +kernel)

theorem run_storeTree : (crateOptions.run storeTree).2 = none := by
  rw [run_eq_runAll readInput_storeTree]
  exact Option.isNone_iff_eq_none.1 (by decide +kernel)

theorem noSlash_storeTarget : crateOptions.NoSlash [storeTarget] := by
  intro target hmem unit hunit
  obtain rfl := List.mem_singleton.1 hmem
  obtain rfl := Except.ok.inj hunit
  exact ⟨by decide, by decide⟩

theorem isPlace_storeTarget_iff {names : List String} {file : String} :
    crateOptions.IsPlace [storeTarget] names file ↔ names = ["com"] ∧ file = "store_impl.rs" := by
  have hfile : crateOptions.backend.fileName "StoreImpl" = .ok "store_impl.rs" := by
    decide +kernel
  constructor
  · rintro ⟨target, hmem, unit, hunit, rfl, hother⟩
    obtain rfl := List.mem_singleton.1 hmem
    obtain rfl := Except.ok.inj hunit
    exact ⟨by decide, Except.ok.inj (hother.symm.trans hfile)⟩
  · rintro ⟨rfl, rfl⟩
    exact ⟨storeTarget, List.mem_cons_self, _, rfl, by decide, hfile⟩

theorem moduleTree_complete_store :
    crateOptions.readInput storeTree = .ok ⟨[storeTarget]⟩ ∧
      crateOptions.NoSlash [storeTarget] ∧
      (crateOptions.run storeTree).2 = none ∧
      crateOptions.IsPlace [storeTarget] ["com"] "store_impl.rs" ∧
      ∃ declared : List String → List Declaration,
        (crateOptions.run storeTree).1.tree.look ["out", "lib.rs"] =
          some (.file (moduleText (declared []))) ∧
        (crateOptions.run storeTree).1.tree.look ["out", "com", "mod.rs"] =
          some (.file (moduleText (declared ["com"]))) ∧
        ReachesFile (crateOptions.run storeTree).1.tree ["out"] declared ["com"] "store_impl" := by
  obtain ⟨classes, declared, -, -, hplaces, -⟩ :=
    moduleTree_complete rfl readInput_storeTree noSlash_storeTarget
      (Prod.eta (crateOptions.run storeTree)).symm (Or.inl run_storeTree)
  have hplace := isPlace_storeTarget_iff.2 ⟨rfl, rfl⟩
  obtain ⟨-, hroots, stem, hstem, hreaches⟩ := hplaces _ _ hplace
  obtain rfl : "store_impl" = stem := append_extension_inj.1 hstem
  exact ⟨readInput_storeTree, noSlash_storeTarget, run_storeTree, hplace, declared,
    (hroots [] (List.nil_prefix)).2, (hroots ["com"] (List.prefix_refl _)).2,
    (hreaches (by decide) (by decide)).2 (by decide)⟩

/-- An empty interface whose class is to have the name of a path keyword. -/
def crateTarget : Target := { storeTarget with outputName := some "Crate" }

/-- The tree of a run that is told of this interface. -/
def crateTree : FileTree :=
  FileTree.empty.put ["in"] (.file ("\x7b\"interfaces\":[\x7b\"qualifiedName\":\"com.Store\"," ++
    "\"simpleName\":\"Store\",\"members\":[]," ++
    "\"delegate\":[\"com\",\"Memory\",\"store\"],\"outputClassName\":\"Crate\"\x7d]\x7d"))

theorem readInput_crateTree : crateOptions.readInput crateTree = .ok ⟨[crateTarget]⟩ :=
  toOption_eq_some_iff.1 (by decide +kernel)

theorem noSlash_crateTarget : crateOptions.NoSlash [crateTarget] := by
  intro target hmem unit hunit
  obtain rfl := List.mem_singleton.1 hmem
  obtain rfl := Except.ok.inj hunit
  exact ⟨by decide, by decide⟩

/-- What that run leaves. -/
theorem look_crateTree :
    (crateOptions.run crateTree).2 = none ∧
      (crateOptions.run crateTree).1.tree.look ["out", "lib.rs"] =
        some (.file "pub mod com ;") ∧
      (crateOptions.run crateTree).1.tree.look ["out", "com", "mod.rs"] =
        some (.file "mod crate_ ; pub use crate_ :: * ;") ∧
      (crateOptions.run crateTree).1.tree.look ["out", "com", "crate.rs"] ≠ none ∧
      (crateOptions.run crateTree).1.tree.look ["out", "com", "crate_.rs"] = none := by
  rw [run_eq_runAll readInput_crateTree, ← Option.isNone_iff_eq_none]
  decide +kernel

/-- What the module roots declare there. -/
def crateDeclarations : List String → List Declaration
  | [] => [⟨⟨"com", false⟩, false⟩]
  | ["com"] => [⟨⟨"crate_", false⟩, true⟩]
  | _ => []

/-- The class `Crate` is written to `crate.rs`, but declared as the module `crate_`, so it is not
reached. -/
theorem crateFile_unreached :
    let last := (crateOptions.run crateTree).1.tree
    crateOptions.readInput crateTree = .ok ⟨[crateTarget]⟩ ∧
      crateOptions.NoSlash [crateTarget] ∧
      (crateOptions.run crateTree).2 = none ∧
      crateOptions.IsPlace [crateTarget] ["com"] "crate.rs" ∧
      last.look ["out", "com", "crate.rs"] ≠ none ∧
      last.look ["out", "lib.rs"] = some (.file (moduleText (crateDeclarations []))) ∧
      moduleText (crateDeclarations []) = "pub mod com ;" ∧
      last.look ["out", "com", "mod.rs"] = some (.file (moduleText (crateDeclarations ["com"]))) ∧
      moduleText (crateDeclarations ["com"]) = "mod crate_ ; pub use crate_ :: * ;" ∧
      ¬ ReachesFile last ["out"] crateDeclarations ["com"] "crate" := by
  obtain ⟨hrun, hlib, hmod, hclass, -⟩ := look_crateTree
  have hfile : crateOptions.backend.fileName "Crate" = .ok "crate.rs" := by decide +kernel
  refine ⟨readInput_crateTree, noSlash_crateTarget, hrun,
    ⟨crateTarget, List.mem_cons_self, _, rfl, by decide, hfile⟩, hclass, hlib, rfl, hmod, rfl, ?_⟩
  rintro ⟨-, ⟨declaration, hmem, hname⟩, -⟩
  obtain rfl := List.mem_singleton.1 hmem
  exact absurd hname (by decide)

end Options

end Forwarding
