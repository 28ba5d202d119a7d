import Forwarding.Proofs.Run.Acceptance

/-!
# Classes that are lost

A file is written without regard to what was there.  So of several classes with one place the last
one stays, and a module root replaces a class of its name.  The directories and the file of a class
do not determine its name, so this happens to classes of different names too.

* `Backend.SamePlace`, `Backend.IsRootPlace`: the names of classes with one place, and of those with
  the place of a module root;
* `Options.look_of_later`: what a target writes stays while later ones write elsewhere;
* `Options.read_class`: what the file of a class finally holds;
* `Options.class_lost`: classes that are lost to a module root and to another class.
-/

namespace Forwarding

open FileTree

/-- The classes of both names have one place: the same directories, and the same file in the last of
them. -/
structure Backend.SamePlace (backend : Backend) (name other : ClassName) : Prop where
  directories : backend.directories other = backend.directories name
  fileName : backend.fileName other.simpleName = backend.fileName name.simpleName

/-- The class of the name has the place of a module root, which in a crate is `lib.rs` for a class
in the default package and `mod.rs` for any other. -/
structure Backend.IsRootPlace (backend : Backend) (name : ClassName) : Prop where
  isRust : backend = .rust
  fileName : backend.fileName name.simpleName = .ok (rootFile (backend.directories name))

namespace Options

variable {options : Options}

/-! ### Shared places -/

/-- The run writes a module root to the location. -/
def WritesRoot (options : Options) (workDir : Location) (last : Progress) (location : Location) :
    Prop :=
  ∃ directory ∈ options.rootDirectories last, options.rootLocation workDir directory = location

/-- Without slashes in the names two classes are written to one location exactly if they have the
same directories and the same file. -/
theorem Makes.location_eq_iff {target other : Target} {targets : List Target}
    {unit otherUnit : Forwarder} {path otherPath : Path} {text otherText : String}
    (h : options.Makes target unit path text)
    (h' : options.Makes other otherUnit otherPath otherText) (hslash : options.NoSlash targets)
    (hmem : target ∈ targets) (hother : other ∈ targets) (workDir : Location) :
    otherPath.location workDir = path.location workDir ↔
      options.backend.SamePlace unit.name otherUnit.name := by
  obtain ⟨file, hfile, -, hcomponents⟩ := h.components hmem hslash
  obtain ⟨otherFile, hotherFile, -, hotherComponents⟩ := h'.components hother hslash
  rw [location_file workDir hcomponents, location_file workDir hotherComponents,
    List.append_singleton_inj, List.append_right_inj]
  constructor
  · rintro ⟨hdirectories, rfl⟩
    exact ⟨hdirectories, hotherFile.trans hfile.symm⟩
  · rintro ⟨hdirectories, hsame⟩
    exact ⟨hdirectories, Except.ok.inj (hotherFile.symm.trans (hsame.trans hfile))⟩

/-- Without slashes in the names a module root is written to the location of a class exactly if the
name of the class is that of a module root. -/
theorem Makes.writesRoot_iff {progress classes : Progress} {target : Target} {targets : List Target}
    {unit : Forwarder} {path : Path} {text : String} (h : options.Makes target unit path text)
    (hclasses : options.RunsTargets progress targets classes) (hwritten : progress.written = [])
    (hslash : options.NoSlash targets) (hmem : target ∈ targets) (workDir : Location) :
    options.WritesRoot workDir classes (path.location workDir) ↔
      options.backend.IsRootPlace unit.name := by
  obtain ⟨file, hfile, hplace, hcomponents⟩ := h.components hmem hslash
  rw [location_file workDir hcomponents]
  constructor
  · rintro ⟨directory, hdirectory, hlocation⟩
    obtain ⟨hbackend, -, -, front, -, -, hroot⟩ :=
      rootFile_of_mem_rootDirectories hslash hclasses hwritten hdirectory workDir
    obtain ⟨hfront, rfl⟩ := List.append_singleton_inj.1 (hlocation.symm.trans hroot)
    rw [← List.append_cancel_left hfront] at hfile
    exact ⟨hbackend, hfile⟩
  · rintro ⟨hbackend, hroot⟩
    obtain rfl := Except.ok.inj (hfile.symm.trans hroot)
    obtain ⟨directory, hdirectory, hsteps⟩ := List.mem_map.1
      ((mem_moduleDirs_iff_isPlace hslash hclasses hwritten).2
        ⟨_, _, _, hplace, List.prefix_refl _, rfl⟩)
    refine ⟨directory, ?_, ?_⟩
    · rwa [rootDirectories, hbackend]
    · rw [rootLocation, rootName_eq hsteps, location_directory workDir hsteps]

/-- What a target writes stays while the later ones write elsewhere. -/
theorem look_of_later {progress classes : Progress} {target : Target} {before after : List Target}
    (h : options.runTargets progress (before ++ target :: after) = (classes, none))
    {unit : Forwarder} {path : Path} {text : String} (hmakes : options.Makes target unit path text)
    (hlater : ¬ options.ClassFile progress.tree.workDir after
      (path.location progress.tree.workDir)) :
    classes.tree.walk path = .ok (path.location progress.tree.workDir) ∧
      classes.tree.look (path.location progress.tree.workDir) = some (.file text) := by
  obtain ⟨start, hbefore, hrest⟩ := runTargets_append_eq_none.1 h
  obtain ⟨next, hstep, hafter⟩ := runTargets_cons_eq_none.1 hrest
  have hstart : start.tree.workDir = progress.tree.workDir :=
    (runTargets_runsTargets hbefore).grows.workDir
  rcases runTarget_eq_none hstep with ⟨⟨fault, hfault⟩, -⟩ |
    ⟨other, otherPath, otherText, hother, -, -, hgrows, hwalk, hlook⟩
  · cases hfault.symm.trans hmakes.forwarder
  · obtain ⟨rfl, rfl, rfl⟩ := hmakes.unique hother
    have hlast := (runTargets_runsTargets hafter).grows
    rw [hgrows.workDir, hstart] at hlast
    rw [hstart] at hwalk hlook
    exact ⟨hlast.walk hwalk, hlast.look_of_not_mem hlook hlater⟩

/-! ### What files hold -/

section Held

variable {tree : FileTree} {last : Progress} {descriptor : Descriptor}

/-- A run that ends well has gone through all classes and module roots, and has made the classes of
all targets. -/
theorem run_makes (hread : options.readInput tree = .ok descriptor)
    (hrun : options.run tree = (last, none)) :
    ∃ classes, options.runTargets { tree, log := [.debug "Reading input"] } descriptor.interfaces =
        (classes, none) ∧
      options.RunsModules classes (options.rootDirectories classes) last ∧
      options.rootDirectories last = options.rootDirectories classes ∧
      ∀ target ∈ descriptor.interfaces, ∃ unit path text, options.Makes target unit path text ∧
        classes.tree.walk path = .ok (path.location tree.workDir) := by
  obtain ⟨classes, hclasses, hroots, hreport⟩ := run_ends hread hrun (Or.inl rfl)
  have hruns := runTargets_runsTargets hclasses
  have hmodules := runModules_runsModules hroots
  have hfailed : classes.failed = 0 := by
    rw [← hmodules.failed]
    by_contra hne
    rw [if_neg hne] at hreport
    cases hreport
  have hdirectories : options.rootDirectories last = options.rootDirectories classes := by
    rw [rootDirectories, rootDirectories, hmodules.written]
  refine ⟨classes, hclasses, hmodules, hdirectories, fun target hmem => ?_⟩
  obtain ⟨unit, hunit⟩ := hruns.failed_eq hfailed target hmem
  obtain ⟨path, text, hmakes, hwalk, -⟩ := hruns.made target hmem unit hunit
  exact ⟨unit, path, text, hmakes, hwalk⟩

/-- The module root of a directory holds the declarations of what is in the directory at the end. -/
theorem RunsModules.exists_declares {classes : Progress} {directories : List Path}
    (h : options.RunsModules classes directories last) {directory : Path}
    (hmem : directory ∈ directories) :
    ∃ declarations,
      Declares last.tree (directory.location classes.tree.workDir) declarations ∧
        last.tree.look (options.rootLocation classes.tree.workDir directory) =
          some (.file (options.format (moduleText declarations)).2) := by
  have hgrows : Grows (fun _ => False) IsModuleRoot classes.tree last.tree :=
    h.grows.mono (fun _ h => h) fun _ ⟨directory, _, hlocation⟩ =>
      hlocation ▸ options.isModuleRoot_rootLocation _ directory
  obtain ⟨-, text, htext, hlook⟩ := h.root directory hmem
  rw [← hgrows.listing_eq] at htext
  obtain ⟨declarations, hdeclares, rfl⟩ := Forwarding.exists_declares htext
  exact ⟨declarations, hdeclares, hlook⟩

/-- After a run that ends well each target has its class.  The file of the class holds the text of
the last target that has the same place, unless that is the place of a module root, and then it
holds the module root.  Without slashes in the names the places can be told from the names; so the
class is lost at most to a module root of its name or to a later class with the same directories
and file. -/
theorem read_class {target : Target} {before after : List Target}
    (hread : options.readInput tree = .ok descriptor) (hrun : options.run tree = (last, none))
    (htargets : descriptor.interfaces = before ++ target :: after) :
    ∃ unit path text, options.Makes target unit path text ∧
      (¬ options.WritesRoot tree.workDir last (path.location tree.workDir) →
        ∀ front other rest, target :: after = front ++ other :: rest →
          ∀ otherUnit otherPath otherText, options.Makes other otherUnit otherPath otherText →
            otherPath.location tree.workDir = path.location tree.workDir →
            ¬ options.ClassFile tree.workDir rest (path.location tree.workDir) →
              last.tree.read path = .ok otherText) ∧
      (∀ directory ∈ options.rootDirectories last,
        options.rootLocation tree.workDir directory = path.location tree.workDir →
          ∃ declarations, Declares last.tree (directory.location tree.workDir) declarations ∧
            last.tree.read path = .ok (options.format (moduleText declarations)).2) ∧
      (options.NoSlash descriptor.interfaces →
        (options.WritesRoot tree.workDir last (path.location tree.workDir) ↔
          options.backend.IsRootPlace unit.name) ∧
        (∀ other ∈ descriptor.interfaces, ∀ otherUnit otherPath otherText,
          options.Makes other otherUnit otherPath otherText →
            (otherPath.location tree.workDir = path.location tree.workDir ↔
              options.backend.SamePlace unit.name otherUnit.name)) ∧
        (¬ options.backend.IsRootPlace unit.name →
          (∀ other ∈ after, ∀ otherUnit, other.forwarder options.suffix = .ok otherUnit →
            ¬ options.backend.SamePlace unit.name otherUnit.name) →
          last.tree.read path = .ok text)) := by
  obtain ⟨classes, hclasses, hmodules, hdirectories, hmade⟩ := run_makes hread hrun
  have hruns := runTargets_runsTargets hclasses
  have hworkDir : classes.tree.workDir = tree.workDir := hruns.grows.workDir
  have hmem : target ∈ descriptor.interfaces := by
    rw [htargets]
    exact List.mem_append_right before List.mem_cons_self
  obtain ⟨unit, path, text, hmakes, hwalk⟩ := hmade target hmem
  have hheld : ¬ options.WritesRoot tree.workDir last (path.location tree.workDir) →
      ∀ front other rest, target :: after = front ++ other :: rest →
        ∀ otherUnit otherPath otherText, options.Makes other otherUnit otherPath otherText →
          otherPath.location tree.workDir = path.location tree.workDir →
          ¬ options.ClassFile tree.workDir rest (path.location tree.workDir) →
            last.tree.read path = .ok otherText := by
    intro hroot front other rest hsplit otherUnit otherPath otherText hother hsame hlater
    rw [htargets, hsplit, ← List.append_assoc] at hclasses
    obtain ⟨-, hlook⟩ := look_of_later hclasses hother (by rwa [hsame])
    rw [hsame] at hlook
    refine read_eq_ok_iff.2 ⟨_, hmodules.grows.walk hwalk,
      hmodules.grows.look_of_not_mem hlook ?_⟩
    rintro ⟨directory, hdirectory, hlocation⟩
    rw [hworkDir] at hlocation
    exact hroot ⟨directory, hdirectories ▸ hdirectory, hlocation.symm⟩
  refine ⟨unit, path, text, hmakes, hheld, ?_, fun hslash => ?_⟩
  · intro directory hdirectory hlocation
    obtain ⟨declarations, hdeclares, hlook⟩ :=
      hmodules.exists_declares (hdirectories ▸ hdirectory)
    rw [hworkDir] at hdeclares hlook
    rw [hlocation] at hlook
    exact ⟨declarations, hdeclares,
      read_eq_ok_iff.2 ⟨_, hmodules.grows.walk hwalk, hlook⟩⟩
  · have hroot : options.WritesRoot tree.workDir last (path.location tree.workDir) ↔
        options.backend.IsRootPlace unit.name := by
      rw [WritesRoot, hdirectories]
      exact hmakes.writesRoot_iff hruns rfl hslash hmem tree.workDir
    refine ⟨hroot, fun other hother otherUnit otherPath otherText hotherMakes =>
      hmakes.location_eq_iff hotherMakes hslash hmem hother tree.workDir, fun hnot hafter => ?_⟩
    refine hheld (fun h => hnot (hroot.1 h)) [] target after rfl unit path text hmakes rfl ?_
    rintro ⟨other, hother, otherUnit, otherPath, otherText, hotherMakes, hsame⟩
    have hotherMem : other ∈ descriptor.interfaces := by
      rw [htargets]
      exact List.mem_append_right before (List.mem_cons_of_mem target hother)
    exact hafter other hother otherUnit hotherMakes.forwarder
      ((hmakes.location_eq_iff hotherMakes hslash hmem hotherMem tree.workDir).1 hsame.symm)

end Held

/-- The class of a run with one target stays. -/
theorem read_class_store :
    crateOptions.readInput storeTree = .ok ⟨[storeTarget]⟩ ∧
      (crateOptions.run storeTree).2 = none ∧ crateOptions.NoSlash [storeTarget] ∧
      ∃ unit path text, crateOptions.Makes storeTarget unit path text ∧
        (crateOptions.run storeTree).1.tree.read path = .ok text := by
  have hrun : crateOptions.run storeTree = ((crateOptions.run storeTree).1, none) := by
    rw [← run_storeTree, Prod.eta]
  have hsplit : [storeTarget] = [] ++ storeTarget :: [] := rfl
  obtain ⟨unit, path, text, hmakes, -, -, hnames⟩ :=
    read_class readInput_storeTree hrun hsplit
  obtain ⟨-, -, hstays⟩ := hnames noSlash_storeTarget
  refine ⟨readInput_storeTree, run_storeTree, noSlash_storeTarget, unit, path, text, hmakes,
    hstays ?_ (List.forall_mem_nil _)⟩
  -- the class stands in `store_impl.rs`, which is no module root
  rintro ⟨-, hroot⟩
  obtain ⟨file, hfile, hplace, -⟩ := hmakes.components List.mem_cons_self noSlash_storeTarget
  obtain rfl := (isPlace_storeTarget_iff.1 hplace).2
  obtain hroot := Except.ok.inj (hfile.symm.trans hroot)
  rcases rootFile_cases (crateOptions.backend.directories unit.name) with hname | hname
  · exact absurd (hroot.trans hname) (by decide)
  · exact absurd (hroot.trans hname) (by decide)

/-! ### Classes that are lost -/

/-- The run ends well, but the file of a class that it has made in a fresh output directory holds
another text. -/
structure Loses (options : Options) (tree : FileTree) (target : Target) (path : Path)
    (held : String) : Prop where
  fresh : ∀ rest, tree.look (options.outputDir.location tree.workDir ++ rest) = none
  input : ∃ descriptor, options.readInput tree = .ok descriptor ∧ target ∈ descriptor.interfaces
  ends : (options.run tree).2 = none
  makes : ∃ unit text, options.Makes target unit path text ∧ text ≠ held
  holds : (options.run tree).1.tree.read path = .ok held

/-- An empty interface in the default package whose class is to have the name of a module root. -/
def libTarget : Target :=
  { interface := ⟨"Store", "Store", []⟩, delegate := ⟨"", "Memory", "store"⟩
    outputName := some "Lib" }

/-- The tree of a run that is told of this interface. -/
def libTree : FileTree :=
  FileTree.empty.put ["in"] (.file ("\x7b\"interfaces\":[\x7b\"qualifiedName\":\"Store\"," ++
    "\"simpleName\":\"Store\",\"members\":[]," ++
    "\"delegate\":[\"\",\"Memory\",\"store\"],\"outputClassName\":\"Lib\"\x7d]\x7d"))

/-- An interface whose class is to have this name. -/
def namedTarget (name : String) : Target := { storeTarget with outputName := some name }

/-- The tree of a run that is told of two names with the same snake case. -/
def mergingTree : FileTree :=
  FileTree.empty.put ["in"] (.file ("\x7b\"interfaces\":[" ++
    "\x7b\"qualifiedName\":\"com.Store\",\"simpleName\":\"Store\",\"members\":[]," ++
    "\"delegate\":[\"com\",\"Memory\",\"store\"],\"outputClassName\":\"FooBar\"\x7d," ++
    "\x7b\"qualifiedName\":\"com.Store\",\"simpleName\":\"Store\",\"members\":[]," ++
    "\"delegate\":[\"com\",\"Memory\",\"store\"],\"outputClassName\":\"Foo_Bar\"\x7d]\x7d"))

/-- The text that the second class has. -/
def mergingText : String :=
  "pub struct Foo_Bar \x7b store : crate :: com :: Memory \x7d impl Foo_Bar " ++
    "\x7b pub fn new (store : crate :: com :: Memory) -> Self " ++
    "\x7b Self \x7b store : store \x7d \x7d \x7d " ++
    "impl crate :: com :: Store for Foo_Bar \x7b \x7d"

/-- The class `Lib` in the default package is lost to the module root `lib.rs`, and the class
`FooBar` to the class `Foo_Bar` beside it. -/
theorem class_lost :
    crateOptions.Loses libTree libTarget ⟨["out", "lib.rs"]⟩ "" ∧
      crateOptions.Loses mergingTree (namedTarget "FooBar") ⟨["out", "com", "foo_bar.rs"]⟩
        mergingText := by
  have hlib : crateOptions.readInput libTree = .ok ⟨[libTarget]⟩ :=
    toOption_eq_some_iff.1 (by decide +kernel)
  have hmerging : crateOptions.readInput mergingTree =
      .ok ⟨[namedTarget "FooBar", namedTarget "Foo_Bar"]⟩ :=
    toOption_eq_some_iff.1 (by decide +kernel)
  constructor
  · exact
      { fresh := look_out_input _
        input := ⟨_, hlib, List.mem_cons_self⟩
        ends := by
          rw [run_eq_runAll hlib, ← Option.isNone_iff_eq_none]
          decide +kernel
        makes := ⟨_, _, ⟨rfl, by decide +kernel, rfl⟩, by decide +kernel⟩
        holds := by
          rw [run_eq_runAll hlib]
          decide +kernel }
  · exact
      { fresh := look_out_input _
        input := ⟨_, hmerging, List.mem_cons_self⟩
        ends := by
          rw [run_eq_runAll hmerging, ← Option.isNone_iff_eq_none]
          decide +kernel
        makes := ⟨_, _, ⟨rfl, by decide +kernel, rfl⟩, by decide +kernel⟩
        holds := by
          rw [run_eq_runAll hmerging]
          decide +kernel }

end Options

end Forwarding
