import Forwarding.Proofs.FileTree.Making
import Forwarding.Proofs.ModuleDirs
import Forwarding.Proofs.Run.ModuleTree

/-!
# Files that can be written

Whether a class or a module root can be written depends on its path and on what stands on the way
to it.

* `Progress.writeFile_eq_none_iff`: a file can be written exactly if the tree accepts its path;
* `FileTree.Accepts.of_directories`, `FileTree.Accepts.of_grows`: when another tree accepts the
  path too;
* `Options.runTarget_snd_eq_none_iff`, `Options.runModule_eq_none_iff`: when a target or a module
  root does not end the run;
* `Options.runAll_makes`: a run that ends well makes the classes of all its targets.
-/

namespace Forwarding

open FileTree

section EndsInName

variable {path : Path} {front : List String} {name : String}
  (hsegments : path.segments = front ++ [name]) (hname : name ∉ ["", ".", ".."])

include hsegments hname

/-- What is opened is the file in the directory that the segments before its name lead to. -/
theorem Progress.openFile_eq_none_iff (progress : Progress) (text : String) :
    (progress.openFile path text).2 = none ↔
      spellingFault? path = none ∧ (Component.named name).fits = true ∧
        ∃ location, progress.tree.trace (progress.tree.start path)
            (front.filterMap Component.ofSegment?) = .ok location ∧
          progress.tree.look (location ++ [name]) ≠ some .directory := by
  rcases hspelling : spellingFault? path with _ | fault
  · rw [openFile, write, site_eq hsegments hspelling]
    rcases progress.tree.trace (progress.tree.start path)
      (front.filterMap Component.ofSegment?) with fault | location
    · simp [Except.map]
    · simp only [Except.map, if_neg hname, Component.fits, decide_eq_true_eq]
      split_ifs with hlong hdirectory
      · simp [Nat.not_le.2 hlong]
      · simp [hdirectory]
      · simp [hdirectory, Nat.not_lt.1 hlong]
  · simp [openFile, write, site, hspelling]

/-- The way to a file is that of the segments before its name. -/
theorem FileTree.accepts_iff (tree : FileTree) :
    tree.Accepts path ↔
      spellingFault? path = none ∧ (Component.named name).fits = true ∧
        ∃ made, tree.pave (tree.start path) (front.filterMap Component.ofSegment?) = some made ∧
          made.look (path.location tree.workDir) ≠ some .directory := by
  obtain ⟨head, hpath, hhead⟩ := exists_head_concat hsegments (ofSegment?_of_not_mem hname)
  have hway := (hhead tree (front.filterMap Component.ofSegment?)).2
  constructor
  · rintro ⟨hspelling, hfits, made, hmade, hlook⟩
    rw [hpath, List.dropLast_concat, hway] at hmade
    exact ⟨hspelling, hfits _ (hpath ▸ List.mem_append_right _ List.mem_cons_self), made, hmade,
      hlook⟩
  · rintro ⟨hspelling, hfits, made, hmade, hlook⟩
    rw [← hway] at hmade
    refine ⟨hspelling, fun step hstep => ?_, made, ?_, hlook⟩
    · rw [hpath, List.mem_append, List.mem_singleton] at hstep
      rcases hstep with hstep | rfl
      · exact fits_of_pave hmade hstep
      · exact hfits
    · rw [hpath, List.dropLast_concat, hmade]

theorem FileTree.location_eq_along_concat (tree : FileTree) :
    path.location tree.workDir =
      Location.along (tree.start path) (front.filterMap Component.ofSegment?) ++ [name] := by
  rw [Path.location_eq_along_segments, hsegments, List.filterMap_append,
    List.filterMap_cons_some (ofSegment?_of_not_mem hname), Location.along_append]
  rfl

/-- The directory of a file can be made exactly if the way to it can be paved. -/
theorem FileTree.makeDirs_parent_eq_ok_iff {tree made : FileTree} {parent : Path}
    (hparent : path.parent? = some parent) (hspelling : spellingFault? path = none)
    (hne : parent.components ≠ []) :
    tree.makeDirs parent = (made, .ok ()) ↔
      tree.pave (tree.start path) (front.filterMap Component.ofSegment?) = some made := by
  obtain ⟨head, hpath, hhead⟩ := exists_head_concat hsegments (ofSegment?_of_not_mem hname)
  obtain ⟨other, hother, hsteps⟩ := Path.exists_parent? hpath (by simp)
  obtain rfl := Option.some.inj (hparent.symm.trans hother)
  rw [makeDirs_eq_ok_iff (Path.parent?_spelling hparent).1
    (Path.spellingFault?_of_parent? hparent hspelling hne) hne, start_of_parent? _ hparent hne,
    hsteps, (hhead _ _).2]

/-- A path that ends in a name is accepted exactly if a file can be written to it. -/
theorem Progress.writeFile_eq_none_iff {progress : Progress} {text : String} :
    (progress.writeFile path text).2 = none ↔ progress.tree.Accepts path := by
  obtain ⟨head, hpath, -⟩ := exists_head_concat hsegments (ofSegment?_of_not_mem hname)
  obtain ⟨parent, hparent, hparentSteps⟩ := Path.exists_parent? hpath (by simp)
  have hopen := fun above : FileTree => Progress.openFile_eq_none_iff hsegments hname
    ({ progress with tree := above } : Progress) text
  rw [accepts_iff hsegments hname, writeFile, hparent, location_eq_along_concat hsegments hname]
  dsimp only at hopen ⊢
  rcases hspelling : spellingFault? path with _ | fault
  · by_cases hnil : parent.components = []
    · -- there is nothing to be made
      have hmade : progress.tree.makeDirs parent = (progress.tree, .ok ()) := by
        rw [makeDirs, makeDirsUpTo, if_pos hnil]
      obtain ⟨-, hfront⟩ := List.append_eq_nil_iff.1 (hparentSteps ▸ hnil)
      rw [hmade, hopen, hfront, trace, pave]
      by_cases hdirectory : progress.tree.look (progress.tree.start path) = some .directory
      · simp [hdirectory, hspelling, Location.along]
      · simp [hdirectory]
    · have hmade : ∀ made, progress.tree.makeDirs parent = (made, .ok ()) ↔
          progress.tree.pave (progress.tree.start path) (front.filterMap Component.ofSegment?) =
            some made := fun _ =>
        makeDirs_parent_eq_ok_iff hsegments hname hparent hspelling hnil
      rcases hpave : progress.tree.pave (progress.tree.start path)
        (front.filterMap Component.ofSegment?) with _ | made
      · rcases hresult : progress.tree.makeDirs parent with ⟨above, fault | _⟩
        · simp
        · rw [hmade, hpave] at hresult
          cases hresult
      · have hstart : made.start path = progress.tree.start path := by
          rw [start, start, workDir_pave hpave]
        rw [(hmade made).2 hpave, hopen, hstart, trace_of_pave hpave]
        simp [hspelling]
  · rcases progress.tree.makeDirs parent with ⟨above, fault | _⟩
    · simp
    · simp [hopen, hspelling]

end EndsInName

namespace FileTree

variable {tree later : FileTree} {path : Path}

/-- From wherever a path begins, its steps lead to the same locations as from the working
directory. -/
theorem along_start (tree : FileTree) {front : List Component} (hfront : front <+: path.components)
    (hne : front ≠ []) :
    Location.along (tree.start path) front = Location.along tree.workDir front := by
  rw [start]
  split_ifs with habsolute
  · obtain ⟨rest, hrest⟩ := hfront
    obtain ⟨step, others, rfl⟩ := List.exists_cons_of_ne_nil hne
    rw [Path.isAbsolute_iff, ← hrest] at habsolute
    obtain rfl : step = .root := Option.some.inj habsolute
    rfl
  · rfl

theorem onWay_start_iff (tree : FileTree) {steps : List Component} (h : steps <+: path.components)
    {location : Location} :
    OnWay (tree.start path) steps location ↔ OnWay tree.workDir steps location := by
  constructor
  · rintro ⟨front, hfront, hne, rfl⟩
    exact ⟨front, hfront, hne, tree.along_start (hfront.trans h) hne⟩
  · rintro ⟨front, hfront, hne, rfl⟩
    exact ⟨front, hfront, hne, (tree.along_start (hfront.trans h) hne).symm⟩

/-- A path that goes on from another one begins where this does. -/
theorem start_of_components (tree : FileTree) {directory : Path} (names : List String)
    (h : path.components = directory.components ++ names.map .named) :
    tree.start path = tree.start directory := by
  have hsame : path.isAbsolute = directory.isAbsolute := by
    rw [Bool.eq_iff_iff, Path.isAbsolute_iff, Path.isAbsolute_iff, h]
    cases directory.components with
    | nil => cases names <;> simp
    | cons step rest => rfl
  rw [start, start, hsame]

/-- A file that is accepted is accepted in a tree with more directories, unless a file stands on its
way or a directory in its place. -/
theorem Accepts.of_directories (h : tree.Accepts path) (hworkDir : later.workDir = tree.workDir)
    (hdirectories : ∀ place, tree.look place = some .directory →
      later.look place = some .directory)
    (hfiles : ∀ place, OnWay tree.workDir path.components.dropLast place →
      ∀ text, later.look place ≠ some (.file text))
    (hlook : later.look (path.location tree.workDir) ≠ some .directory) : later.Accepts path := by
  obtain ⟨made, hmade, hplace⟩ := h.way
  have hstart : later.start path = tree.start path := by rw [start, start, hworkDir]
  have hway : ∀ place, OnWay (tree.start path) path.components.dropLast place ↔
      OnWay tree.workDir path.components.dropLast place := fun _ =>
    tree.onWay_start_iff (List.dropLast_prefix path.components)
  obtain ⟨paved, hpaved⟩ := exists_pave_of_directories hmade hdirectories fun place hon =>
    hfiles place ((hway place).1 hon)
  refine ⟨h.spelling, h.fits, paved, hstart ▸ hpaved, ?_⟩
  rw [hworkDir, look_pave_of_not_onWay hpaved]
  · exact hlook
  · exact fun hon => hplace (look_pave_of_onWay hmade hon)

/-- Where a file is accepted, the way to a directory above it can be paved. -/
theorem Accepts.exists_base (h : tree.Accepts path) {directory : Path} {names : List String}
    {file : String}
    (hcomponents : path.components =
      directory.components ++ names.map .named ++ [.named file]) :
    tree.look (tree.start directory) = some .directory ∧
      ∃ base, tree.pave (tree.start directory) directory.components = some base := by
  obtain ⟨made, hmade, -⟩ := h.way
  have hstart : tree.start path = tree.start directory := by
    refine tree.start_of_components (names ++ [file]) ?_
    rw [hcomponents, List.map_append, ← List.append_assoc]
    rfl
  rw [hcomponents, List.dropLast_concat, hstart, pave_append] at hmade
  obtain ⟨base, hbase, -⟩ := Option.bind_eq_some_iff.1 hmade
  refine ⟨?_, base, hbase⟩
  by_contra hdirectory
  rw [pave_of_not_directory hdirectory] at hbase
  cases hbase

/-- A file under the output directory that is accepted later on was accepted before, if the way to
the output directory could be paved. -/
theorem Accepts.of_grows {directories files : Location → Prop} {outputDir : Path} {base : FileTree}
    {names : List String} {file : String} (h : later.Accepts path)
    (hgrows : Grows directories files tree later)
    (hcomponents : path.components =
      outputDir.components ++ names.map .named ++ [.named file])
    (hbase : tree.pave (tree.start outputDir) outputDir.components = some base) :
    tree.Accepts path := by
  obtain ⟨made, hmade, hplace⟩ := h.way
  have hstart : tree.start path = tree.start outputDir := by
    refine tree.start_of_components (names ++ [file]) ?_
    rw [hcomponents, List.map_append, ← List.append_assoc]
    rfl
  have hdropLast : path.components.dropLast = outputDir.components ++ names.map .named := by
    rw [hcomponents, List.dropLast_concat]
  rw [hdropLast, hgrows.start, hstart] at hmade
  -- what stands on the way before also stands there later, where all can be made a directory
  have hfile : ∀ place, OnWay (tree.start outputDir)
      (outputDir.components ++ names.map .named) place →
        ∀ text, base.look place ≠ some (.file text) := by
    intro place hon text hlook
    by_cases habove : OnWay (tree.start outputDir) outputDir.components place
    · rw [look_pave_of_onWay hbase habove] at hlook
      cases hlook
    · rw [look_pave_of_not_onWay hbase habove] at hlook
      obtain ⟨other, hother⟩ := hgrows.look_file hlook
      have hstays : made.look place = later.look place :=
        look_pave_of_ne_none hmade (by simp [hother])
      rw [look_pave_of_onWay hmade hon, hother] at hstays
      cases hstays
  have hdirectory := (trace_eq_ok (trace_of_pave hbase)).2
  obtain ⟨paved, hpaved⟩ : ∃ paved, base.pave
      (Location.along (tree.start outputDir) outputDir.components) (names.map .named) =
        some paved := by
    refine exists_pave_named hdirectory (fun name hname => h.fits _ ?_) fun front hfront text => ?_
    · rw [hcomponents]
      exact List.mem_append_left _ (List.mem_append_right _ (List.mem_map_of_mem hname))
    · by_cases hnil : front = []
      · rw [hnil, List.append_nil, hdirectory]
        simp
      · refine hfile _ ⟨outputDir.components ++ front.map .named,
          (List.prefix_append_right_inj _).2 (hfront.map _), by simp [hnil], ?_⟩ text
        rw [Location.along_append, Location.along_named]
  have hway : tree.pave (tree.start outputDir) (outputDir.components ++ names.map .named) =
      some paved := by
    rw [pave_append, hbase, Option.bind_some, hpaved]
  refine ⟨h.spelling, h.fits, paved, by rw [hdropLast, hstart, hway], fun hlook => hplace ?_⟩
  rw [hgrows.workDir]
  by_cases hon : OnWay (tree.start outputDir) (outputDir.components ++ names.map .named)
      (path.location tree.workDir)
  · exact look_pave_of_onWay hmade hon
  · rw [look_pave_of_not_onWay hway hon] at hlook
    have hlater := hgrows.look_directory hlook
    rw [look_pave_of_ne_none hmade (by simp [hlater]), hlater]

/-- Steps over directories lead to the last one. -/
theorem trace_of_onWay {location : Location} {steps : List Component}
    (hdirectory : tree.look location = some .directory)
    (hfits : ∀ step ∈ steps, step.fits = true)
    (hway : ∀ place, OnWay location steps place → tree.look place = some .directory) :
    tree.trace location steps = .ok (Location.along location steps) := by
  induction steps generalizing location with
  | nil => exact if_pos hdirectory
  | cons step rest ih =>
    have hnext := hway _ (.single rest)
    rw [trace, if_pos hdirectory,
      stepFault?_eq_none (hfits step List.mem_cons_self) (by simp [hnext])]
    exact ih hnext (fun other hother => hfits other (List.mem_cons_of_mem step hother))
      fun place hplace => hway place hplace.cons

/-- A path over directories leads to one. -/
theorem isDir_of_onWay (hspelling : spellingFault? path = none)
    (hdirectory : tree.look (tree.start path) = some .directory)
    (hfits : ∀ step ∈ path.components, step.fits = true)
    (hway : ∀ place, OnWay tree.workDir path.components place →
      tree.look place = some .directory) : tree.isDir path = true := by
  obtain ⟨head, hcomponents, hhead⟩ := exists_head path
  rw [isDir_iff_trace hspelling, ← (hhead tree _).1, ← hcomponents]
  exact ⟨_, trace_of_onWay hdirectory hfits fun place hplace =>
    hway place ((tree.onWay_start_iff (List.prefix_refl _)).1 hplace)⟩

end FileTree

/-! ### Classes -/

theorem IsStepName.not_mem {name : String} (h : IsStepName name) : name ∉ ["", ".", ".."] := by
  simp [h.ne_empty, h.ne_dot, h.ne_dots]

/-- What is pushed comes last, whether it replaces the path or not. -/
theorem Path.segments_push (path other : Path) :
    ∃ front, (path.push other).segments = front ++ other.segments := by
  rw [push]
  split_ifs
  · exact ⟨[], rfl⟩
  · exact ⟨_, rfl⟩
  · exact ⟨_, rfl⟩

/-- An ending without separators stays in the last piece. -/
theorem Text.exists_pieces_append {isSeparator : Char → Bool} {ending : List Char}
    (h : ∀ c ∈ ending, isSeparator c = false) (text : List Char) :
    ∃ front last, pieces isSeparator (text ++ ending) = front ++ [last ++ ending] := by
  induction text with
  | nil => exact ⟨[], [], pieces_of_not_mem h⟩
  | cons c rest ih =>
    obtain ⟨front, last, hpieces⟩ := ih
    rw [List.cons_append, pieces, hpieces]
    split_ifs
    · exact ⟨[] :: front, last, rfl⟩
    · cases front with
      | nil => exact ⟨[], c :: last, rfl⟩
      | cons first others => exact ⟨(c :: first) :: others, last, rfl⟩

/-- The path of a class ends in a name, since its file has an extension. -/
theorem Backend.segments_classPath {backend : Backend} {outputDir path : Path} {name : ClassName}
    (h : backend.classPath outputDir name = .ok path) :
    ∃ front last, path.segments = front ++ [last] ∧ last ∉ ["", ".", ".."] := by
  rw [classPath_eq] at h
  obtain ⟨file, hfile, rfl⟩ := map_eq_ok_iff.1 h
  obtain ⟨stem, -, rfl⟩ := fileName_eq_ok_iff.1 hfile
  have hextension : ∀ c ∈ backend.extension.toList, (c == '/') = false := fun c hc =>
    beq_eq_false_iff_ne.2 fun h => backend.slash_not_mem_extension (h ▸ hc)
  obtain ⟨front, last, hpieces⟩ := Text.exists_pieces_append hextension stem.toList
  have hsegments : (Path.ofText (stem ++ backend.extension)).segments =
      front.map String.ofList ++ [String.ofList (last ++ backend.extension.toList)] := by
    rw [Path.ofText, Text.stringPieces, String.toList_append, hpieces, List.map_append]
    rfl
  rw [Path.pushAll_concat]
  obtain ⟨start, hstart⟩ := Path.segments_push (outputDir.pushAll (backend.directories name))
    (Path.ofText (stem ++ backend.extension))
  refine ⟨start ++ front.map String.ofList,
    String.ofList (last ++ backend.extension.toList), ?_, ?_⟩
  · exact hstart.trans (by rw [hsegments, List.append_assoc])
  · have hlength : 3 ≤ (last ++ backend.extension.toList).length := by
      have := backend.length_extension
      rw [List.length_append]
      omega
    intro hmem
    have hcases : (last ++ backend.extension.toList).length ≤ 2 := by
      simp only [List.mem_cons, List.not_mem_nil, or_false] at hmem
      rcases hmem with hsame | hsame | hsame
      all_goals
        rw [← String.toList_ofList (l := last ++ backend.extension.toList), hsame]
        decide
    omega

namespace Options

variable {options : Options}

/-- The classes of the two targets go to different files. -/
def Apart (options : Options) (target other : Target) : Prop :=
  ∀ unit path text otherUnit otherPath otherText, options.Makes target unit path text →
    options.Makes other otherUnit otherPath otherText → path.components ≠ otherPath.components

theorem Apart.symm {target other : Target} (h : options.Apart target other) :
    options.Apart other target := fun _ _ _ _ _ _ hmakes hother hsame =>
  h _ _ _ _ _ _ hother hmakes hsame.symm

/-- Different files of classes lie at different locations. -/
theorem Apart.location_ne {target other : Target} {targets : List Target}
    {unit otherUnit : Forwarder} {path otherPath : Path} {text otherText : String}
    (h : options.Apart target other)
    (hslash : options.NoSlash targets) (hmem : target ∈ targets) (hother : other ∈ targets)
    (hmakes : options.Makes target unit path text)
    (hotherMakes : options.Makes other otherUnit otherPath otherText) (workDir : Location) :
    path.location workDir ≠ otherPath.location workDir := by
  obtain ⟨file, -, -, hcomponents⟩ := hmakes.components hmem hslash
  obtain ⟨otherFile, -, -, hotherComponents⟩ := hotherMakes.components hother hslash
  intro hsame
  rw [location_file workDir hcomponents, location_file workDir hotherComponents] at hsame
  obtain ⟨hnames, rfl⟩ := List.append_singleton_inj.1 hsame
  refine h _ _ _ _ _ _ hmakes hotherMakes ?_
  rw [hcomponents, hotherComponents, List.append_cancel_left hnames]

/-- No other class lies where the class of a target does that is apart from all of them. -/
theorem not_classFile_of_apart {target : Target} {targets others : List Target} {unit : Forwarder}
    {path : Path} {text : String} (hslash : options.NoSlash targets) (hmem : target ∈ targets)
    (hothers : others ⊆ targets) (hapart : ∀ other ∈ others, options.Apart target other)
    (hmakes : options.Makes target unit path text) (workDir : Location) :
    ¬ options.ClassFile workDir others (path.location workDir) := by
  rintro ⟨other, hother, otherUnit, otherPath, otherText, hotherMakes, hsame⟩
  exact (hapart other hother).location_ne hslash hmem (hothers hother) hmakes hotherMakes _ hsame

/-- A class that can be made does not end the run exactly if its file is accepted. -/
theorem Makes.runTarget_eq_none_iff {target : Target} {unit : Forwarder} {path : Path}
    {text : String} (h : options.Makes target unit path text) (progress : Progress) :
    (options.runTarget progress target).2 = none ↔ progress.tree.Accepts path := by
  obtain ⟨front, last, hsegments, hlast⟩ := Backend.segments_classPath h.classPath
  obtain ⟨log, hrender⟩ : ∃ log, options.render unit = (log, .ok text) :=
    ⟨_, Prod.ext rfl h.render⟩
  rw [runTarget, h.forwarder]
  dsimp only
  rw [runClass, h.classPath]
  dsimp only
  rw [hrender]
  dsimp only
  have hwrite : (((progress.note (target.generationLog options.suffix)).note log).writeFile path
      text).2 = none ↔ progress.tree.Accepts path :=
    Progress.writeFile_eq_none_iff hsegments hlast
  rw [← hwrite]
  rcases ((progress.note (target.generationLog options.suffix)).note log).writeFile path text with
    ⟨next, _ | failure⟩
  · rfl
  · rfl

/-- A target does not end the run exactly if it is skipped, or its class can be made and its file is
accepted. -/
theorem runTarget_snd_eq_none_iff {progress : Progress} {target : Target} :
    (options.runTarget progress target).2 = none ↔
      (∃ fault, target.forwarder options.suffix = .error fault) ∧ options.keepGoing = true ∨
        ∃ unit path text, options.Makes target unit path text ∧ progress.tree.Accepts path := by
  constructor
  · intro h
    rcases runTarget_eq_none (Prod.ext rfl h : options.runTarget progress target = (_, none))
      with ⟨hfault, hkeep, -⟩ | ⟨unit, path, text, hmakes, -⟩
    · exact Or.inl ⟨hfault, hkeep⟩
    · exact Or.inr ⟨unit, path, text, hmakes,
        (hmakes.runTarget_eq_none_iff progress).1 h⟩
  · rintro (⟨⟨fault, hfault⟩, hkeep⟩ | ⟨unit, path, text, hmakes, haccepts⟩)
    · rw [runTarget, hfault]
      dsimp only
      rw [if_pos hkeep]
    · exact (hmakes.runTarget_eq_none_iff progress).2 haccepts

/-! ### Module roots -/

/-- The location of a module root on the way to a class of the targets. -/
def RootFile (options : Options) (workDir : Location) (targets : List Target)
    (location : Location) : Prop :=
  options.backend = .rust ∧ ∃ names file front, options.IsPlace targets names file ∧
    front <+: names ∧ location = options.outputDir.location workDir ++ front ++ [rootFile front]

theorem IsPlace.mono {targets more : List Target} {names : List String} {file : String}
    (h : options.IsPlace targets names file) (hmore : targets ⊆ more) :
    options.IsPlace more names file := by
  obtain ⟨target, hmem, hplace⟩ := h
  exact ⟨target, hmore hmem, hplace⟩

theorem RootFile.mono {workDir location : Location} {targets more : List Target}
    (h : options.RootFile workDir targets location) (hmore : targets ⊆ more) :
    options.RootFile workDir more location := by
  obtain ⟨hbackend, names, file, front, hplace, hrest⟩ := h
  exact ⟨hbackend, names, file, front, hplace.mono hmore, hrest⟩

theorem RootFile.isModuleRoot {workDir location : Location} {targets : List Target}
    (h : options.RootFile workDir targets location) : IsModuleRoot location := by
  obtain ⟨-, -, -, front, -, -, rfl⟩ := h
  exact isModuleRoot_concat.2 (rootFile_cases front)

/-- The module roots that are written are those on the way to the classes. -/
theorem rootFile_of_mem_rootDirectories {progress classes : Progress} {targets : List Target}
    (hslash : options.NoSlash targets) (hclasses : options.RunsTargets progress targets classes)
    (hwritten : progress.written = []) {directory : Path}
    (h : directory ∈ options.rootDirectories classes) (workDir : Location) :
    options.RootFile workDir targets (options.rootLocation workDir directory) := by
  rw [rootDirectories] at h
  cases hbackend : options.backend with
  | java =>
    rw [hbackend] at h
    cases h
  | rust =>
    rw [hbackend] at h
    obtain ⟨names, file, front, hplace, hfront, hsteps⟩ :=
      (mem_moduleDirs_iff_isPlace hslash hclasses hwritten).1 (List.mem_map_of_mem h)
    refine ⟨hbackend, names, file, front, hplace, hfront, ?_⟩
    rw [rootLocation, rootName_eq hsteps, location_directory _ hsteps]

/-- A module root does not end the run exactly if its directory is there and can be declared, and
its file is accepted. -/
theorem runModule_eq_none_iff {progress : Progress} {directory : Path} :
    (options.runModule progress directory).2 = none ↔
      progress.tree.isDir directory = true ∧
        (∃ text, moduleSource (progress.tree.listing
          (directory.location progress.tree.workDir)) = .ok text) ∧
        progress.tree.Accepts (options.moduleRoot directory) := by
  have hname : IsStepName (options.rootName directory) := options.isStepName_rootName directory
  obtain ⟨front, hsegments⟩ : ∃ front, (options.moduleRoot directory).segments =
      front ++ [options.rootName directory] := by
    obtain ⟨front, hfront⟩ := directory.segments_push (Path.ofText (options.rootName directory))
    exact ⟨front, hfront.trans (by rw [Path.ofText_of_no_slash hname.no_slash])⟩
  rw [runModule]
  rcases hentries : progress.tree.entries directory with fault | entries
  · refine iff_of_false (by simp) fun ⟨hdirectory, _⟩ => ?_
    rw [entries_eq_ok_iff.2 ⟨hdirectory, rfl⟩] at hentries
    cases hentries
  · obtain ⟨hdirectory, rfl⟩ := entries_eq_ok_iff.1 hentries
    dsimp only
    rcases hsource : moduleSource
      (progress.tree.listing (directory.location progress.tree.workDir)) with fault | text
    · simp
    · simp only [hdirectory, true_and, Except.ok.injEq, exists_eq']
      exact Progress.writeFile_eq_none_iff hsegments hname.not_mem

/-- The module root of a directory is accepted unless a directory is in its place. -/
theorem accepts_moduleRoot {tree : FileTree} {directory : Path}
    (hdirectory : tree.isDir directory = true)
    (hspelling : spellingFault? (options.moduleRoot directory) = none)
    (hlook : tree.look (options.rootLocation tree.workDir directory) ≠ some .directory) :
    tree.Accepts (options.moduleRoot directory) := by
  have hstart : tree.start (options.moduleRoot directory) = tree.start directory :=
    tree.start_of_components [options.rootName directory]
      (options.components_moduleRoot directory)
  have hpave : tree.pave (tree.start (options.moduleRoot directory)) directory.components =
      some tree := hstart ▸ pave_of_isDir hdirectory
  have hsteps := options.components_moduleRoot directory
  refine ⟨hspelling, fun step hstep => ?_, tree, ?_, by rwa [location_moduleRoot]⟩
  · rw [hsteps] at hstep
    rcases List.mem_append.1 hstep with hstep | hstep
    · exact fits_of_pave hpave hstep
    · obtain rfl := List.mem_singleton.1 hstep
      rcases options.rootName_cases directory with h | h
      · rw [h]
        decide
      · rw [h]
        decide
  · rw [hsteps, List.dropLast_concat, hpave]

/-! ### Whole runs -/

/-- A run that ends well makes the classes of all its targets. -/
theorem runAll_makes {progress last : Progress} {targets : List Target}
    (h : options.runAll progress targets = (last, none)) (hfailed : progress.failed = 0) :
    ∃ classes, options.runTargets progress targets = (classes, none) ∧
      options.runModules classes (options.rootDirectories classes) = (last, none) ∧
      ∀ target ∈ targets, ∃ unit path text, options.Makes target unit path text := by
  obtain ⟨classes, hclasses, hroots, hreport⟩ := runAll_ends h (Or.inl rfl)
  have hruns := runTargets_runsTargets hclasses
  have hnone : classes.failed = 0 := by
    rw [← (runModules_runsModules hroots).failed]
    by_contra hne
    rw [if_neg hne] at hreport
    cases hreport
  refine ⟨classes, hclasses, hroots, fun target hmem => ?_⟩
  obtain ⟨unit, hunit⟩ := hruns.failed_eq (hnone.trans hfailed.symm) target hmem
  obtain ⟨path, text, hmakes, -⟩ := hruns.made target hmem unit hunit
  exact ⟨unit, path, text, hmakes⟩

end Options

end Forwarding
