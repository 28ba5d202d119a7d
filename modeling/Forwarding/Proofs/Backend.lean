import Forwarding.Backend
import Forwarding.Proofs.Ascending
import Forwarding.Proofs.Crate.Ident
import Forwarding.Proofs.Path
import Forwarding.Proofs.Pointwise
import Forwarding.Proofs.Text.SnakeCase

/-!
# Places of files and module directories

* `Backend.components_classPath`: without slashes in the names, the file of a class lies in the
  directories of its package under the output directory;
* `mem_ancestorsWithin_iff`: the ancestors of such a file down from the output directory;
* `mem_moduleDirs_iff`: the directories that need a module root, by their steps.
-/

namespace Forwarding

open Text

/-! ### Segments of packages -/

/-- A package segment is a piece of the package without a dot. -/
theorem ClassName.of_mem_packageSegments {name : ClassName} {segment : String}
    (h : segment ∈ name.packageSegments) :
    segment ≠ "" ∧ '.' ∉ segment.toList ∧ ∀ c ∈ segment.toList, c ∈ name.package.toList := by
  obtain ⟨hsegment, hempty⟩ := List.mem_filter.1 h
  obtain ⟨piece, hpiece, rfl⟩ := List.mem_map.1 hsegment
  rw [String.toList_ofList]
  refine ⟨by simpa using hempty, fun hdot => ?_, fun c hc => mem_of_mem_pieces hpiece hc⟩
  exact absurd (separator_not_mem_pieces hpiece '.' hdot) (by decide)

/-! ### Steps of class files -/

/-- The package and the simple name of a class have no slash. -/
structure ClassName.NoSlash (name : ClassName) : Prop where
  package : '/' ∉ name.package.toList
  simpleName : '/' ∉ name.simpleName.toList

theorem isStepName_of_no_dot {name : String} (hempty : name ≠ "") (hdot : '.' ∉ name.toList)
    (hslash : '/' ∉ name.toList) : IsStepName name where
  ne_empty := hempty
  ne_dot := by
    rintro rfl
    exact hdot (by decide)
  ne_dots := by
    rintro rfl
    exact hdot (by decide)
  no_slash := hslash

/-- A safe form has no mark of ASCII but underscores that the name does not have. -/
theorem mem_of_mem_safeName {name : String} {c : Char} (h : c ∈ (safeName name).toList)
    (hc : c ≠ '_') : c ∈ name.toList := by
  obtain ⟨plain, hplain, hsafe⟩ := safeName_cases name
  have hmem : c ∈ plain.toList := by
    rcases hsafe with ⟨-, hsafe⟩ | ⟨-, hsafe⟩
    · rwa [hsafe] at h
    · rw [hsafe, String.toList_append, List.mem_append] at h
      exact h.resolve_right fun hmark => hc (List.mem_singleton.1 hmark)
  rw [hplain] at hmem
  obtain ⟨d, hd, hsame⟩ := List.mem_map.1 hmem
  split_ifs at hsame
  · exact absurd hsame.symm hc
  · rwa [← hsame]

namespace Backend

/-- The directories of a class under the output directory. -/
def directories (backend : Backend) (name : ClassName) : List String :=
  name.packageSegments.map backend.directoryName

/-- Without slashes in the package each of its directories is one step. -/
theorem isStepName_directory (backend : Backend) {name : ClassName}
    (hname : '/' ∉ name.package.toList) {directory : String}
    (h : directory ∈ backend.directories name) : IsStepName directory := by
  obtain ⟨segment, hsegment, rfl⟩ := List.mem_map.1 h
  obtain ⟨hempty, hdot, hpackage⟩ := ClassName.of_mem_packageSegments hsegment
  have hslash : '/' ∉ segment.toList := fun hmem => hname (hpackage '/' hmem)
  cases backend with
  | java => exact isStepName_of_no_dot hempty hdot hslash
  | rust =>
    refine isStepName_of_no_dot (fun hsafe => hempty ?_)
      (fun hmem => hdot (mem_of_mem_safeName hmem (by decide)))
      (fun hmem => hslash (mem_of_mem_safeName hmem (by decide)))
    rw [directoryName] at hsafe
    exact safeName_eq_empty_iff.1 hsafe

/-- The extension of the files of a language. -/
def extension : Backend → String
  | .java => ".java"
  | .rust => ".rs"

theorem slash_not_mem_extension (backend : Backend) : '/' ∉ backend.extension.toList := by
  cases backend <;> decide

theorem length_extension (backend : Backend) : 3 ≤ backend.extension.toList.length := by
  cases backend <;> decide

/-- What stands before the extension in the name of a file, if the words of the name do not come
apart inside a character. -/
def stem? : Backend → String → Option String
  | .java, simpleName => some simpleName
  | .rust, simpleName => snakeCase simpleName

theorem fileName_eq_ok_iff {backend : Backend} {simpleName file : String} :
    backend.fileName simpleName = .ok file ↔
      ∃ stem, backend.stem? simpleName = some stem ∧ file = stem ++ backend.extension := by
  cases backend with
  | java => simp [fileName, stem?, extension, eq_comm]
  | rust =>
    rw [fileName, stem?]
    cases snakeCase simpleName <;> simp [extension, eq_comm]

theorem fileName_rust_eq_ok_iff {simpleName file : String} :
    Backend.rust.fileName simpleName = .ok file ↔
      ∃ stem, snakeCase simpleName = some stem ∧ file = stem ++ ".rs" := fileName_eq_ok_iff

theorem slash_not_mem_stem {backend : Backend} {simpleName stem : String}
    (h : backend.stem? simpleName = some stem) (hslash : '/' ∉ simpleName.toList) :
    '/' ∉ stem.toList := by
  cases backend with
  | java =>
    obtain rfl := Option.some.inj h
    exact hslash
  | rust => exact slash_not_mem_snakeCase hslash h

theorem isStepName_fileName {backend : Backend} {simpleName file : String}
    (h : backend.fileName simpleName = .ok file) (hslash : '/' ∉ simpleName.toList) :
    IsStepName file := by
  obtain ⟨stem, hstem, rfl⟩ := fileName_eq_ok_iff.1 h
  -- the extension alone is longer than a dot or two dots
  have hlength : 3 ≤ (stem ++ backend.extension).toList.length := by
    have := backend.length_extension
    rw [String.toList_append, List.length_append]
    omega
  constructor
  · intro hsame
    rw [hsame] at hlength
    exact absurd hlength (by decide)
  · intro hsame
    rw [hsame] at hlength
    exact absurd hlength (by decide)
  · intro hsame
    rw [hsame] at hlength
    exact absurd hlength (by decide)
  · rw [String.toList_append, List.mem_append]
    exact not_or.2 ⟨slash_not_mem_stem hstem hslash, backend.slash_not_mem_extension⟩

/-- The directories and the file of a class are pushed to the output directory. -/
theorem classPath_eq (backend : Backend) (outputDir : Path) (name : ClassName) :
    backend.classPath outputDir name =
      (backend.fileName name.simpleName).map fun file =>
        outputDir.pushAll (backend.directories name ++ [file]) := rfl

/-- Without slashes in the names each directory of a class is one step, and so is its file. -/
theorem isStepName_of_mem {backend : Backend} {name : ClassName} {file : String}
    (hname : name.NoSlash) (hfile : backend.fileName name.simpleName = .ok file) :
    ∀ step ∈ backend.directories name ++ [file], IsStepName step := by
  rw [List.forall_mem_append, List.forall_mem_singleton]
  exact ⟨fun _ => isStepName_directory backend hname.package,
    isStepName_fileName hfile hname.simpleName⟩

/-- Without slashes in the names, the file of a class lies in the directories of its package under
the output directory. -/
theorem components_classPath {backend : Backend} {outputDir path : Path} {name : ClassName}
    (h : backend.classPath outputDir name = .ok path) (hname : name.NoSlash) :
    ∃ file, backend.fileName name.simpleName = .ok file ∧
      path.components = outputDir.components ++ (backend.directories name).map .named ++
        [.named file] := by
  rw [classPath_eq] at h
  obtain ⟨file, hfile, rfl⟩ := map_eq_ok_iff.1 h
  refine ⟨file, hfile, ?_⟩
  rw [Path.components_pushAll outputDir (isStepName_of_mem hname hfile)]
  simp

end Backend

/-! ### Module directories -/

theorem Path.startsWith_iff {path directory : Path} :
    path.startsWith directory = true ↔ directory.components <+: path.components :=
  List.isPrefixOf_iff_prefix

theorem Path.same_iff {path other : Path} :
    path.same other = true ↔ path.components = other.components := beq_iff_eq

/-- A path of names under the output directory and its ancestors, down from the output
directory. -/
theorem mem_upToOutput_iff {outputDir path : Path} {names : List String} {count : Nat}
    (h : path.components = outputDir.components ++ names.map .named)
    (hcount : names.length ≤ count) {steps : List Component} :
    steps ∈ (upToOutput outputDir (path :: path.ancestorsUpTo count)).map Path.components ↔
      ∃ front, front <+: names ∧ steps = outputDir.components ++ front.map .named := by
  have hstarts : path.startsWith outputDir = true :=
    Path.startsWith_iff.2 (h ▸ List.prefix_append _ _)
  induction names using List.reverseRecOn generalizing path count with
  | nil =>
    have hsame : path.same outputDir = true := Path.same_iff.2 (by simpa using h)
    simp [upToOutput, hstarts, hsame, h]
  | append_singleton front name ih =>
    rw [List.map_append, List.map_singleton, ← List.append_assoc] at h
    have hsame : path.same outputDir = false := by
      rw [← Bool.not_eq_true, Path.same_iff, h]
      intro heq
      have := congrArg List.length heq
      simp at this
    obtain ⟨parent, hparent, hsteps⟩ := Path.exists_parent? h (by simp)
    obtain ⟨count, rfl⟩ : ∃ smaller, count = smaller + 1 :=
      Nat.exists_eq_add_one.2 (by simp at hcount; omega)
    have hfront : front.length ≤ count := by
      simp at hcount
      omega
    have hrest := ih hsteps hfront (Path.startsWith_iff.2 (hsteps ▸ List.prefix_append _ _))
    rw [upToOutput, hstarts, hsame, Path.ancestorsUpTo, hparent]
    simp only [Bool.not_true, Bool.false_eq_true, if_false, List.map_cons, List.mem_cons, hrest, h,
      List.prefix_concat_iff]
    constructor
    · rintro (rfl | ⟨names, hnames, rfl⟩)
      · exact ⟨front ++ [name], Or.inl rfl, by simp⟩
      · exact ⟨names, Or.inr hnames, rfl⟩
    · rintro ⟨names, rfl | hnames, rfl⟩
      · exact Or.inl (by simp)
      · exact Or.inr ⟨names, hnames, rfl⟩

/-- The ancestors of a file in directories under the output directory, down from this. -/
theorem mem_ancestorsWithin_iff {outputDir file : Path} {names : List String} {last : String}
    (h : file.components = outputDir.components ++ names.map .named ++ [.named last])
    {steps : List Component} :
    steps ∈ (ancestorsWithin outputDir file).map Path.components ↔
      ∃ front, front <+: names ∧ steps = outputDir.components ++ front.map .named := by
  obtain ⟨parent, hparent, hsteps⟩ := Path.exists_parent? h (by simp)
  have hlength : file.components.length = outputDir.components.length + names.length + 1 := by
    simp [h, Nat.add_assoc]
  rw [ancestorsWithin, Path.ancestors, hlength, Path.ancestorsUpTo, hparent]
  exact mem_upToOutput_iff hsteps (by omega)

/-- The directories that need a module root, by their steps. -/
theorem components_moduleDirs (outputDir : Path) (written : List Path) :
    (moduleDirs outputDir written).map Path.components =
      ascending Path.compareComponents
        (written.flatMap fun file => (ancestorsWithin outputDir file).map Path.components) := by
  have hkey (a b : Path) : a.compare b = Path.compareComponents a.components b.components := rfl
  rw [moduleDirs, map_ascending hkey, List.map_flatMap]

/-- The directories that need a module root are, by their steps, the ancestors of the written
files. -/
theorem mem_moduleDirs_iff {outputDir : Path} {written : List Path} {steps : List Component} :
    steps ∈ (moduleDirs outputDir written).map Path.components ↔
      ∃ file ∈ written, steps ∈ (ancestorsWithin outputDir file).map Path.components := by
  rw [components_moduleDirs, mem_ascending, List.mem_flatMap]

end Forwarding
