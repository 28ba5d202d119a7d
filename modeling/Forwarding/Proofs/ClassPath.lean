import Forwarding.Proofs.Backend
import Forwarding.Proofs.ClassName

/-!
# Where the file of a class lies

Without slashes in its names, a class has its file below the output directory: one directory down
for each non-empty segment of its package, none of them a step upwards or no step at all.  A simple
name may have dots, so the file name is not enough to tell the package from the simple name; but the
directories keep the segments apart, and so in Java different classes have different files.

* `Backend.exists_classPath`: a class has a file, and its steps;
* `Backend.steps_inj`: Java files with the same steps are those of the same class;
* `Backend.classPath_inside`: both together.
-/

namespace Forwarding.Backend

open Text

/-- The steps from the output directory to the file of a class with the given stem. -/
def steps (backend : Backend) (name : ClassName) (stem : String) : List Component :=
  name.packageSegments.map (fun segment => .named (backend.directoryName segment)) ++
    [.named (stem ++ backend.extension)]

/-- A class whose stem is found has a file, and its steps follow those of the output directory. -/
theorem exists_classPath (backend : Backend) {name : ClassName} {stem : String}
    (hname : name.NoSlash) (hstem : backend.stem? name.simpleName = some stem) (outputDir : Path) :
    ∃ path, backend.classPath outputDir name = .ok path ∧
      path.components = outputDir.components ++ backend.steps name stem := by
  have hfile : backend.fileName name.simpleName = .ok (stem ++ backend.extension) :=
    fileName_eq_ok_iff.2 ⟨stem, hstem, rfl⟩
  refine ⟨outputDir.pushAll (backend.directories name ++ [stem ++ backend.extension]), ?_, ?_⟩
  · rw [classPath_eq, hfile]
    rfl
  · rw [Path.components_pushAll outputDir (isStepName_of_mem hname hfile), steps, directories,
      List.map_append, List.map_map]
    rfl

/-- In Java the steps tell the simple name and, if it has no empty segment, the package. -/
theorem steps_inj {name other : ClassName} (hname : name.HasPlainPackage)
    (hother : other.HasPlainPackage)
    (h : Backend.java.steps name name.simpleName = Backend.java.steps other other.simpleName) :
    name = other := by
  obtain ⟨hsegments, hfile⟩ := List.append_singleton_inj.1 h
  have hpackage : name.package = other.package := by
    have hsame : name.packageSegments = other.packageSegments :=
      List.map_injective_iff.2 (fun _ _ => Component.named.inj) hsegments
    rw [hname.package_eq, hother.package_eq, hsame]
  have hsimple : name.simpleName = other.simpleName := by
    have hchars := congrArg String.toList (Component.named.inj hfile)
    rw [String.toList_append, String.toList_append, List.append_cancel_right_eq] at hchars
    exact String.toList_inj.1 hchars
  cases name
  cases other
  simp_all

/-- **The file of a class lies in the output directory, one directory down for each non-empty
segment of its package**, unless its simple name comes apart inside a character; and in Java two
classes have the same file only if they are the same, as far as their packages have no empty
segments. -/
theorem classPath_inside (outputDir : Path) :
    (∀ (backend : Backend) (name : ClassName), name.NoSlash →
      (backend = .rust → snakeCase name.simpleName ≠ none) →
        ∃ path stem, backend.classPath outputDir name = .ok path ∧
          path.components = outputDir.components ++
            name.packageSegments.map (fun segment => .named (backend.directoryName segment)) ++
            [.named (stem ++ backend.extension)] ∧
          (∀ segment ∈ name.packageSegments, IsStepName (backend.directoryName segment)) ∧
          IsStepName (stem ++ backend.extension)) ∧
      ∀ name other : ClassName, name.NoSlash → other.NoSlash →
        name.HasPlainPackage → other.HasPlainPackage →
          ∀ path otherPath, Backend.java.classPath outputDir name = .ok path →
            Backend.java.classPath outputDir other = .ok otherPath →
              (path.same otherPath = true ↔ name = other) := by
  constructor
  · intro backend name hname hsnake
    obtain ⟨stem, hstem⟩ : ∃ stem, backend.stem? name.simpleName = some stem := by
      cases backend with
      | java => exact ⟨name.simpleName, rfl⟩
      | rust => exact Option.ne_none_iff_exists'.1 (hsnake rfl)
    obtain ⟨path, hpath, hcomponents⟩ := exists_classPath backend hname hstem outputDir
    refine ⟨path, stem, hpath, ?_, fun segment hsegment => ?_, ?_⟩
    · rw [hcomponents, steps, List.append_assoc]
    · exact isStepName_directory backend hname.package (List.mem_map_of_mem hsegment)
    · exact isStepName_fileName (fileName_eq_ok_iff.2 ⟨stem, hstem, rfl⟩) hname.simpleName
  · intro name other hname hother hplain hotherPlain path otherPath hpath hotherPath
    obtain ⟨found, hfound, hcomponents⟩ :=
      exists_classPath .java hname (rfl : java.stem? name.simpleName = _) outputDir
    obtain ⟨otherFound, hotherFound, hotherComponents⟩ :=
      exists_classPath .java hother (rfl : java.stem? other.simpleName = _) outputDir
    obtain rfl := Except.ok.inj (hfound.symm.trans hpath)
    obtain rfl := Except.ok.inj (hotherFound.symm.trans hotherPath)
    rw [Path.same_iff, hcomponents, hotherComponents, List.append_cancel_left_eq]
    constructor
    · exact steps_inj hplain hotherPlain
    · rintro rfl
      rfl

/-- The same dots between the names of two classes, once in the simple name and once in the
package. -/
theorem classPath_inside_dotted :
    let nested : ClassName := ⟨"a", "b.C"⟩
    let packaged : ClassName := ⟨"a.b", "C"⟩
    nested.NoSlash ∧ packaged.NoSlash ∧ nested.HasPlainPackage ∧ packaged.HasPlainPackage ∧
      Backend.java.classPath ⟨["out"]⟩ nested = .ok ⟨["out", "a", "b.C.java"]⟩ ∧
      Backend.java.classPath ⟨["out"]⟩ packaged = .ok ⟨["out", "a", "b", "C.java"]⟩ ∧
      ¬ Path.same ⟨["out", "a", "b.C.java"]⟩ ⟨["out", "a", "b", "C.java"]⟩ = true ∧
      snakeCase "C" ≠ none ∧
      ∃ path stem, Backend.rust.classPath ⟨["out"]⟩ ⟨"crate..x", "C"⟩ = .ok path ∧
        path.components =
          [.named "out", .named "crate_", .named "x", .named (stem ++ ".rs")] := by
  intro nested packaged
  have hnested : nested.NoSlash := ⟨by decide, by decide⟩
  have hpackaged : packaged.NoSlash := ⟨by decide, by decide⟩
  have hplain : nested.HasPlainPackage := Or.inr (by decide)
  have hotherPlain : packaged.HasPlainPackage := Or.inr (by decide)
  have hpath : Backend.java.classPath ⟨["out"]⟩ nested = .ok ⟨["out", "a", "b.C.java"]⟩ :=
    toOption_eq_some_iff.1 (by decide +kernel)
  have hotherPath : Backend.java.classPath ⟨["out"]⟩ packaged =
      .ok ⟨["out", "a", "b", "C.java"]⟩ := toOption_eq_some_iff.1 (by decide +kernel)
  obtain ⟨hinside, hinjective⟩ := classPath_inside ⟨["out"]⟩
  have hsnake : snakeCase "C" ≠ none := by decide +kernel
  refine ⟨hnested, hpackaged, hplain, hotherPlain, hpath, hotherPath, ?_, hsnake, ?_⟩
  · rw [hinjective nested packaged hnested hpackaged hplain hotherPlain _ _ hpath hotherPath]
    decide
  · obtain ⟨path, stem, hfile, hcomponents, -⟩ :=
      hinside .rust ⟨"crate..x", "C"⟩ ⟨by decide, by decide⟩ fun _ => hsnake
    have hpackage : (ClassName.mk "crate..x" "C").packageSegments.map
        (fun segment => Component.named (Backend.rust.directoryName segment)) =
          [.named "crate_", .named "x"] := by decide
    have houtput : Path.components ⟨["out"]⟩ = [.named "out"] := by decide
    rw [hpackage, houtput] at hcomponents
    exact ⟨path, stem, hfile, hcomponents⟩

end Forwarding.Backend
