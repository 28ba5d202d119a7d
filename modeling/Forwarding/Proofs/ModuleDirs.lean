import Forwarding.Proofs.Backend
import Forwarding.Proofs.Spelling

/-!
# The spelling of module directories

A module directory is spelled by the output directory and the names below it, whichever class it
was found from.  So more classes have more module directories, and none is spelled differently.

* `Path.parent?_of_mem_ancestorsUpTo`: the ancestors of a path to which names were pushed, as far as
  they are not above its beginning;
* `moduleDirs_subset`: the module directories of some of the classes.
-/

namespace Forwarding

namespace Path

/-- An ancestor has the first steps, and not all of them. -/
theorem components_of_mem_ancestorsUpTo {path directory : Path} {count : Nat}
    (h : directory ∈ path.ancestorsUpTo count) :
    ∃ rest last, path.components = directory.components ++ rest ++ [last] := by
  induction count generalizing path with
  | zero => cases h
  | succ count ih =>
    rw [ancestorsUpTo] at h
    split at h
    · cases h
    · rename_i parent hparent
      obtain ⟨last, hsteps⟩ := components_of_parent? hparent
      rcases List.mem_cons.1 h with rfl | h
      · exact ⟨[], last, by rw [hsteps, List.append_nil]⟩
      · obtain ⟨rest, other, hparentSteps⟩ := ih h
        exact ⟨rest ++ [other], last, by rw [hsteps, hparentSteps, List.append_assoc _ rest]⟩

theorem length_of_mem_ancestorsUpTo {path directory : Path} {count : Nat}
    (h : directory ∈ path.ancestorsUpTo count) :
    directory.components.length < path.components.length := by
  obtain ⟨rest, last, hsteps⟩ := components_of_mem_ancestorsUpTo h
  rw [hsteps, List.length_append, List.length_append, List.length_singleton]
  omega

/-- An ancestor that is not above the beginning of the path is the parent of what the names before
its end and one more are pushed to. -/
theorem parent?_of_mem_ancestorsUpTo {path directory : Path} {names front : List String}
    {count : Nat} (hnames : ∀ name ∈ names, IsStepName name)
    (h : directory ∈ (path.pushAll names).ancestorsUpTo count)
    (hdirectory : directory.components = path.components ++ front.map .named) :
    ∃ name, IsStepName name ∧
      ((path.pushAll front).push (ofText name)).parent? = some directory := by
  have hbelow : ∀ {other : Path} {count : Nat}, directory ∈ other.ancestorsUpTo count →
      path.components.length < other.components.length := by
    intro other count hmem
    have hlength := length_of_mem_ancestorsUpTo hmem
    rw [hdirectory, List.length_append] at hlength
    omega
  -- from the last name to the first, one ancestor for each
  induction names using List.reverseRecOn generalizing count with
  | nil => exact absurd (hbelow h) (Nat.lt_irrefl _)
  | append_singleton names last ih =>
    have hfront : ∀ name ∈ names, IsStepName name := fun name hname =>
      hnames name (List.mem_append_left _ hname)
    have hlast : IsStepName last := hnames last (by simp)
    have hsteps : (path.pushAll (names ++ [last])).components =
        path.components ++ names.map .named ++ [.named last] := by
      rw [components_pushAll path hnames]
      simp
    obtain ⟨parent, hparent, hparentSteps⟩ := exists_parent? hsteps (by simp)
    cases count with
    | zero => cases h
    | succ count =>
      rw [ancestorsUpTo, hparent] at h
      rw [pushAll_concat] at hparent
      rcases List.mem_cons.1 h with rfl | h
      · refine ⟨last, hlast, ?_⟩
        have hsame : front = names := by
          rw [hparentSteps] at hdirectory
          exact (List.map_injective_iff.2 (fun _ _ => Component.named.inj)
            (List.append_cancel_left hdirectory)).symm
        rwa [hsame]
      · rcases List.eq_nil_or_concat' names with rfl | ⟨others, name, rfl⟩
        · have hlength := hbelow h
          rw [hparentSteps, List.map_nil, List.append_nil] at hlength
          exact absurd hlength (Nat.lt_irrefl _)
        · rw [pushAll_concat, parent?_push_push _ (hfront name (by simp)) hlast] at hparent
          rw [← Option.some.inj hparent, ← pushAll_concat] at h
          exact ih hfront h

end Path

theorem mem_of_mem_upToOutput {outputDir directory : Path} {directories : List Path}
    (h : directory ∈ upToOutput outputDir directories) : directory ∈ directories := by
  induction directories with
  | nil => cases h
  | cons first above ih =>
    rw [upToOutput] at h
    split_ifs at h
    · cases h
    · exact List.mem_singleton.1 h ▸ List.mem_cons_self
    · rcases List.mem_cons.1 h with rfl | h
      · exact List.mem_cons_self
      · exact List.mem_cons_of_mem _ (ih h)

/-- The path of a class is the output directory with its directories and its file pushed to it. -/
theorem Backend.classPath_eq_pushAll {backend : Backend} {outputDir path : Path} {name : ClassName}
    (h : backend.classPath outputDir name = .ok path) (hname : name.NoSlash) :
    ∃ names file, (∀ step ∈ names ++ [file], IsStepName step) ∧
      path = outputDir.pushAll (names ++ [file]) := by
  rw [classPath_eq] at h
  obtain ⟨file, hfile, rfl⟩ := map_eq_ok_iff.1 h
  exact ⟨backend.directories name, file, isStepName_of_mem hname hfile, rfl⟩

/-- A directory above one class is spelled as the directory above another one with the same steps.
-/
theorem eq_of_mem_ancestorsWithin {outputDir directory other : Path} {names others : List String}
    {file otherFile : String} (hnames : ∀ name ∈ names ++ [file], IsStepName name)
    (hothers : ∀ name ∈ others ++ [otherFile], IsStepName name)
    (hdirectory : directory ∈ ancestorsWithin outputDir (outputDir.pushAll (names ++ [file])))
    (hother : other ∈ ancestorsWithin outputDir (outputDir.pushAll (others ++ [otherFile])))
    (hsteps : directory.components = other.components) : directory = other := by
  have hcomponents : (outputDir.pushAll (names ++ [file])).components =
      outputDir.components ++ names.map .named ++ [.named file] := by
    rw [Path.components_pushAll outputDir hnames]
    simp
  obtain ⟨front, -, hfront⟩ :=
    (mem_ancestorsWithin_iff hcomponents).1 (List.mem_map_of_mem hdirectory)
  obtain ⟨name, hname, hparent⟩ :=
    Path.parent?_of_mem_ancestorsUpTo hnames (mem_of_mem_upToOutput hdirectory) hfront
  obtain ⟨otherName, hotherName, hotherParent⟩ :=
    Path.parent?_of_mem_ancestorsUpTo hothers (mem_of_mem_upToOutput hother) (hsteps ▸ hfront)
  obtain ⟨parent, hpush⟩ := Path.exists_parent?_push (outputDir.pushAll front)
  rw [hpush name hname] at hparent
  rw [hpush otherName hotherName] at hotherParent
  exact Option.some.inj (hparent.symm.trans hotherParent)

/-- The module directories of some of the classes are among those of all. -/
theorem moduleDirs_subset {outputDir : Path} {written more : List Path}
    (hclass : ∀ path ∈ more, ∃ names file, (∀ step ∈ names ++ [file], IsStepName step) ∧
      path = outputDir.pushAll (names ++ [file]))
    (h : written ⊆ more) : moduleDirs outputDir written ⊆ moduleDirs outputDir more := by
  intro directory hdirectory
  obtain ⟨path, hpath, hmem⟩ := List.mem_flatMap.1 (mem_of_mem_ascending hdirectory)
  obtain ⟨other, hother, heq⟩ : ∃ other ∈ moduleDirs outputDir more,
      directory.compare other = .eq :=
    exists_eq_mem_ascending (List.mem_flatMap.2 ⟨path, h hpath, hmem⟩)
  obtain ⟨otherPath, hotherPath, hotherMem⟩ := List.mem_flatMap.1 (mem_of_mem_ascending hother)
  obtain ⟨names, file, hnames, rfl⟩ := hclass path (h hpath)
  obtain ⟨others, otherFile, hothers, rfl⟩ := hclass otherPath hotherPath
  rwa [eq_of_mem_ancestorsWithin hnames hothers hmem hotherMem (Path.compare_eq_iff.1 heq)]

end Forwarding
