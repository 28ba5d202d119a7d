import Forwarding.Proofs.ModuleDirs
import Mathlib.Logic.Relation

/-!
# The directories above a path

The way up from a file is walked until it leaves the output directory or has reached it.  Nothing
is lost by that: further up there are only first steps of what was seen, and fewer of them, so no
directory there is in the output directory.

* `Path.mem_ancestors_iff`: the ancestors of a path are its parent, the parent of this, and so on;
* `ancestorsWithin_eq_filter`: those that are found on the way up are all in the output directory;
* `moduleDirs_ancestry`: the module directories are the directories above the written files that
  are in the output directory, each one before those in it.
-/

namespace Forwarding

namespace Path

variable {path directory : Path} {count : Nat}

/-- One step up. -/
def HasParent (child parent : Path) : Prop := child.parent? = some parent

theorem hasParent_rightUnique : Relator.RightUnique HasParent :=
  fun _ _ _ hparent hother => Option.some.inj (hparent.symm.trans hother)

/-- The directory is the parent of the path, or the parent of this, and so on. -/
def IsAbove (directory path : Path) : Prop := Relation.TransGen HasParent path directory

/-- Further up there are only first steps of the path. -/
theorem isPrefix_of_reflTransGen (h : Relation.ReflTransGen HasParent path directory) :
    directory.components <+: path.components := by
  induction h with
  | refl => exact List.prefix_refl _
  | tail _ hparent ih =>
    obtain ⟨last, hsteps⟩ := components_of_parent? hparent
    exact (hsteps ▸ List.prefix_append _ [last]).trans ih

theorem IsAbove.isPrefix (h : directory.IsAbove path) : directory.components <+: path.components :=
  isPrefix_of_reflTransGen h.to_reflTransGen

/-! ### The walk up -/

theorem isAbove_of_mem_ancestorsUpTo (h : directory ∈ path.ancestorsUpTo count) :
    directory.IsAbove path := by
  induction count generalizing path with
  | zero => cases h
  | succ count ih =>
    rw [ancestorsUpTo] at h
    split at h
    · cases h
    · rename_i parent hparent
      rcases List.mem_cons.1 h with rfl | h
      · exact .single hparent
      · exact .head hparent (ih h)

/-- A walk that may have as many rounds as the path has steps comes to the parent and goes on from
there. -/
theorem exists_ancestorsUpTo_eq {parent : Path} (hparent : path.HasParent parent)
    (hcount : path.components.length ≤ count) :
    ∃ rounds, path.ancestorsUpTo count = parent :: parent.ancestorsUpTo rounds ∧
      parent.components.length ≤ rounds := by
  obtain ⟨last, hsteps⟩ := components_of_parent? hparent
  rw [hsteps, List.length_append, List.length_singleton] at hcount
  obtain ⟨rounds, rfl⟩ := Nat.exists_eq_add_of_le' hcount
  refine ⟨rounds + parent.components.length, ?_, Nat.le_add_left _ _⟩
  rw [← Nat.add_assoc, ancestorsUpTo, (hparent : path.parent? = some parent)]

theorem IsAbove.mem_ancestorsUpTo (h : directory.IsAbove path)
    (hcount : path.components.length ≤ count) : directory ∈ path.ancestorsUpTo count := by
  induction h using Relation.TransGen.head_induction_on generalizing count with
  | single hparent =>
    obtain ⟨rounds, hwalk, -⟩ := exists_ancestorsUpTo_eq hparent hcount
    rw [hwalk]
    exact List.mem_cons_self
  | head hparent _ ih =>
    obtain ⟨rounds, hwalk, hrounds⟩ := exists_ancestorsUpTo_eq hparent hcount
    rw [hwalk]
    exact List.mem_cons_of_mem _ (ih hrounds)

/-- The ancestors of a path are the directories above it. -/
theorem mem_ancestors_iff : directory ∈ path.ancestors ↔ directory.IsAbove path :=
  ⟨isAbove_of_mem_ancestorsUpTo, fun h => h.mem_ancestorsUpTo (Nat.le_refl _)⟩

/-- The directory `above` has the first steps of another one, and fewer. -/
def IsShorter (directory above : Path) : Prop :=
  above.components <+: directory.components ∧
    above.components.length < directory.components.length

/-- Further up, directories have fewer steps. -/
theorem pairwise_ancestorsUpTo (path : Path) (count : Nat) :
    (path.ancestorsUpTo count).Pairwise IsShorter := by
  induction count generalizing path with
  | zero => exact List.Pairwise.nil
  | succ count ih =>
    rw [ancestorsUpTo]
    split
    · exact List.Pairwise.nil
    · rename_i parent hparent
      refine List.pairwise_cons.2 ⟨fun above habove => ?_, ih parent⟩
      exact ⟨(isAbove_of_mem_ancestorsUpTo habove).isPrefix, length_of_mem_ancestorsUpTo habove⟩

theorem map_components_parent? {other : Path} (h : path.components = other.components) :
    path.parent?.map components = other.parent?.map components := by
  have hparent {path other : Path} (h : path.components = other.components) {parent : Path}
      (hparent : path.parent? = some parent) :
      path.parent?.map components = other.parent?.map components := by
    rcases parent?_cases path with ⟨hnone, -⟩ | ⟨parent, last, hsome, hsteps, hlast⟩
    · rw [hnone] at hparent
      cases hparent
    · obtain ⟨otherParent, hotherParent, hotherSteps⟩ := exists_parent? (h ▸ hsteps) hlast
      rw [hsome, hotherParent, Option.map_some, Option.map_some, hotherSteps]
  cases hpath : path.parent? with
  | some parent => exact hpath ▸ hparent h hpath
  | none =>
    cases hother : other.parent? with
    | some otherParent => exact hpath ▸ hother ▸ (hparent h.symm hother).symm
    | none => rfl

/-- The steps of the ancestors do not depend on how a path is spelled. -/
theorem map_components_ancestorsUpTo {other : Path} (h : path.components = other.components)
    (count : Nat) :
    (path.ancestorsUpTo count).map components = (other.ancestorsUpTo count).map components := by
  induction count generalizing path other with
  | zero => rfl
  | succ count ih =>
    have hparents := map_components_parent? h
    rw [ancestorsUpTo, ancestorsUpTo]
    cases hparent : path.parent? with
    | none =>
      rw [hparent, Option.map_none, eq_comm, Option.map_eq_none_iff] at hparents
      rw [hparents]
    | some parent =>
      rw [hparent, Option.map_some, eq_comm, Option.map_eq_some_iff] at hparents
      obtain ⟨otherParent, hotherParent, hsteps⟩ := hparents
      simp only [hotherParent, List.map_cons, hsteps, ih hsteps.symm]

end Path

/-! ### The way up to the output directory -/

variable {outputDir path directory : Path} {written : List Path}

/-- What is left out when the walk ends is not in the output directory. -/
theorem upToOutput_eq_filter {directories : List Path} (h : directories.Pairwise Path.IsShorter) :
    upToOutput outputDir directories = directories.filter (·.startsWith outputDir) := by
  induction directories with
  | nil => rfl
  | cons first others ih =>
    obtain ⟨hfirst, hothers⟩ := List.pairwise_cons.1 h
    rw [upToOutput]
    split_ifs with houtside hsame
    · rw [Bool.not_eq_true'] at houtside
      have hnone : ∀ above ∈ others, ¬above.startsWith outputDir = true := by
        intro above habove hstarts
        have hsteps := (Path.startsWith_iff.1 hstarts).trans (hfirst above habove).1
        rw [Path.startsWith_iff.2 hsteps] at houtside
        cases houtside
      rw [List.filter_cons_of_neg (by simp [houtside]), List.filter_eq_nil_iff.2 hnone]
    · have hnone : ∀ above ∈ others, ¬above.startsWith outputDir = true := by
        intro above habove hstarts
        have hshorter := (hfirst above habove).2
        have hlonger := (Path.startsWith_iff.1 hstarts).length_le
        rw [Path.same_iff.1 hsame] at hshorter
        omega
      rw [List.filter_cons_of_pos (by simpa using houtside), List.filter_eq_nil_iff.2 hnone]
    · rw [List.filter_cons_of_pos (by simpa using houtside), ih hothers]

/-- On the way up all ancestors in the output directory are found. -/
theorem ancestorsWithin_eq_filter (outputDir path : Path) :
    ancestorsWithin outputDir path = path.ancestors.filter (·.startsWith outputDir) :=
  upToOutput_eq_filter (path.pairwise_ancestorsUpTo _)

theorem mem_ancestorsWithin_iff_isAbove :
    directory ∈ ancestorsWithin outputDir path ↔
      directory.IsAbove path ∧ directory.startsWith outputDir = true := by
  rw [ancestorsWithin_eq_filter, List.mem_filter, Path.mem_ancestors_iff]

/-- The steps of the directories on the way up do not depend on how a path is spelled. -/
theorem map_components_ancestorsWithin {other : Path} (h : path.components = other.components) :
    (ancestorsWithin outputDir path).map Path.components =
      (ancestorsWithin outputDir other).map Path.components := by
  have hfilter (path : Path) : (ancestorsWithin outputDir path).map Path.components =
      (path.ancestors.map Path.components).filter outputDir.components.isPrefixOf := by
    rw [ancestorsWithin_eq_filter, List.filter_map]
    rfl
  rw [hfilter, hfilter, Path.ancestors, Path.ancestors, h, Path.map_components_ancestorsUpTo h]

/-- If the output directory is above a file, then every other directory above the file and in the
output directory has its parent between the two. -/
theorem exists_parent?_within {output : Path} (hdirectory : directory.IsAbove path)
    (hstarts : directory.startsWith outputDir = true) (hne : ¬directory.same outputDir = true)
    (houtput : output.IsAbove path) (hsame : output.same outputDir = true) :
    ∃ parent, directory.parent? = some parent ∧ parent.IsAbove path ∧
      parent.startsWith outputDir = true := by
  rw [Path.same_iff] at hsame hne
  -- the way up from the file passes both of them
  rcases hdirectory.to_reflTransGen.total_of_right_unique Path.hasParent_rightUnique
    houtput.to_reflTransGen with hup | hdown
  · rcases hup.cases_head with rfl | ⟨parent, hparent, hrest⟩
    · exact absurd hsame hne
    · have hsteps := Path.isPrefix_of_reflTransGen hrest
      exact ⟨parent, hparent, hdirectory.tail hparent, Path.startsWith_iff.2 (hsame ▸ hsteps)⟩
  · have hlonger := (Path.startsWith_iff.1 hstarts).length_le
    have hsteps := Path.isPrefix_of_reflTransGen hdown
    rw [hsame] at hsteps
    exact absurd (hsteps.eq_of_length_le hlonger) hne

/-! ### The module directories -/

theorem exists_of_mem_moduleDirs (h : directory ∈ moduleDirs outputDir written) :
    ∃ path ∈ written, directory.IsAbove path ∧ directory.startsWith outputDir = true := by
  obtain ⟨path, hpath, hmem⟩ := List.mem_flatMap.1 (mem_of_mem_ascending h)
  exact ⟨path, hpath, mem_ancestorsWithin_iff_isAbove.1 hmem⟩

theorem exists_same_mem_moduleDirs (hpath : path ∈ written) (habove : directory.IsAbove path)
    (hstarts : directory.startsWith outputDir = true) :
    ∃ other ∈ moduleDirs outputDir written, other.same directory = true := by
  obtain ⟨other, hother, heq⟩ : ∃ other ∈ moduleDirs outputDir written,
      directory.compare other = .eq :=
    exists_eq_mem_ascending
      (List.mem_flatMap.2 ⟨path, hpath, mem_ancestorsWithin_iff_isAbove.2 ⟨habove, hstarts⟩⟩)
  exact ⟨other, hother, Path.same_iff.2 (Path.compare_eq_iff.1 heq).symm⟩

/-- The module directories are settled by the set of written files. -/
theorem components_moduleDirs_of_mem_iff {others : List Path}
    (h : ∀ steps, steps ∈ others.map Path.components ↔ steps ∈ written.map Path.components) :
    (moduleDirs outputDir others).map Path.components =
      (moduleDirs outputDir written).map Path.components := by
  have hsubset {files more : List Path}
      (hfiles : ∀ steps, steps ∈ files.map Path.components → steps ∈ more.map Path.components)
      {steps : List Component}
      (hsteps : steps ∈ files.flatMap fun file =>
        (ancestorsWithin outputDir file).map Path.components) :
      steps ∈ more.flatMap fun file => (ancestorsWithin outputDir file).map Path.components := by
    obtain ⟨file, hfile, hmem⟩ := List.mem_flatMap.1 hsteps
    obtain ⟨other, hother, hsame⟩ := List.mem_map.1 (hfiles _ (List.mem_map_of_mem hfile))
    exact List.mem_flatMap.2 ⟨other, hother, map_components_ancestorsWithin hsame ▸ hmem⟩
  rw [components_moduleDirs, components_moduleDirs]
  exact ascending_eq_of_mem_iff fun steps =>
    ⟨hsubset fun steps => (h steps).1, hsubset fun steps => (h steps).2⟩

/-- No module directory is in one that comes later, and none comes twice. -/
theorem pairwise_moduleDirs (outputDir : Path) (written : List Path) :
    (moduleDirs outputDir written).Pairwise fun earlier later =>
      ¬earlier.startsWith later = true := by
  have hascends : Ascends Path.compare (moduleDirs outputDir written) := ascends_ascending _
  refine hascends.imp fun {earlier later} hlt hstarts => ?_
  by_cases hsame : later.components = earlier.components
  · rw [Path.compare_eq_iff.2 hsame.symm] at hlt
    cases hlt
  · have hafter : later.compare earlier = .lt :=
      Path.compareComponents_of_isPrefix (Path.startsWith_iff.1 hstarts) hsame
    rw [Std.OrientedCmp.gt_iff_lt.2 hlt] at hafter
    cases hafter

/-- The module directories are exactly the directories that are above a written file and in the
output directory.  They depend on the set of written files alone.  If the output directory is above
all files, and there is one, it is a module directory, and so is the parent of every other module
directory.  No module directory comes after one that is in it, and none comes twice.

Directories are the same if they have the same steps, however they are spelled. -/
theorem moduleDirs_ancestry (outputDir : Path) (written : List Path) :
    (∀ directory ∈ moduleDirs outputDir written,
      ∃ path ∈ written, directory.IsAbove path ∧ directory.startsWith outputDir = true) ∧
    (∀ path ∈ written, ∀ directory : Path, directory.IsAbove path →
      directory.startsWith outputDir = true →
        ∃ other ∈ moduleDirs outputDir written, other.same directory = true) ∧
    (∀ others : List Path,
      (∀ steps, steps ∈ others.map Path.components ↔ steps ∈ written.map Path.components) →
        (moduleDirs outputDir others).map Path.components =
          (moduleDirs outputDir written).map Path.components) ∧
    (written ≠ [] →
      (∀ path ∈ written, ∃ output : Path, output.IsAbove path ∧ output.same outputDir = true) →
        (∃ output ∈ moduleDirs outputDir written, output.same outputDir = true) ∧
        ∀ directory ∈ moduleDirs outputDir written, ¬directory.same outputDir = true →
          ∃ parent, directory.parent? = some parent ∧
            ∃ other ∈ moduleDirs outputDir written, other.same parent = true) ∧
    (moduleDirs outputDir written).Pairwise fun earlier later =>
      ¬earlier.startsWith later = true := by
  refine ⟨fun _ => exists_of_mem_moduleDirs, fun _ hpath _ => exists_same_mem_moduleDirs hpath,
    fun _ => components_moduleDirs_of_mem_iff, fun hne houtput => ⟨?_, ?_⟩,
    pairwise_moduleDirs outputDir written⟩
  · obtain ⟨path, hpath⟩ := List.exists_mem_of_ne_nil written hne
    obtain ⟨output, habove, hsame⟩ := houtput path hpath
    have hsteps := Path.same_iff.1 hsame
    have hstarts : output.startsWith outputDir = true :=
      Path.startsWith_iff.2 (hsteps ▸ List.prefix_refl output.components)
    obtain ⟨other, hother, hotherSame⟩ := exists_same_mem_moduleDirs hpath habove hstarts
    exact ⟨other, hother, Path.same_iff.2 ((Path.same_iff.1 hotherSame).trans hsteps)⟩
  · intro directory hdirectory hother
    obtain ⟨path, hpath, habove, hstarts⟩ := exists_of_mem_moduleDirs hdirectory
    obtain ⟨output, houtputAbove, hsame⟩ := houtput path hpath
    obtain ⟨parent, hparent, hparentAbove, hparentStarts⟩ :=
      exists_parent?_within habove hstarts hother houtputAbove hsame
    exact ⟨parent, hparent, exists_same_mem_moduleDirs hpath hparentAbove hparentStarts⟩

/-- Files in two packages, one in the other. -/
def packageFiles : List Path := [⟨["out", "com", "example", "a.rs"]⟩, ⟨["out", "com", "b.rs"]⟩]

/-- The same files in another order and with other spellings, one of them twice. -/
def respelledFiles : List Path :=
  [⟨["out", "com", ".", "b.rs"]⟩, ⟨["out", "", "com", "example", "a.rs"]⟩,
    ⟨["out", "com", "b.rs", ""]⟩]

theorem moduleDirs_ancestry_packages :
    (∃ path ∈ packageFiles, Path.IsAbove ⟨["out", "com"]⟩ path) ∧
    (∃ other ∈ moduleDirs ⟨["out"]⟩ packageFiles, other.same ⟨["out", "com"]⟩ = true) ∧
    (moduleDirs ⟨["out"]⟩ respelledFiles).map Path.components =
      (moduleDirs ⟨["out"]⟩ packageFiles).map Path.components ∧
    (∃ output ∈ moduleDirs ⟨["out"]⟩ packageFiles, output.same ⟨["out"]⟩ = true) ∧
    ∃ parent, Path.parent? ⟨["out", "com", "example"]⟩ = some parent ∧
      ∃ other ∈ moduleDirs ⟨["out"]⟩ packageFiles, other.same parent = true := by
  have houtput : ∀ path ∈ packageFiles, Path.IsAbove ⟨["out"]⟩ path := by
    simp only [← Path.mem_ancestors_iff]
    decide +kernel
  have hcom : Path.IsAbove ⟨["out", "com"]⟩ ⟨["out", "com", "b.rs"]⟩ := .single rfl
  have hrespelled : ∀ steps ∈ respelledFiles.map Path.components,
      steps ∈ packageFiles.map Path.components := by decide
  have hpackage : ∀ steps ∈ packageFiles.map Path.components,
      steps ∈ respelledFiles.map Path.components := by decide
  obtain ⟨habove, hall, hset, htree, -⟩ := moduleDirs_ancestry ⟨["out"]⟩ packageFiles
  obtain ⟨path, hpath, hcomAbove, -⟩ := habove ⟨["out", "com"]⟩ (by decide +kernel)
  obtain ⟨houtputDir, hparent⟩ := htree (by decide) fun path hpath =>
    ⟨⟨["out"]⟩, houtput path hpath, by decide⟩
  exact ⟨⟨path, hpath, hcomAbove⟩, hall _ (by decide) _ hcom (by decide),
    hset respelledFiles fun steps => ⟨hrespelled steps, hpackage steps⟩, houtputDir,
    hparent ⟨["out", "com", "example"]⟩ (by decide +kernel) (by decide)⟩

end Forwarding
