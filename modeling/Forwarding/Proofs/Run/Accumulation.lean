import Forwarding.Proofs.Run.Acceptance
import Forwarding.Proofs.Run.KeepGoing
import Forwarding.Proofs.Run.Overwriting

/-!
# What runs add up to

If no two targets share a file, what is left of a run that ends well can be told at each location
from the targets alone: a directory on the way of a class, a module root that declares what its
directory holds, the text of a class, or what was there.  One more run adds its targets to these,
so it does not matter in which runs the classes were written.

* `Options.Accumulates`: what is left once all classes of the targets are written;
* `Options.Accumulates.runOn`: one more run;
* `Options.Accumulates.unique`: the file tree is settled by the set of targets.
-/

namespace Forwarding

open FileTree

/-- A path that leads to a file leads over directories. -/
theorem FileTree.trace_of_walk {tree : FileTree} {path : Path} {front : List String}
    {name : String} {location : Location} (hsegments : path.segments = front ++ [name])
    (hname : name ∉ ["", ".", ".."]) (hwalk : tree.walk path = .ok location) :
    ∃ next, tree.trace (tree.start path) path.components.dropLast = .ok next := by
  obtain ⟨head, hcomponents, hhead⟩ := exists_head_concat hsegments (ofSegment?_of_not_mem hname)
  have hfollow : tree.follow (tree.start path) path.segments = .ok location := by
    unfold walk at hwalk
    split at hwalk
    · cases hwalk
    · exact hwalk
  rw [hsegments, follow_append] at hfollow
  obtain ⟨next, hnext, hlast⟩ := bind_eq_ok_iff.1 hfollow
  rw [follow_cons] at hlast
  obtain ⟨_, hstep, -⟩ := bind_eq_ok_iff.1 hlast
  refine ⟨next, ?_⟩
  rw [hcomponents, List.dropLast_concat, (hhead tree _).1, ← follow_trace, hnext]
  exact if_pos (step_eq_ok_iff.1 hstep).1.directory

/-- All on the way to a file are directories. -/
theorem FileTree.look_of_walk {tree : FileTree} {path : Path} {front : List String}
    {name : String} {location : Location} (hsegments : path.segments = front ++ [name])
    (hname : name ∉ ["", ".", ".."]) (hwalk : tree.walk path = .ok location) {place : Location}
    (hway : OnWay tree.workDir path.components.dropLast place) :
    tree.look place = some .directory := by
  obtain ⟨next, htrace⟩ := trace_of_walk hsegments hname hwalk
  exact look_pave_of_onWay (pave_of_trace htrace)
    ((tree.onWay_start_iff (List.dropLast_prefix _)).2 hway)

namespace Options

variable {options : Options}

/-- The directories on the ways of the classes are there once the classes are. -/
theorem RunsTargets.look_directory {progress classes : Progress} {targets : List Target}
    (h : options.RunsTargets progress targets classes) {location : Location}
    (hlocation : options.ClassDirectory progress.tree.workDir targets location) :
    classes.tree.look location = some .directory := by
  obtain ⟨target, hmem, unit, path, text, hmakes, hway⟩ := hlocation
  obtain ⟨otherPath, otherText, hother, hwalk, -⟩ := h.made target hmem unit hmakes.forwarder
  obtain ⟨-, rfl, -⟩ := hother.unique hmakes
  obtain ⟨front, last, hsegments, hlast⟩ := Backend.segments_classPath hmakes.classPath
  exact look_of_walk hsegments hlast hwalk (h.grows.workDir ▸ hway)

/-- What is left once all classes of the targets are written, in whatever runs: the directories on
their ways, their texts, and in a crate module roots that declare what their directories hold. -/
structure Accumulates (options : Options) (tree : FileTree) (targets : List Target)
    (last : FileTree) : Prop where
  makes : ∀ target ∈ targets, ∃ unit path text, options.Makes target unit path text
  grows : Grows (options.ClassDirectory tree.workDir targets)
    (fun location => options.ClassFile tree.workDir targets location ∨
      options.RootFile tree.workDir targets location) tree last
  directory : ∀ location, options.ClassDirectory tree.workDir targets location →
    last.look location = some .directory
  file : ∀ target ∈ targets, ∀ unit path text, options.Makes target unit path text →
    ¬ options.RootFile tree.workDir targets (path.location tree.workDir) →
      last.look (path.location tree.workDir) = some (.file text)
  root : options.backend = .rust → ∀ names file front, options.IsPlace targets names file →
    front <+: names → ∃ text,
      moduleSource (last.listing (options.outputDir.location tree.workDir ++ front)) = .ok text ∧
        last.look (options.outputDir.location tree.workDir ++ front ++ [rootFile front]) =
          some (.file (options.format text).2)

namespace Accumulates

variable {tree last other : FileTree} {targets more : List Target}

/-- At first nothing is written. -/
theorem nil (options : Options) (tree : FileTree) : options.Accumulates tree [] tree where
  makes := List.forall_mem_nil _
  grows := .refl _ _ _
  directory := fun _ ⟨_, hmem, _⟩ => by cases hmem
  file := fun _ hmem => by cases hmem
  root := fun _ _ _ _ ⟨_, hmem, _⟩ => by cases hmem

/-- Where a class or a module root is written, there is a file. -/
theorem exists_file (h : options.Accumulates tree targets last) {location : Location}
    (hlocation : options.ClassFile tree.workDir targets location ∨
      options.RootFile tree.workDir targets location) :
    ∃ text, last.look location = some (.file text) := by
  by_cases hroot : options.RootFile tree.workDir targets location
  · obtain ⟨hbackend, names, file, front, hplace, hfront, rfl⟩ := hroot
    obtain ⟨text, -, hlook⟩ := h.root hbackend names file front hplace hfront
    exact ⟨_, hlook⟩
  · obtain ⟨target, hmem, unit, path, text, hmakes, rfl⟩ := hlocation.resolve_right hroot
    exact ⟨text, h.file target hmem unit path text hmakes hroot⟩

/-- Neither the order nor the number of the targets matters. -/
theorem of_mem_iff (h : options.Accumulates tree targets last)
    (hsame : ∀ target, target ∈ more ↔ target ∈ targets) :
    options.Accumulates tree more last := by
  have hleft : targets ⊆ more := fun target hmem => (hsame target).2 hmem
  have hright : more ⊆ targets := fun target hmem => (hsame target).1 hmem
  exact
    { makes := fun target hmem => h.makes target (hright hmem)
      grows := h.grows.mono (fun _ h => h.mono hleft)
        fun _ h => h.imp (fun h => h.mono hleft) fun h => h.mono hleft
      directory := fun location hlocation => h.directory location (hlocation.mono hright)
      file := fun target hmem unit path text hmakes hroot =>
        h.file target (hright hmem) unit path text hmakes fun h => hroot (h.mono hleft)
      root := fun hbackend names file front hplace =>
        h.root hbackend names file front (hplace.mono hright) }

/-! ### The tree is settled by the targets -/

theorem look_of_not_rootFile (h : options.Accumulates tree targets last)
    (h' : options.Accumulates tree targets other) {location : Location}
    (hroot : ¬ options.RootFile tree.workDir targets location) :
    other.look location = last.look location := by
  by_cases hdirectory : options.ClassDirectory tree.workDir targets location
  · rw [h.directory location hdirectory, h'.directory location hdirectory]
  · by_cases hfile : options.ClassFile tree.workDir targets location
    · obtain ⟨target, hmem, unit, path, text, hmakes, rfl⟩ := hfile
      rw [h.file target hmem unit path text hmakes hroot,
        h'.file target hmem unit path text hmakes hroot]
    · have hsame : ∀ {after}, options.Accumulates tree targets after →
          after.look location = tree.look location := fun hafter => by
        rcases hafter.grows.look location with hsame | ⟨hmade, -⟩ | ⟨hwritten, -⟩
        · exact hsame
        · exact absurd hmade hdirectory
        · exact absurd hwritten (not_or.2 ⟨hfile, hroot⟩)
      rw [hsame h, hsame h']

/-- The same targets leave the same file tree. -/
theorem unique (h : options.Accumulates tree targets last)
    (h' : options.Accumulates tree targets other) : other = last := by
  have hlisting : ∀ directory, other.listing directory = last.listing directory := by
    refine fun directory => listing_eq_of_holds fun entry => holds_iff_of_look fun name => ?_
    by_cases hroot : options.RootFile tree.workDir targets (directory ++ [name])
    · -- both have a file where the module root is
      obtain ⟨text, hlook⟩ := h.exists_file (Or.inr hroot)
      obtain ⟨otherText, hotherLook⟩ := h'.exists_file (Or.inr hroot)
      exact Or.inr ⟨hroot.isModuleRoot, by simp [hotherLook], by simp [hlook]⟩
    · exact Or.inl (h.look_of_not_rootFile h' hroot)
  refine ext_look (h'.grows.workDir.trans h.grows.workDir.symm)
    (h'.grows.entry.trans h.grows.entry.symm) fun location => ?_
  by_cases hroot : options.RootFile tree.workDir targets location
  · obtain ⟨hbackend, names, file, front, hplace, hfront, rfl⟩ := hroot
    obtain ⟨text, htext, hlook⟩ := h.root hbackend names file front hplace hfront
    obtain ⟨otherText, hotherText, hotherLook⟩ := h'.root hbackend names file front hplace hfront
    rw [hlisting, htext] at hotherText
    rw [hlook, hotherLook, Except.ok.inj hotherText]
  · exact h.look_of_not_rootFile h' hroot

end Accumulates

/-! ### One more run -/

section Further

variable {tree before : FileTree} {targets more : List Target} {last : Progress}

/-- In a directory that is on the way to none of the further classes nothing changes. -/
theorem Accumulates.look_beside (h : options.Accumulates tree targets before) {after : FileTree}
    (hgrows : Grows (options.ClassDirectory tree.workDir more)
      (fun location => options.ClassFile tree.workDir more location ∨
        options.RootFile tree.workDir more location) before after)
    (hslash : options.NoSlash (targets ++ more)) (hne : targets ≠ []) {front : List String}
    (hbeside : ∀ names file, options.IsPlace more names file → ¬ front <+: names)
    (name : String) :
    after.look (options.outputDir.location tree.workDir ++ front ++ [name]) =
      before.look (options.outputDir.location tree.workDir ++ front ++ [name]) := by
  have hmore : options.NoSlash more := fun target hmem =>
    hslash target (List.mem_append_right targets hmem)
  rcases hgrows.look (options.outputDir.location tree.workDir ++ front ++ [name]) with hsame |
    ⟨⟨target, hmem, unit, path, text, hmakes, onto, hway, hnil, hlocation⟩, hnone, -⟩ |
    ⟨⟨target, hmem, unit, path, text, hmakes, hlocation⟩ |
      ⟨-, names, file, others, hplace, hothers, hlocation⟩, -⟩
  · exact hsame
  · obtain ⟨file, -, hplace, hcomponents⟩ := hmakes.components hmem hmore
    rw [hcomponents, List.dropLast_concat] at hway
    rcases List.prefix_or_prefix_of_prefix hway (List.prefix_append _ _) with habove | ⟨rest, rfl⟩
    · -- the way to the output directory is there
      obtain ⟨first, hfirst⟩ := List.exists_mem_of_ne_nil targets hne
      obtain ⟨firstUnit, firstPath, firstText, hfirstMakes⟩ := h.makes first hfirst
      obtain ⟨firstFile, -, -, hfirstComponents⟩ :=
        hfirstMakes.components (List.mem_append_left more hfirst) hslash
      have hthere := h.directory _ ⟨first, hfirst, firstUnit, firstPath, firstText, hfirstMakes,
        onto, by
          rw [hfirstComponents, List.dropLast_concat]
          exact habove.trans (List.prefix_append _ _), hnil, hlocation⟩
      rw [hthere] at hnone
      cases hnone
    · obtain ⟨others, hothers, rfl⟩ :=
        List.prefix_map_iff.1 ((List.prefix_append_right_inj _).1 hway)
      rw [Location.along_append, Location.along_named] at hlocation
      obtain rfl := List.append_cancel_left (hlocation.symm.trans (List.append_assoc _ _ _))
      exact absurd ((List.prefix_append front [name]).trans hothers) (hbeside _ _ hplace)
  · obtain ⟨file, -, hplace, hcomponents⟩ := hmakes.components hmem hmore
    rw [location_file _ hcomponents] at hlocation
    obtain rfl := List.append_cancel_left (List.append_singleton_inj.1 hlocation).1
    exact absurd (List.prefix_refl _) (hbeside _ _ hplace)
  · obtain rfl := List.append_cancel_left (List.append_singleton_inj.1 hlocation).1
    exact absurd hothers (hbeside _ _ hplace)

/-- The texts of the classes are there once the further classes are written. -/
theorem Accumulates.look_class (h : options.Accumulates tree targets before)
    (hslash : options.NoSlash (targets ++ more))
    (hapart : (targets ++ more).Pairwise options.Apart) {classes : Progress}
    (hclasses : options.runTargets { tree := before, log := [.debug "Reading input"] } more =
      (classes, none)) {target : Target} (hmem : target ∈ targets ++ more) {unit : Forwarder}
    {path : Path} {text : String} (hmakes : options.Makes target unit path text)
    (hroot : ¬ options.RootFile tree.workDir targets (path.location tree.workDir)) :
    classes.tree.look (path.location tree.workDir) = some (.file text) := by
  obtain ⟨-, hmoreApart, hacross⟩ := List.pairwise_append.1 hapart
  rcases List.mem_append.1 hmem with hold | hnew
  · refine (runTargets_runsTargets hclasses).grows.look_of_not_mem
      (h.file target hold unit path text hmakes hroot) ?_
    dsimp only
    rw [h.grows.workDir]
    exact not_classFile_of_apart hslash hmem (List.subset_append_right targets more)
      (hacross target hold) hmakes _
  · obtain ⟨front, after, rfl⟩ := List.append_of_mem hnew
    obtain ⟨-, hafter, -⟩ := List.pairwise_append.1 hmoreApart
    have hlook := (look_of_later hclasses hmakes (not_classFile_of_apart hslash hmem
      (fun other hother => by simp [hother]) (List.pairwise_cons.1 hafter).1 hmakes _)).2
    dsimp only at hlook
    rwa [h.grows.workDir] at hlook

/-- The module roots declare what their directories hold after the further run, whether it has
written them or not. -/
theorem Accumulates.look_root (h : options.Accumulates tree targets before)
    (hslash : options.NoSlash (targets ++ more)) {classes after : FileTree}
    (hleaves : options.LeavesCrate before more classes after)
    (hgrows : Grows (options.ClassDirectory tree.workDir more)
      (fun location => options.ClassFile tree.workDir more location ∨
        options.RootFile tree.workDir more location) before after)
    (hbackend : options.backend = .rust) {names front : List String} {file : String}
    (hplace : options.IsPlace (targets ++ more) names file) (hfront : front <+: names) :
    ∃ text,
      moduleSource (after.listing (options.outputDir.location tree.workDir ++ front)) = .ok text ∧
        after.look (options.outputDir.location tree.workDir ++ front ++ [rootFile front]) =
          some (.file (options.format text).2) := by
  by_cases hagain : ∃ names file, options.IsPlace more names file ∧ front <+: names
  · -- the module root has just been written
    obtain ⟨names, file, hplace, hfront⟩ := hagain
    obtain ⟨-, text, htext, hlook⟩ := hleaves.root names file front hplace hfront
    rw [h.grows.workDir] at htext hlook
    rw [hleaves.isModuleRoot.listing_eq]
    exact ⟨text, htext, hlook⟩
  · -- nothing in the directory has changed
    obtain ⟨target, hmem, hplace⟩ := hplace
    replace hmem := (List.mem_append.1 hmem).resolve_right fun hmem =>
      hagain ⟨names, file, ⟨target, hmem, hplace⟩, hfront⟩
    obtain ⟨text, htext, hlook⟩ :=
      h.root hbackend names file front ⟨target, hmem, hplace⟩ hfront
    have hsame := h.look_beside hgrows hslash (List.ne_nil_of_mem hmem)
      fun names file hplace hfront => hagain ⟨names, file, hplace, hfront⟩
    rw [listing_eq_of_holds fun entry => holds_iff_of_look fun name => Or.inl (hsame name),
      hsame]
    exact ⟨text, htext, hlook⟩

/-- One more run that ends well adds its targets to those whose classes are there. -/
theorem Accumulates.runOn (h : options.Accumulates tree targets before)
    (hslash : options.NoSlash (targets ++ more))
    (hapart : (targets ++ more).Pairwise options.Apart)
    (hrun : options.runOn before more = (last, none)) :
    options.Accumulates tree (targets ++ more) last.tree := by
  have hmore : options.NoSlash more := fun target hmem =>
    hslash target (List.mem_append_right targets hmem)
  obtain ⟨classes, hclasses, hroots, hall⟩ := runAll_makes hrun rfl
  have hruns := runTargets_runsTargets hclasses
  have hwritten : Grows (options.ClassDirectory tree.workDir more)
      (options.ClassFile tree.workDir more) before classes.tree := h.grows.workDir ▸ hruns.grows
  have hrooted : Grows (fun _ => False) (options.RootFile tree.workDir more) classes.tree
      last.tree := by
    refine (runModules_runsModules hroots).grows.mono (fun _ h => h) ?_
    rintro location ⟨directory, hdirectory, rfl⟩
    rw [hwritten.workDir, h.grows.workDir]
    exact rootFile_of_mem_rootDirectories hmore hruns rfl hdirectory _
  have hleft := List.subset_append_left targets more
  have hright := List.subset_append_right targets more
  have hgrows := (hwritten.mono (fun _ h => h) fun _ h => Or.inl h).trans
    (hrooted.mono (fun _ h => h.elim) fun _ h => Or.inr h)
  refine ⟨List.forall_mem_append.2 ⟨h.makes, hall⟩, ?_, ?_, ?_, ?_⟩
  · refine (h.grows.mono (fun _ h => h.mono hleft) fun _ h => h.imp ?_ ?_).trans
      (hgrows.mono (fun _ h => h.mono hright) fun _ h => h.imp ?_ ?_)
    · exact fun h => h.mono hleft
    · exact fun h => h.mono hleft
    · exact fun h => h.mono hright
    · exact fun h => h.mono hright
  · rintro location ⟨target, hmem, unit, path, text, hmakes, hway⟩
    refine hrooted.look_directory ?_
    rcases List.mem_append.1 hmem with hmem | hmem
    · exact hwritten.look_directory
        (h.directory location ⟨target, hmem, unit, path, text, hmakes, hway⟩)
    · refine hruns.look_directory ⟨target, hmem, unit, path, text, hmakes, ?_⟩
      dsimp only
      rwa [h.grows.workDir]
  · intro target hmem unit path text hmakes hroot
    exact hrooted.look_of_not_mem
      (h.look_class hslash hapart hclasses hmem hmakes fun h => hroot (h.mono hleft))
      fun h => hroot (h.mono hright)
  · intro hbackend names file front hplace hfront
    rw [rootDirectories, hbackend] at hroots
    exact h.look_root hslash (leavesCrate hmore rfl hruns (runModules_runsModules hroots)) hgrows
      hbackend hplace hfront

end Further

end Options

end Forwarding
