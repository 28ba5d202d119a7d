import Forwarding.FileTree
import Forwarding.Proofs.Path
import Forwarding.Proofs.Pointwise

/-!
# Where paths lead

Which location a path leads to is settled by its steps and the working directory; the tree only
decides whether the way is there.

* `Path.location`: the location that a path leads to if all on its way is there;
* `FileTree.walk_eq_ok`: a path that can be followed leads there;
* `FileTree.site_eq_ok`: so does the place at which its last segment is to be made.
-/

namespace Forwarding

/-- The location one step further. -/
def Component.apply (location : Location) : Component → Location
  | .root => []
  | .current => location
  | .parent => location.dropLast
  | .named name => location ++ [name]

/-- The location that steps lead to from another one. -/
def Location.along (start : Location) (steps : List Component) : Location :=
  steps.foldl Component.apply start

namespace Location

theorem along_append (start : Location) (steps others : List Component) :
    along start (steps ++ others) = along (along start steps) others :=
  List.foldl_append

/-- Named steps go further down. -/
theorem along_named (start : Location) (names : List String) :
    along start (names.map .named) = start ++ names := by
  unfold along
  induction names generalizing start with
  | nil => simp
  | cons name rest ih =>
    rw [List.map_cons, List.foldl_cons, ih]
    simp [Component.apply]

/-- Steps that are not to the root and not up go further down. -/
theorem isPrefix_along (start : Location) {steps : List Component}
    (h : ∀ step ∈ steps, step ≠ .root ∧ step ≠ .parent) : start <+: along start steps := by
  induction steps generalizing start with
  | nil => exact List.prefix_refl start
  | cons step rest ih =>
    obtain ⟨⟨hroot, hparent⟩, hrest⟩ := List.forall_mem_cons.1 h
    refine List.IsPrefix.trans ?_ (ih (step.apply start) hrest)
    cases step with
    | root => exact absurd rfl hroot
    | current => exact List.prefix_refl start
    | parent => exact absurd rfl hparent
    | named name => exact List.prefix_append start [name]

end Location

namespace Path

/-- The location that a path leads to from the working directory, if all on its way is there. -/
def location (path : Path) (workDir : Location) : Location :=
  Location.along workDir path.components

/-- The location of a path, segment by segment. -/
theorem location_eq_along_segments (path : Path) (workDir : Location) :
    path.location workDir =
      Location.along (if path.isAbsolute then [] else workDir)
        (path.segments.filterMap Component.ofSegment?) := by
  obtain ⟨head, hsteps, ⟨habsolute, rfl⟩ | ⟨hrelative, rfl | rfl⟩⟩ := path.components_cases
  · rw [location, hsteps, habsolute]
    rfl
  · rw [location, hsteps, hrelative]
    rfl
  · rw [location, hsteps, hrelative]
    rfl

/-- The way to a path without steps up never leads below it. -/
theorem along_isPrefix_location {path : Path} (workDir : Location) {front : List Component}
    (h : .parent ∉ path.components) (hfront : front <+: path.components) (hne : front ≠ []) :
    Location.along workDir front <+: path.location workDir := by
  obtain ⟨rest, hrest⟩ := hfront
  rw [location, ← hrest, Location.along_append]
  refine Location.isPrefix_along _ fun step hstep => ⟨?_, ?_⟩
  · rintro rfl
    refine path.root_not_mem_tail ?_
    rw [← hrest, List.tail_append_of_ne_nil hne]
    exact List.mem_append_right _ hstep
  · rintro rfl
    exact h (hrest ▸ List.mem_append_right _ hstep)

end Path

namespace FileTree

variable {tree : FileTree}

/-! ### Following segments -/

/-- What a step asks of the tree: it is made from a directory, and a name that is gone to is within
the limit and stands there. -/
structure CanStep (tree : FileTree) (location : Location) (segment : String) : Prop where
  directory : tree.look location = some .directory
  named : ∀ name, Component.ofSegment? segment = some (.named name) →
    name.utf8ByteSize ≤ nameLimit ∧ tree.look (location ++ [name]) ≠ none

/-- A step leads to where the segment says. -/
theorem step_eq_ok_iff {location next : Location} {segment : String} :
    tree.step location segment = .ok next ↔
      tree.CanStep location segment ∧
        next = Location.along location (Component.ofSegment? segment).toList := by
  have hcan : tree.CanStep location segment ↔ tree.look location = some .directory ∧
      ∀ name, Component.ofSegment? segment = some (.named name) →
        name.utf8ByteSize ≤ nameLimit ∧ tree.look (location ++ [name]) ≠ none :=
    ⟨fun h => ⟨h.directory, h.named⟩, fun h => ⟨h.1, h.2⟩⟩
  rw [hcan, step]
  split_ifs with hdirectory hnone hdots hlong hmissing
  · simp [hdirectory]
  · rw [not_not] at hdirectory
    have hsegment : Component.ofSegment? segment = none := by simp [Component.ofSegment?, hnone]
    simp [hdirectory, hsegment, Location.along, eq_comm]
  · rw [not_not] at hdirectory
    have hsegment : Component.ofSegment? segment = some .parent := by
      simp [Component.ofSegment?, hdots]
    simp [hdirectory, hsegment, Location.along, Component.apply, eq_comm]
  all_goals
    rw [not_not] at hdirectory
    have hsegment : Component.ofSegment? segment = some (.named segment) := by
      simp [Component.ofSegment?, not_or.1 hnone, hdots]
  · simp [hsegment, Nat.not_le.2 hlong]
  · simp [hsegment, hmissing]
  · have hend : location ++ [segment] = next ↔ next = location ++ [segment] := eq_comm
    simp [hdirectory, hsegment, hmissing, Nat.not_lt.1 hlong, Location.along, Component.apply, hend]

theorem follow_cons (location : Location) (segment : String) (rest : List String) :
    tree.follow location (segment :: rest) =
      tree.step location segment >>= fun next => tree.follow next rest := by
  rw [follow, List.foldlM_cons]
  rfl

theorem follow_append (location : Location) (front rest : List String) :
    tree.follow location (front ++ rest) =
      tree.follow location front >>= fun next => tree.follow next rest :=
  List.foldlM_append

/-- Segments that can be followed lead to where they say. -/
theorem follow_eq_ok {location last : Location} {segments : List String}
    (h : tree.follow location segments = .ok last) :
    last = Location.along location (segments.filterMap Component.ofSegment?) := by
  induction segments generalizing location with
  | nil => exact (Except.ok.inj h).symm
  | cons segment rest ih =>
    rw [follow_cons] at h
    obtain ⟨next, hnext, hrest⟩ := bind_eq_ok_iff.1 h
    obtain ⟨-, rfl⟩ := step_eq_ok_iff.1 hnext
    rw [ih hrest, ← Location.along_append, List.filterMap_cons]
    cases Component.ofSegment? segment <;> rfl

/-- A path that can be followed leads to its location. -/
theorem walk_eq_ok {path : Path} {location : Location} (h : tree.walk path = .ok location) :
    location = path.location tree.workDir := by
  unfold walk at h
  split at h
  · cases h
  · rw [Path.location_eq_along_segments]
    exact follow_eq_ok h

/-! ### Where something can be made -/

/-- A name under which something can be made stands for a step. -/
theorem ofSegment?_of_not_mem {name : String} (h : name ∉ ["", ".", ".."]) :
    Component.ofSegment? name = some (.named name) := by
  simp only [List.mem_cons, List.not_mem_nil, or_false, not_or] at h
  simp [Component.ofSegment?, h]

/-- What can be made at a path is made at the path's location, in a directory that is there. -/
theorem site_eq_ok {path : Path} {directory : Location} {name : String}
    (h : tree.site path = .ok (directory, name)) (hname : name ∉ ["", ".", ".."]) :
    tree.look directory = some .directory ∧
      directory ++ [name] = path.location tree.workDir ∧
      ∃ front, path.segments = front ++ [name] ∧ spellingFault? path = none ∧
        tree.follow (tree.start path) front = .ok directory := by
  unfold site at h
  split at h
  · cases h
  · rename_i hspelling
    split at h
    · cases h
    · rename_i found hfollow
      split_ifs at h with hdirectory
      obtain ⟨rfl, rfl⟩ := Prod.mk.inj (Except.ok.inj h)
      obtain ⟨front, last, hsegments⟩ : ∃ front last, path.segments = front ++ [last] := by
        rcases List.eq_nil_or_concat' path.segments with hnil | hconcat
        · rw [hnil] at hname
          exact absurd List.mem_cons_self hname
        · exact hconcat
      rw [hsegments, List.getLastD_concat] at hname ⊢
      rw [hsegments, List.dropLast_concat] at hfollow
      refine ⟨hdirectory, ?_, front, rfl, hspelling, hfollow⟩
      rw [Path.location_eq_along_segments, hsegments, List.filterMap_append,
        List.filterMap_cons_some (ofSegment?_of_not_mem hname), List.filterMap_nil,
        Location.along_append, follow_eq_ok hfollow]
      rfl

end FileTree

end Forwarding
