import Forwarding.Proofs.Ascending
import Forwarding.Proofs.FileTree.Growth
import Forwarding.Proofs.Text.Pieces

/-!
# What a module root finds in its directory

* `FileTree.Holds`: a directory holds what an entry stands for;
* `FileTree.entries_eq_ok_iff`: the entries of a path are those of the directory it leads to;
* `FileTree.mem_listing`, `FileTree.ascends_listing`: they are in ascending order and stand exactly
  for what the directory holds;
* `FileTree.listing_eq_of_perm`: they do not depend on the order in which the directory is gone
  through;
* `FileTree.Grows.listing_eq`: writing module roots does not change them.
-/

namespace Forwarding

/-! ### The order of entries -/

theorem Entry.compare_eq_iff {a b : Entry} : a.compare b = .eq ↔ a = b := by
  cases a
  cases b
  rw [compare, Ordering.then_eq_eq, Std.LawfulEqCmp.compare_eq_iff_eq,
    Std.LawfulEqCmp.compare_eq_iff_eq, Entry.mk.injEq]

instance : Std.LawfulEqCmp Entry.compare where
  eq_of_compare := Entry.compare_eq_iff.1
  compare_self := Entry.compare_eq_iff.2 rfl

instance : Std.TransCmp Entry.compare :=
  inferInstanceAs (Std.TransCmp (compareLex (compareOn Entry.name) (compareOn Entry.isFile)))

namespace FileTree

variable {tree : FileTree}

/-! ### Children -/

theorem mem_children_iff {directory : Location} {name : String} {node : Node} :
    (name, node) ∈ tree.children directory ↔ tree.look (directory ++ [name]) = some node := by
  have hlook : tree.look (directory ++ [name]) = tree.nodes[directory ++ [name]]? := by
    cases directory <;> rfl
  rw [hlook, ← Std.ExtTreeMap.mem_toList_iff_getElem?_eq_some, children, List.mem_filterMap]
  constructor
  · rintro ⟨⟨location, other⟩, hmem, hname⟩
    obtain ⟨found, hfound, hsame⟩ := Option.map_eq_some_iff.1 hname
    obtain ⟨rfl, rfl⟩ := Prod.mk.inj hsame
    unfold nameIn at hfound
    split_ifs at hfound with hdirectory
    obtain ⟨front, hfront⟩ := List.getLast?_eq_some_iff.1 hfound
    rw [hfront, List.dropLast_concat] at hdirectory
    rwa [← hdirectory, ← hfront]
  · intro hmem
    exact ⟨(directory ++ [name], node), hmem, by simp [nameIn]⟩

/-- The directory holds what the entry stands for: a directory of this name, or a Rust file with
this stem that is no module root. -/
def Holds (tree : FileTree) (directory : Location) (entry : Entry) : Prop :=
  if entry.isFile then
    entry.name ≠ "mod" ∧ entry.name ≠ "lib" ∧
      ∃ text, tree.look (directory ++ [entry.name ++ ".rs"]) = some (.file text)
  else tree.look (directory ++ [entry.name]) = some .directory

theorem append_extension_inj {a b : String} : a ++ ".rs" = b ++ ".rs" ↔ a = b := by
  rw [← String.toList_inj, String.toList_append, String.toList_append, List.append_cancel_right_eq,
    String.toList_inj]

/-- The entry of a file is its name without the extension. -/
theorem entryOf_file_eq_some_iff {name text : String} {entry : Entry} :
    entryOf (name, .file text) = some entry ↔
      entry.isFile = true ∧ entry.name ≠ "mod" ∧ entry.name ≠ "lib" ∧
        name = entry.name ++ ".rs" := by
  have hcut : ∀ stem : List Char, Text.beforeSuffix ".rs".toList name.toList = some stem ↔
      name = String.ofList stem ++ ".rs" := fun stem => by
    rw [Text.beforeSuffix_eq_some_iff, ← String.toList_inj, String.toList_append,
      String.toList_ofList (l := stem)]
  rw [entryOf]
  split
  · rename_i hnone
    refine iff_of_false (by simp) ?_
    rintro ⟨-, -, -, hname⟩
    rw [(hcut entry.name.toList).2 (by rwa [String.ofList_toList])] at hnone
    cases hnone
  · rename_i stem hstem
    rw [(hcut stem).1 hstem, append_extension_inj]
    split_ifs with hroot
    · refine iff_of_false (by simp) ?_
      rintro ⟨-, hmod, hlib, hname⟩
      exact hroot.elim (fun h => hmod (hname ▸ h)) fun h => hlib (hname ▸ h)
    · rw [not_or] at hroot
      rw [Option.some.injEq]
      constructor
      · rintro rfl
        exact ⟨rfl, hroot.1, hroot.2, rfl⟩
      · rintro ⟨hfile, -, -, hname⟩
        rw [hname, ← hfile]

/-- A directory holds what the entries of its children stand for. -/
theorem holds_iff {directory : Location} {entry : Entry} :
    tree.Holds directory entry ↔ ∃ child ∈ tree.children directory, entryOf child = some entry := by
  obtain ⟨stem, isFile⟩ := entry
  cases isFile with
  | false =>
    constructor
    · intro h
      exact ⟨(stem, .directory), mem_children_iff.2 h, rfl⟩
    · rintro ⟨⟨name, node⟩, hchild, hentry⟩
      cases node with
      | directory =>
        obtain ⟨rfl, -⟩ := Entry.mk.inj (Option.some.inj hentry)
        exact mem_children_iff.1 hchild
      | file text => cases (entryOf_file_eq_some_iff.1 hentry).1
  | true =>
    constructor
    · rintro ⟨hmod, hlib, text, hlook⟩
      exact ⟨_, mem_children_iff.2 hlook, entryOf_file_eq_some_iff.2 ⟨rfl, hmod, hlib, rfl⟩⟩
    · rintro ⟨⟨name, node⟩, hchild, hentry⟩
      cases node with
      | directory => cases (Entry.mk.inj (Option.some.inj hentry)).2
      | file text =>
        obtain ⟨-, hmod, hlib, rfl⟩ := entryOf_file_eq_some_iff.1 hentry
        exact ⟨hmod, hlib, text, mem_children_iff.1 hchild⟩

/-! ### Listings -/

/-- The entries of a directory, in ascending order. -/
def listing (tree : FileTree) (directory : Location) : List Entry :=
  ascending Entry.compare ((tree.children directory).filterMap entryOf)

theorem mem_listing {directory : Location} {entry : Entry} :
    entry ∈ tree.listing directory ↔ tree.Holds directory entry := by
  rw [listing, mem_ascending, List.mem_filterMap, holds_iff]

theorem ascends_listing (tree : FileTree) (directory : Location) :
    Ascends Entry.compare (tree.listing directory) := ascends_ascending _

theorem entries_eq_ok_iff {path : Path} {entries : List Entry} :
    tree.entries path = .ok entries ↔
      tree.isDir path = true ∧ entries = tree.listing (path.location tree.workDir) := by
  rw [isDir_iff]
  unfold FileTree.entries
  split
  · rename_i fault hwalk
    simp [hwalk]
  · rename_i location hwalk
    obtain rfl := walk_eq_ok hwalk
    rw [hwalk]
    split_ifs with hdirectory
    · simp [hdirectory, listing, eq_comm]
    · simp [hdirectory]

/-- The order in which the directory is gone through does not matter. -/
theorem listing_eq_of_perm {directory : Location} {children : List (String × Node)}
    (h : children.Perm (tree.children directory)) :
    tree.listing directory = ascending Entry.compare (children.filterMap entryOf) :=
  ascending_eq_of_mem_iff fun _ => (h.filterMap entryOf).symm.mem_iff

/-- Directories that hold the same have the same entries. -/
theorem listing_eq_of_holds {before after : FileTree} {directory : Location}
    (h : ∀ entry, before.Holds directory entry ↔ after.Holds directory entry) :
    before.listing directory = after.listing directory := by
  refine ascending_eq_of_mem_iff fun entry => ?_
  rw [List.mem_filterMap, List.mem_filterMap, ← holds_iff, ← holds_iff]
  exact h entry

/-- A location whose last name is that of a module root. -/
def IsModuleRoot (location : Location) : Prop :=
  ∃ directory, location = directory ++ ["lib.rs"] ∨ location = directory ++ ["mod.rs"]

theorem isModuleRoot_concat {directory : Location} {name : String} :
    IsModuleRoot (directory ++ [name]) ↔ name = "lib.rs" ∨ name = "mod.rs" := by
  constructor
  · rintro ⟨other, h | h⟩
    · exact Or.inl (List.append_singleton_inj.1 h).2
    · exact Or.inr (List.append_singleton_inj.1 h).2
  · rintro (rfl | rfl)
    · exact ⟨directory, Or.inl rfl⟩
    · exact ⟨directory, Or.inr rfl⟩

/-- What a directory holds does not depend on its module roots. -/
theorem holds_iff_of_look {before after : FileTree} {directory : Location} {entry : Entry}
    (h : ∀ name, after.look (directory ++ [name]) = before.look (directory ++ [name]) ∨
      IsModuleRoot (directory ++ [name]) ∧ after.look (directory ++ [name]) ≠ some .directory ∧
        before.look (directory ++ [name]) ≠ some .directory) :
    after.Holds directory entry ↔ before.Holds directory entry := by
  obtain ⟨stem, isFile⟩ := entry
  cases isFile with
  | false =>
    rcases h stem with hsame | ⟨-, hafter, hbefore⟩
    · exact iff_of_eq (congrArg (· = some Node.directory) hsame)
    · exact iff_of_false hafter hbefore
  | true =>
    refine and_congr_right fun hmod => and_congr_right fun hlib => ?_
    rcases h (stem ++ ".rs") with hsame | ⟨hroot, -⟩
    · rw [hsame]
    · rcases isModuleRoot_concat.1 hroot with hroot | hroot
      · exact absurd (append_extension_inj.1 hroot) hlib
      · exact absurd (append_extension_inj.1 hroot) hmod

/-- Writing module roots changes nothing of what a directory holds. -/
theorem Grows.holds_iff {before after : FileTree}
    (h : Grows (fun _ => False) IsModuleRoot before after) {directory : Location} {entry : Entry} :
    after.Holds directory entry ↔ before.Holds directory entry := by
  refine holds_iff_of_look fun name => ?_
  rcases h.look (directory ++ [name]) with hsame | ⟨hfalse, -⟩ | ⟨hroot, hbefore, text, hafter⟩
  · exact Or.inl hsame
  · exact hfalse.elim
  · exact Or.inr ⟨hroot, by simp [hafter], hbefore⟩

theorem Grows.listing_eq {before after : FileTree}
    (h : Grows (fun _ => False) IsModuleRoot before after) (directory : Location) :
    after.listing directory = before.listing directory :=
  listing_eq_of_holds fun _ => h.holds_iff

end FileTree

end Forwarding
