import Forwarding.Proofs.FileTree.Location

/-!
# How file trees grow

No operation takes anything away: directories are made where nothing stood, and files are written
where no directory stands.

* `FileTree.Grows`: one tree comes of another by directories made and files written at certain
  locations;
* `FileTree.Grows.walk`: a path that could be followed still leads to the same location;
* `FileTree.look_of_onWay`: all on the way to a directory are directories;
* `FileTree.makeDirs_makesDirs`: what making directories comes to, whether it succeeds or not;
* `FileTree.write_eq_ok`: what writing a file comes to.
-/

namespace Forwarding.FileTree

/-! ### Putting a node -/

/-- Trees in which the same stands everywhere are the same. -/
theorem ext_look {tree other : FileTree} (hworkDir : other.workDir = tree.workDir)
    (hentry : other.nodes[([] : Location)]? = tree.nodes[([] : Location)]?)
    (hlook : ∀ location, other.look location = tree.look location) : other = tree := by
  have hnodes : other.nodes = tree.nodes := by
    refine Std.ExtTreeMap.ext_getElem? fun location => ?_
    cases location with
    | nil => exact hentry
    | cons name rest => exact hlook (name :: rest)
  cases other
  cases tree
  simp_all

theorem look_put (tree : FileTree) {location : Location} (h : location ≠ []) (node : Node)
    (other : Location) :
    (tree.put location node).look other =
      if other = location then some node else tree.look other := by
  cases other with
  | nil => simp [look, Ne.symm h]
  | cons name rest =>
    simp only [look, put, Std.ExtTreeMap.getElem?_insert]
    by_cases hsame : location = name :: rest
    · simp [hsame]
    · have hne : compare location (name :: rest) ≠ .eq := fun heq =>
        hsame (Std.LawfulEqCmp.eq_of_compare heq)
      simp [hne, Ne.symm hsame]

/-! ### Growth -/

variable {directories files : Location → Prop} {before between after : FileTree}

/-- The second tree comes of the first by making directories at `directories`, where nothing stood,
and by writing files at `files`, where no directory stood.  All else is as it was. -/
structure Grows (directories files : Location → Prop) (before after : FileTree) : Prop where
  workDir : after.workDir = before.workDir
  entry : after.nodes[([] : Location)]? = before.nodes[([] : Location)]?
  look : ∀ location, after.look location = before.look location ∨
    (directories location ∧ before.look location = none ∧
      after.look location = some .directory) ∨
    (files location ∧ before.look location ≠ some .directory ∧
      ∃ text, after.look location = some (.file text))

namespace Grows

theorem refl (directories files : Location → Prop) (tree : FileTree) :
    Grows directories files tree tree where
  workDir := rfl
  entry := rfl
  look := fun _ => Or.inl rfl

theorem mono {moreDirectories moreFiles : Location → Prop}
    (h : Grows directories files before after)
    (hdirectories : ∀ location, directories location → moreDirectories location)
    (hfiles : ∀ location, files location → moreFiles location) :
    Grows moreDirectories moreFiles before after where
  workDir := h.workDir
  entry := h.entry
  look := fun location => by
    rcases h.look location with hsame | ⟨hdirectory, hmade⟩ | ⟨hfile, hwritten⟩
    · exact Or.inl hsame
    · exact Or.inr (Or.inl ⟨hdirectories location hdirectory, hmade⟩)
    · exact Or.inr (Or.inr ⟨hfiles location hfile, hwritten⟩)

/-- A directory that is there stays. -/
theorem look_directory (h : Grows directories files before after) {location : Location}
    (hlook : before.look location = some .directory) :
    after.look location = some .directory := by
  rcases h.look location with hsame | ⟨-, hnone, -⟩ | ⟨-, hnot, -⟩
  · rw [hsame, hlook]
  · rw [hlook] at hnone
    cases hnone
  · exact absurd hlook hnot

/-- What stands somewhere stays if no file is written there. -/
theorem look_of_not_mem (h : Grows directories files before after) {location : Location}
    {node : Node} (hlook : before.look location = some node) (hfiles : ¬ files location) :
    after.look location = some node := by
  rcases h.look location with hsame | ⟨-, hnone, -⟩ | ⟨hfile, -, -⟩
  · rw [hsame, hlook]
  · rw [hlook] at hnone
    cases hnone
  · exact absurd hfile hfiles

/-- A file that is there stays a file. -/
theorem look_file (h : Grows directories files before after) {location : Location} {text : String}
    (hlook : before.look location = some (.file text)) :
    ∃ text, after.look location = some (.file text) := by
  rcases h.look location with hsame | ⟨-, hnone, -⟩ | ⟨-, -, hfile⟩
  · exact ⟨text, hsame.trans hlook⟩
  · rw [hlook] at hnone
    cases hnone
  · exact hfile

/-- Where no file is written, files neither come nor change. -/
theorem look_file_iff (h : Grows directories files before after) {location : Location}
    {text : String} (hfiles : ¬ files location) :
    after.look location = some (.file text) ↔ before.look location = some (.file text) := by
  rcases h.look location with hsame | ⟨-, hnone, hmade⟩ | ⟨hfile, -⟩
  · rw [hsame]
  · simp [hnone, hmade]
  · exact absurd hfile hfiles

theorem look_ne_none (h : Grows directories files before after) {location : Location}
    (hlook : before.look location ≠ none) : after.look location ≠ none := by
  rcases h.look location with hsame | ⟨-, hnone, -⟩ | ⟨-, -, text, hfile⟩
  · rwa [hsame]
  · exact absurd hnone hlook
  · simp [hfile]

theorem trans (h : Grows directories files before between)
    (h' : Grows directories files between after) : Grows directories files before after where
  workDir := h'.workDir.trans h.workDir
  entry := h'.entry.trans h.entry
  look := fun location => by
    rcases h.look location with hsame | ⟨hdirectory, hnone, hmade⟩ | ⟨hfile, hnot, text, hwritten⟩
    · rw [← hsame]
      exact h'.look location
    · exact Or.inr (Or.inl ⟨hdirectory, hnone, h'.look_directory hmade⟩)
    · exact Or.inr (Or.inr ⟨hfile, hnot, h'.look_file hwritten⟩)

/-- Where something stands everywhere no directory is made. -/
theorem of_existing (h : Grows directories files before after)
    (hexisting : ∀ location, directories location → before.look location ≠ none) :
    Grows (fun _ => False) files before after where
  workDir := h.workDir
  entry := h.entry
  look := fun location => by
    rcases h.look location with hsame | ⟨hdirectory, hnone, -⟩ | hwritten
    · exact Or.inl hsame
    · exact absurd hnone (hexisting location hdirectory)
    · exact Or.inr (Or.inr hwritten)

/-- Where no directories are made, all were there. -/
theorem look_directory_iff (h : Grows (fun _ => False) files before after) {location : Location} :
    after.look location = some .directory ↔ before.look location = some .directory := by
  refine ⟨fun hafter => ?_, h.look_directory⟩
  rcases h.look location with hsame | ⟨hfalse, -⟩ | ⟨-, -, text, hwritten⟩
  · exact hsame.symm.trans hafter
  · exact hfalse.elim
  · cases hwritten.symm.trans hafter

/-! #### Paths in a tree that has grown -/

theorem canStep (h : Grows directories files before after) {location : Location} {segment : String}
    (hcan : before.CanStep location segment) : after.CanStep location segment where
  directory := h.look_directory hcan.directory
  named := fun name hname => ⟨(hcan.named name hname).1, h.look_ne_none (hcan.named name hname).2⟩

theorem follow (h : Grows directories files before after) {segments : List String}
    {location last : Location} (hfollow : before.follow location segments = .ok last) :
    after.follow location segments = .ok last := by
  induction segments generalizing location with
  | nil => exact hfollow
  | cons segment rest ih =>
    rw [follow_cons] at hfollow ⊢
    obtain ⟨next, hnext, hrest⟩ := bind_eq_ok_iff.1 hfollow
    obtain ⟨hcan, hend⟩ := step_eq_ok_iff.1 hnext
    exact bind_eq_ok_iff.2 ⟨next, step_eq_ok_iff.2 ⟨h.canStep hcan, hend⟩, ih hrest⟩

theorem start (h : Grows directories files before after) (path : Path) :
    after.start path = before.start path := by
  rw [FileTree.start, FileTree.start, h.workDir]

/-- A path that could be followed still leads to the same location. -/
theorem walk (h : Grows directories files before after) {path : Path} {location : Location}
    (hwalk : before.walk path = .ok location) : after.walk path = .ok location := by
  unfold FileTree.walk at hwalk ⊢
  split
  · rename_i fault hspelling
    rw [hspelling] at hwalk
    cases hwalk
  · rename_i hspelling
    rw [hspelling] at hwalk
    rw [h.start]
    exact h.follow hwalk

end Grows

/-- One more node is one step of growth. -/
theorem entry_put (tree : FileTree) {location : Location} (h : location ≠ []) (node : Node) :
    (tree.put location node).nodes[([] : Location)]? = tree.nodes[([] : Location)]? := by
  have hne : compare location [] ≠ .eq := fun heq => h (Std.LawfulEqCmp.eq_of_compare heq)
  rw [put, Std.ExtTreeMap.getElem?_insert, if_neg hne]

/-- The same node can be put in both trees. -/
theorem Grows.put (h : Grows directories files before after) {location : Location}
    (hne : location ≠ []) (node : Node) :
    Grows directories files (before.put location node) (after.put location node) where
  workDir := h.workDir
  entry := by rw [entry_put _ hne, entry_put _ hne, h.entry]
  look := fun other => by
    rw [look_put _ hne, look_put _ hne]
    split_ifs
    · exact Or.inl rfl
    · exact h.look other

theorem put_grows {tree : FileTree} {location : Location} {node : Node} (h : location ≠ [])
    (hnode : (directories location ∧ tree.look location = none ∧ node = .directory) ∨
      (files location ∧ tree.look location ≠ some .directory ∧ ∃ text, node = .file text)) :
    Grows directories files tree (tree.put location node) where
  workDir := rfl
  entry := entry_put tree h node
  look := fun other => by
    rw [look_put tree h]
    split_ifs with hsame
    · subst hsame
      rcases hnode with ⟨hdirectory, hnone, rfl⟩ | ⟨hfile, hnot, text, rfl⟩
      · exact Or.inr (Or.inl ⟨hdirectory, hnone, rfl⟩)
      · exact Or.inr (Or.inr ⟨hfile, hnot, text, rfl⟩)
    · exact Or.inl rfl

/-- What is made at a path can be reached by it. -/
theorem walk_of_site {tree : FileTree} {path : Path} {directory : Location} {name : String}
    (h : tree.site path = .ok (directory, name)) (hname : name ∉ ["", ".", ".."])
    (hlong : ¬ name.utf8ByteSize > nameLimit) (hgrows : Grows directories files tree after)
    (hlook : after.look (directory ++ [name]) ≠ none) :
    after.walk path = .ok (path.location tree.workDir) := by
  obtain ⟨hdirectory, hlocation, front, hsegments, hspelling, hfollow⟩ := site_eq_ok h hname
  have hstep : after.step directory name = .ok (directory ++ [name]) := by
    refine step_eq_ok_iff.2 ⟨⟨hgrows.look_directory hdirectory, fun other hother => ?_⟩, ?_⟩
    · rw [ofSegment?_of_not_mem hname] at hother
      obtain rfl := Component.named.inj (Option.some.inj hother)
      exact ⟨Nat.not_lt.1 hlong, hlook⟩
    · rw [ofSegment?_of_not_mem hname]
      rfl
  rw [FileTree.walk, hspelling, hgrows.start, hsegments, follow_append, ← hlocation]
  refine bind_eq_ok_iff.2 ⟨directory, hgrows.follow hfollow, ?_⟩
  rw [follow_cons]
  exact bind_eq_ok_iff.2 ⟨_, hstep, rfl⟩

theorem location_ne_nil_of_site {tree : FileTree} {path : Path} {directory : Location}
    {name : String} (h : tree.site path = .ok (directory, name))
    (hname : name ∉ ["", ".", ".."]) : path.location tree.workDir ≠ [] := by
  obtain ⟨-, hlocation, -⟩ := site_eq_ok h hname
  rw [← hlocation]
  simp

/-! ### Making directories -/

theorem isDir_iff {tree : FileTree} {path : Path} :
    tree.isDir path = true ↔
      tree.walk path = .ok (path.location tree.workDir) ∧
        tree.look (path.location tree.workDir) = some .directory := by
  unfold isDir
  split
  · rename_i location hwalk
    rw [walk_eq_ok hwalk, decide_eq_true_eq, ← walk_eq_ok hwalk]
    simp [hwalk, walk_eq_ok hwalk]
  · rename_i fault hwalk
    simp [hwalk]

theorem Grows.isDir (h : Grows directories files before after) {path : Path}
    (hpath : before.isDir path = true) : after.isDir path = true := by
  obtain ⟨hwalk, hlook⟩ := isDir_iff.1 hpath
  rw [isDir_iff, h.workDir]
  exact ⟨h.walk hwalk, h.look_directory hlook⟩

/-- A directory is made at the location of its path, where nothing stood. -/
theorem makeDir_eq_ok {tree made : FileTree} {path : Path} (h : tree.makeDir path = .ok made) :
    Grows (· = path.location tree.workDir) files tree made ∧ made.isDir path = true := by
  unfold makeDir at h
  split at h
  · cases h
  · rename_i directory name hsite
    split_ifs at h with hname hlong hlook
    obtain rfl := Except.ok.inj h
    obtain ⟨-, hlocation, -⟩ := site_eq_ok hsite hname
    have hne := location_ne_nil_of_site hsite hname
    rw [hlocation] at hlook ⊢
    have hgrows : Grows (· = path.location tree.workDir) files tree
        (tree.put (path.location tree.workDir) .directory) :=
      put_grows hne (Or.inl ⟨rfl, not_not.1 hlook, rfl⟩)
    have hmade : (tree.put (path.location tree.workDir) .directory).look
        (path.location tree.workDir) = some .directory := by
      rw [look_put tree hne, if_pos rfl]
    have hwalk := walk_of_site hsite hname hlong hgrows (by rw [hlocation, hmade]; simp)
    exact ⟨hgrows, isDir_iff.2 ⟨hwalk, hmade⟩⟩

/-- The locations on the way of some steps, at least one of which has been made. -/
def OnWay (workDir : Location) (steps : List Component) (location : Location) : Prop :=
  ∃ front, front <+: steps ∧ front ≠ [] ∧ location = Location.along workDir front

theorem OnWay.mono {workDir location : Location} {steps more : List Component}
    (h : OnWay workDir steps location) (hmore : steps <+: more) : OnWay workDir more location := by
  obtain ⟨front, hfront, hne, rfl⟩ := h
  exact ⟨front, hfront.trans hmore, hne, rfl⟩

/-- On the way of segments that lead to a directory there are only directories. -/
theorem look_of_follow {tree : FileTree} {location last : Location} {segments : List String}
    (h : tree.follow location segments = .ok last) (hlast : tree.look last = some .directory)
    {front : List Component} (hfront : front <+: segments.filterMap Component.ofSegment?) :
    tree.look (Location.along location front) = some .directory := by
  induction segments generalizing location front with
  | nil =>
    obtain rfl := Except.ok.inj h
    rw [List.prefix_nil.1 hfront]
    exact hlast
  | cons segment rest ih =>
    rw [follow_cons] at h
    obtain ⟨next, hnext, hrest⟩ := bind_eq_ok_iff.1 h
    obtain ⟨hcan, rfl⟩ := step_eq_ok_iff.1 hnext
    cases hsegment : Component.ofSegment? segment with
    | none =>
      rw [List.filterMap_cons_none hsegment] at hfront
      rw [hsegment] at hrest
      exact ih hrest hfront
    | some step =>
      rw [List.filterMap_cons_some hsegment] at hfront
      rw [hsegment] at hrest
      rcases List.prefix_cons_iff.1 hfront with rfl | ⟨others, rfl, hothers⟩
      · exact hcan.directory
      · exact ih hrest hothers

/-- All on the way to a directory are directories. -/
theorem look_of_onWay {tree : FileTree} {path : Path} (h : tree.isDir path = true)
    {location : Location} (hway : OnWay tree.workDir path.components location) :
    tree.look location = some .directory := by
  obtain ⟨hwalk, hlast⟩ := isDir_iff.1 h
  obtain ⟨front, hfront, hne, rfl⟩ := hway
  have hfollow : tree.follow (tree.start path) path.segments =
      .ok (path.location tree.workDir) := by
    unfold FileTree.walk at hwalk
    split at hwalk
    · cases hwalk
    · exact hwalk
  -- a root or a dot at the beginning leads to where the segments are followed from
  obtain ⟨rest, hrest, halong⟩ : ∃ rest, rest <+: path.segments.filterMap Component.ofSegment? ∧
      Location.along tree.workDir front = Location.along (tree.start path) rest := by
    obtain ⟨head, hsteps, ⟨habsolute, rfl⟩ | ⟨hrelative, rfl | rfl⟩⟩ := path.components_cases
    all_goals rw [hsteps] at hfront
    · obtain rfl | ⟨rest, rfl, hrest⟩ := List.prefix_cons_iff.1 hfront
      · exact absurd rfl hne
      · exact ⟨rest, hrest, by rw [start, habsolute]; rfl⟩
    · exact ⟨front, hfront, by rw [start, hrelative]; rfl⟩
    · obtain rfl | ⟨rest, rfl, hrest⟩ := List.prefix_cons_iff.1 hfront
      · exact absurd rfl hne
      · exact ⟨rest, hrest, by rw [start, hrelative]; rfl⟩
  rw [halong]
  exact look_of_follow hfollow hlast hrest

/-- What making a directory with those above it comes to, whether it succeeds or not: directories
are made on the way of the path only, and success means that the path leads to one. -/
structure MakesDirs (files : Location → Prop) (tree : FileTree) (path : Path)
    (result : FileTree × Except FileFault Unit) : Prop where
  grows : Grows (OnWay tree.workDir path.components) files tree result.1
  isDir : result.2 = .ok () → path.components ≠ [] → result.1.isDir path = true

theorem makeDirsUpTo_makesDirs (count : Nat) (tree : FileTree) (path : Path) :
    MakesDirs files tree path (makeDirsUpTo count tree path) := by
  induction count generalizing path with
  | zero => exact ⟨.refl _ _ tree, fun h => by cases h⟩
  | succ count ih =>
    have hself : Grows (OnWay tree.workDir path.components) files tree tree := .refl _ _ tree
    rw [makeDirsUpTo]
    by_cases hnil : path.components = []
    · rw [if_pos hnil]
      exact ⟨hself, fun _ hne => absurd hnil hne⟩
    rw [if_neg hnil]
    have hmade : ∀ {above made : FileTree},
        Grows (OnWay tree.workDir path.components) files tree above →
          above.makeDir path = .ok made → MakesDirs files tree path (made, .ok ()) := by
      intro above made habove hmake
      obtain ⟨hgrows, hdirectory⟩ : Grows (· = path.location above.workDir) files above made ∧
          made.isDir path = true := makeDir_eq_ok hmake
      refine ⟨habove.trans (hgrows.mono ?_ fun _ h => h), fun _ _ => hdirectory⟩
      rintro location rfl
      exact ⟨path.components, List.prefix_refl _, hnil, by rw [habove.workDir]; rfl⟩
    have hchecked : ∀ {above : FileTree} (fault : FileFault),
        Grows (OnWay tree.workDir path.components) files tree above →
          MakesDirs files tree path
            (above, if above.isDir path then .ok () else .error fault) := by
      intro above fault habove
      refine ⟨habove, fun h _ => ?_⟩
      by_contra hnot
      simp [hnot] at h
    split
    · rename_i made hmake
      exact hmade hself hmake
    · split
      · exact ⟨hself, fun h => by cases h⟩
      · rename_i parent hparent
        obtain ⟨last, hsteps⟩ := Path.components_of_parent? hparent
        have habove : Grows (OnWay tree.workDir path.components) files tree
            (makeDirsUpTo count tree parent).1 :=
          (ih parent).grows.mono
            (fun location h => h.mono (hsteps ▸ List.prefix_append _ _)) fun _ h => h
        split
        · rename_i above fault hresult
          rw [hresult] at habove
          exact ⟨habove, fun h => by cases h⟩
        · rename_i above hresult
          rw [hresult] at habove
          split
          · rename_i made hmake
            exact hmade habove hmake
          · rename_i fault hmake
            exact hchecked fault habove
    · rename_i fault _ hmake
      exact hchecked fault hself

theorem makeDirs_makesDirs (tree : FileTree) (path : Path) :
    MakesDirs files tree path (tree.makeDirs path) :=
  makeDirsUpTo_makesDirs _ tree path

/-! ### Writing files -/

/-- A file is written at the location of its path, where no directory stands. -/
theorem write_eq_ok {tree written : FileTree} {path : Path} {text : String}
    (h : tree.write path text = .ok written) :
    Grows directories (· = path.location tree.workDir) tree written ∧
      written.walk path = .ok (path.location tree.workDir) ∧
      written.look (path.location tree.workDir) = some (.file text) := by
  unfold write at h
  split at h
  · cases h
  · rename_i directory name hsite
    split_ifs at h with hname hlong hlook
    obtain rfl := Except.ok.inj h
    obtain ⟨-, hlocation, -⟩ := site_eq_ok hsite hname
    have hne := location_ne_nil_of_site hsite hname
    rw [hlocation] at hlook ⊢
    have hgrows : Grows directories (· = path.location tree.workDir) tree
        (tree.put (path.location tree.workDir) (.file text)) :=
      put_grows hne (Or.inr ⟨rfl, hlook, text, rfl⟩)
    have hwritten : (tree.put (path.location tree.workDir) (.file text)).look
        (path.location tree.workDir) = some (.file text) := by
      rw [look_put tree hne, if_pos rfl]
    refine ⟨hgrows, ?_, hwritten⟩
    exact walk_of_site hsite hname hlong hgrows (by rw [hlocation, hwritten]; simp)

theorem read_eq_ok_iff {tree : FileTree} {path : Path} {text : String} :
    tree.read path = .ok text ↔
      ∃ location, tree.walk path = .ok location ∧ tree.look location = some (.file text) := by
  unfold read
  split
  · rename_i fault hwalk
    simp [hwalk]
  · rename_i location hwalk
    rw [hwalk]
    split <;> simp_all

end Forwarding.FileTree
