import Forwarding.Proofs.FileTree.Making

/-!
# Making directories again

What a path asks for is made only once: to make its directories again changes nothing, whether they
could be made or not.  Only the fault can differ.  Where the way goes up from a directory that was
missing, a file that stood in the place of a directory to be made (`alreadyExists`) stands on the
way when this is gone again (`notDirectory`).

* `FileTree.makeDirs_again`: what making directories again comes to;
* `FileTree.IsRooted`: everything stands in a directory, which making directories and writing files
  preserve;
* `FileTree.IsRooted.parent_mem_of_again`: in such a tree the fault differs only for a path with a
  step up.
-/

namespace Forwarding.FileTree

variable {tree above made : FileTree}

/-! ### Directories that are there -/

/-- A directory that is there is not made. -/
theorem makeDir_of_isDir {path : Path} (h : tree.isDir path = true) :
    tree.makeDir path = .error .alreadyExists := by
  have hspelling := spellingFault?_of_isDir h
  obtain ⟨hwalk, -⟩ := isDir_iff.1 h
  rcases List.eq_nil_or_concat' path.segments with hnil | ⟨front, last, hsegments⟩
  · have htext : path.text = "" := by rw [Path.text, hnil]; rfl
    simp [spellingFault?, htext] at hspelling
  · rw [walk, hspelling] at hwalk
    dsimp only at hwalk
    rw [hsegments, follow_append] at hwalk
    obtain ⟨location, hfollow, hrest⟩ := bind_eq_ok_iff.1 hwalk
    rw [follow_cons] at hrest
    obtain ⟨next, hnext, -⟩ := bind_eq_ok_iff.1 hrest
    obtain ⟨hcan, -⟩ := step_eq_ok_iff.1 hnext
    have hsite : tree.site path = .ok (location, last) := by
      rw [site, hspelling]
      dsimp only
      rw [hsegments, List.dropLast_concat, hfollow, List.getLastD_concat]
      exact if_pos hcan.directory
    rw [makeDir, hsite]
    dsimp only
    split_ifs with hname hlong hlook
    · rfl
    · exact absurd (hcan.named last (ofSegment?_of_not_mem hname)).1 (Nat.not_le.2 hlong)
    · rfl
    · exact absurd (hcan.named last (ofSegment?_of_not_mem hname)).2 hlook

/-- Another fault than a missing directory above counts only if the directory is not there. -/
theorem makeDirsUpTo_of_error {path : Path} {fault : FileFault} (hne : path.components ≠ [])
    (hmake : tree.makeDir path = .error fault) (hfault : fault ≠ .notFound) (count : Nat) :
    makeDirsUpTo (count + 1) tree path =
      (tree, if tree.isDir path then .ok () else .error fault) := by
  rw [makeDirsUpTo, if_neg hne, hmake]
  cases fault with
  | notFound => exact absurd rfl hfault
  | _ => rfl

theorem makeDirsUpTo_of_isDir {path : Path} (h : tree.isDir path = true) (count : Nat) :
    makeDirsUpTo (count + 1) tree path = (tree, .ok ()) := by
  by_cases hne : path.components = []
  · rw [makeDirsUpTo, if_pos hne]
  · rw [makeDirsUpTo_of_error hne (makeDir_of_isDir h) (by simp), if_pos h]

/-! ### Making directories again -/

/-- The way to the directory that is made first is that of the parent. -/
theorem exists_trace_parent {path parent : Path} (htrimmed : path.IsTrimmed)
    (hspelling : spellingFault? path = none) (hparent : path.parent? = some parent)
    (hne : parent.components ≠ []) :
    ∃ last step, Component.ofSegment? last = some step ∧
      path.components = parent.components ++ [step] ∧
      ∀ tree : FileTree,
        tree.site path = (tree.trace (tree.start parent) parent.components).map (·, last) := by
  obtain ⟨lastStep, hcomponents⟩ := Path.components_of_parent? hparent
  obtain ⟨front, last, hsegments, ⟨step, hstep⟩ | hnone⟩ := htrimmed
  · obtain ⟨head, hpath, hhead⟩ := exists_head_concat hsegments hstep
    obtain ⟨hsame, hlast⟩ := List.append_inj' (hcomponents.symm.trans hpath) rfl
    obtain rfl := List.singleton_inj.1 hlast
    refine ⟨last, lastStep, hstep, hcomponents, fun tree => ?_⟩
    rw [site_eq hsegments hspelling, start_of_parent? tree hparent hne, hsame, (hhead tree _).1]
  · exfalso
    have hshort : path.components.length ≤ 1 := by
      obtain ⟨head, hpath, ⟨-, rfl⟩ | ⟨-, rfl | rfl⟩⟩ := path.components_cases <;>
        simp [hpath, hnone]
    have hlength := congrArg List.length hcomponents
    rw [List.length_append, List.length_singleton] at hlength
    have hpositive := List.length_pos_of_ne_nil hne
    omega

/-- A path leads to a directory if its steps do. -/
theorem isDir_iff_trace_components {path : Path} (hspelling : spellingFault? path = none) :
    tree.isDir path = true ↔
      ∃ next, tree.trace (tree.start path) path.components = .ok next := by
  obtain ⟨head, hcomponents, hhead⟩ := exists_head path
  rw [isDir_iff_trace hspelling, hcomponents, (hhead tree _).1]

/-- Where the steps of a path meet a fault, its last directory meets the same one when it is made,
unless a file stands in its place. -/
theorem makeDir_of_trace_error {path : Path} {fault : FileFault} (htrimmed : path.IsTrimmed)
    (hspelling : spellingFault? path = none)
    (htrace : tree.trace (tree.start path) path.components = .error fault)
    (hfault : fault ≠ .notFound) :
    tree.makeDir path = .error fault ∨
      fault = .notDirectory ∧ tree.makeDir path = .error .alreadyExists := by
  obtain ⟨front, last, hsegments, ⟨step, hstep⟩ | hnone⟩ := htrimmed
  · obtain ⟨head, hpath, hhead⟩ := exists_head_concat hsegments hstep
    rw [hpath, List.append_assoc, (hhead tree _).1, trace_append] at htrace
    have hsite : tree.site path = _ := site_eq hsegments hspelling
    rcases hfront : tree.trace (tree.start path) (front.filterMap Component.ofSegment?) with
      other | location
    · rw [hfront] at htrace hsite
      obtain rfl : other = fault := Except.error.inj htrace
      exact Or.inl (by rw [makeDir, hsite]; rfl)
    · rw [hfront] at htrace hsite
      change tree.trace location [step] = .error fault at htrace
      rw [trace, if_pos (trace_eq_ok hfront).2] at htrace
      rcases stepFault?_cases tree location step with ⟨hnone, -⟩ | hmissing | ⟨hlong, hfits⟩
      · rw [hnone] at htrace
        dsimp only at htrace
        rw [trace] at htrace
        split_ifs at htrace
        exact Or.inr ⟨(Except.error.inj htrace).symm, makeDir_of_existing hsite hstep hnone⟩
      · rw [hmissing] at htrace
        exact absurd (Except.error.inj htrace).symm hfault
      · rw [hlong] at htrace
        obtain rfl := Except.error.inj htrace
        exact Or.inl (makeDir_of_long hsite hstep hlong hfits)
  · obtain ⟨head, hpath, hhead⟩ := exists_head path
    rw [hpath, (hhead tree _).1, hnone] at htrace
    have hfront : front.filterMap Component.ofSegment? = [] := by
      rw [hsegments, List.filterMap_append, List.append_eq_nil_iff] at hnone
      exact hnone.1
    refine Or.inl ?_
    rw [makeDir, site_eq hsegments hspelling, hfront, htrace]
    rfl

/-- What keeps the last directory of a path from being made after those above it could not be made:
its way is missing, or it meets the same fault, unless a file stands in the place of the one above
it. -/
theorem makeDir_of_parent {path parent : Path} {count : Nat} {fault : FileFault}
    (htrimmed : path.IsTrimmed) (hspelling : spellingFault? path = none)
    (hparent : path.parent? = some parent)
    (hparents : makeDirsUpTo (count + 1) tree parent = (above, .error fault)) :
    tree.makeDir path = .error .notFound ∨
      ∃ other, tree.makeDir path = .error other ∧ other ≠ .notFound ∧ tree.isDir path = false ∧
        (other = fault ∨ fault = .alreadyExists ∧ other = .notDirectory) := by
  have hne : parent.components ≠ [] := by
    intro hnil
    rw [makeDirsUpTo, if_pos hnil] at hparents
    cases hparents
  have hparentSpelling := Path.spellingFault?_of_parent? hparent hspelling hne
  have hnot : tree.isDir parent = false := by
    rw [Bool.eq_false_iff]
    intro hdirectory
    rw [makeDirsUpTo_of_isDir hdirectory] at hparents
    cases hparents
  obtain ⟨last, step, hstep, hcomponents, hsite⟩ :=
    exists_trace_parent htrimmed hspelling hparent hne
  rcases htrace : tree.trace (tree.start parent) parent.components with other | location
  · have hmake : tree.makeDir path = .error other := by
      rw [makeDir, hsite, htrace]
      rfl
    by_cases hmissing : other = .notFound
    · exact Or.inl (hmissing ▸ hmake)
    · refine Or.inr ⟨other, hmake, hmissing, ?_, ?_⟩
      · rw [Bool.eq_false_iff, ne_eq, isDir_iff_trace_components hspelling, hcomponents,
          ← start_of_parent? tree hparent hne, trace_append, htrace]
        rintro ⟨next, hnext⟩
        cases hnext
      · rcases makeDir_of_trace_error (Path.parent?_spelling hparent).1 hparentSpelling htrace
          hmissing with hsame | ⟨rfl, hfile⟩
        · rw [makeDirsUpTo_of_error hne hsame hmissing, hnot] at hparents
          exact Or.inl (Except.error.inj (Prod.mk.inj hparents).2)
        · rw [makeDirsUpTo_of_error hne hfile (by simp), hnot] at hparents
          exact Or.inr ⟨(Except.error.inj (Prod.mk.inj hparents).2).symm, rfl⟩
  · have hdirectory := (isDir_iff_trace_components hparentSpelling).2 ⟨location, htrace⟩
    rw [hnot] at hdirectory
    cases hdirectory

/-- The result of making directories again: the same, unless a file stood in the place of one of
them and stands on their way now. -/
def Again (result again : Except FileFault Unit) : Prop :=
  again = result ∨ result = .error .alreadyExists ∧ again = .error .notDirectory

theorem Again.trans {result again third : Except FileFault Unit} (h : Again result again)
    (h' : Again again third) : Again result third := by
  rcases h with rfl | ⟨rfl, rfl⟩
  · exact h'
  · rcases h' with rfl | ⟨h, -⟩
    · exact Or.inr ⟨rfl, rfl⟩
    · cases h

theorem Again.exists_error {fault : FileFault} {again : Except FileFault Unit}
    (h : Again (.error fault) again) : ∃ other, again = .error other := by
  rcases h with rfl | ⟨-, rfl⟩
  · exact ⟨fault, rfl⟩
  · exact ⟨.notDirectory, rfl⟩

theorem Again.eq_ok {again : Except FileFault Unit} (h : Again (.ok ()) again) :
    again = .ok () := by
  rcases h with rfl | ⟨h, -⟩
  · rfl
  · cases h

/-- Where the directories above cannot be made and nothing is made of them, nothing is made of the
path either. -/
theorem makeDirsUpTo_of_parent {path parent : Path} {count : Nat} {fault : FileFault}
    (htrimmed : path.IsTrimmed) (hspelling : spellingFault? path = none)
    (hne : path.components ≠ []) (hparent : path.parent? = some parent)
    (hparents : makeDirsUpTo (count + 1) tree parent = (tree, .error fault)) :
    ∃ again, makeDirsUpTo (count + 2) tree path = (tree, again) ∧
      Again (.error fault) again := by
  rcases makeDir_of_parent htrimmed hspelling hparent hparents with hmissing |
    ⟨last, hmake, hlast, hnot, hothers⟩
  · refine ⟨.error fault, ?_, Or.inl rfl⟩
    rw [makeDirsUpTo, if_neg hne, hmissing, hparent]
    dsimp only
    rw [hparents]
  · refine ⟨.error last, ?_, ?_⟩
    · rw [makeDirsUpTo_of_error hne hmake hlast, hnot]
      rfl
    · rcases hothers with rfl | ⟨rfl, rfl⟩
      · exact Or.inl rfl
      · exact Or.inr ⟨rfl, rfl⟩

theorem makeDirsUpTo_again {count : Nat} {path : Path} {result : Except FileFault Unit}
    (htrimmed : path.IsTrimmed) (hspelling : path.components ≠ [] → spellingFault? path = none)
    (h : makeDirsUpTo count tree path = (above, result)) :
    ∃ again, makeDirsUpTo count above path = (above, again) ∧ Again result again := by
  -- where nothing was made there is nothing to show
  have hsame : above = tree →
      ∃ again, makeDirsUpTo count above path = (above, again) ∧ Again result again :=
    fun hsame => ⟨result, by rw [hsame, h, hsame], Or.inl rfl⟩
  induction count generalizing path tree above result with
  | zero => exact hsame (Prod.mk.inj h).1.symm
  | succ count ih =>
    by_cases hne : path.components = []
    · rw [makeDirsUpTo, if_pos hne] at h
      exact hsame (Prod.mk.inj h).1.symm
    have hmade : ∀ {before : FileTree}, before.makeDir path = .ok above → result = .ok () →
        ∃ again, makeDirsUpTo (count + 1) above path = (above, again) ∧ Again result again := by
      rintro before hmake rfl
      obtain ⟨-, hdirectory⟩ : Grows _ (fun _ => False) _ _ ∧ above.isDir path = true :=
        makeDir_eq_ok hmake
      exact ⟨.ok (), makeDirsUpTo_of_isDir hdirectory count, Or.inl rfl⟩
    rw [makeDirsUpTo, if_neg hne] at h
    split at h
    · rename_i made hmake
      obtain ⟨rfl, rfl⟩ := Prod.mk.inj h
      exact hmade hmake rfl
    · split at h
      · exact hsame (Prod.mk.inj h).1.symm
      · rename_i parent hparent
        have hparentTrimmed := (Path.parent?_spelling hparent).1
        have hparentSpelling := Path.spellingFault?_of_parent? hparent (hspelling hne)
        rcases hparents : makeDirsUpTo count tree parent with ⟨middle, fault | _⟩
        all_goals
          obtain ⟨again, hagain, hresult⟩ := ih hparentTrimmed hparentSpelling hparents
            fun hsame => ⟨_, by rw [hsame, hparents, hsame], Or.inl rfl⟩
          rw [hparents] at h
          dsimp only at h
        · -- the directories above could not be made, and cannot be made again
          obtain ⟨rfl, rfl⟩ := Prod.mk.inj h
          obtain ⟨other, rfl⟩ := hresult.exists_error
          cases count with
          | zero => exact hsame (Prod.mk.inj hparents).1.symm
          | succ count =>
            obtain ⟨last, hlast, hothers⟩ :=
              makeDirsUpTo_of_parent htrimmed (hspelling hne) hne hparent hagain
            exact ⟨last, hlast, hresult.trans hothers⟩
        · obtain rfl := hresult.eq_ok
          rcases hmake : middle.makeDir path with fault | made
          · rw [hmake] at h
            obtain ⟨rfl, rfl⟩ := Prod.mk.inj h
            refine ⟨_, ?_, Or.inl rfl⟩
            by_cases hmissing : fault = .notFound
            · rw [makeDirsUpTo, if_neg hne, hmake, hmissing, hparent]
              dsimp only
              rw [hagain]
              dsimp only
              rw [hmake, hmissing]
            · exact makeDirsUpTo_of_error hne hmake hmissing count
          · rw [hmake] at h
            obtain ⟨rfl, rfl⟩ := Prod.mk.inj h
            exact hmade hmake rfl
    · exact hsame (Prod.mk.inj h).1.symm

/-- Nothing is made for a path that cannot be spelled. -/
theorem makeDirs_of_spellingFault {path : Path} {fault : FileFault}
    (hspelling : spellingFault? path = some fault) (hne : path.components ≠ []) :
    tree.makeDirs path = (tree, .error fault) := by
  have hmake : tree.makeDir path = .error fault := by
    rw [makeDir, site, hspelling]
  have hfault : fault ≠ .notFound := by
    rintro rfl
    rw [spellingFault?, if_neg (Path.text_ne_empty hne)] at hspelling
    split_ifs at hspelling <;> cases hspelling
  have hnot : tree.isDir path = false := by
    rw [Bool.eq_false_iff]
    intro hdirectory
    rw [spellingFault?_of_isDir hdirectory] at hspelling
    cases hspelling
  rw [makeDirs, makeDirsUpTo_of_error hne hmake hfault, hnot]
  rfl

/-- Nothing is made of directories that are there. -/
theorem makeDirs_of_trace {path : Path} {next : Location}
    (h : tree.trace (tree.start path) path.components = .ok next) :
    tree.makeDirs path =
      (tree, if path.components = [] then .ok ()
        else match spellingFault? path with
          | none => .ok ()
          | some fault => .error fault) := by
  by_cases hne : path.components = []
  · rw [if_pos hne, makeDirs, makeDirsUpTo, if_pos hne]
  · rw [if_neg hne]
    rcases hspelling : spellingFault? path with _ | fault
    · exact makeDirsUpTo_of_isDir ((isDir_iff_trace_components hspelling).2 ⟨next, h⟩) _
    · exact makeDirs_of_spellingFault hspelling hne

/-- A file is written unless its spelling, the length of its name or a directory in its place
prevents it. -/
theorem write_of_trace {path : Path} {front : List String} {name : String} {location : Location}
    (hsegments : path.segments = front ++ [name]) (hname : name ∉ ["", ".", ".."])
    (h : tree.trace (tree.start path) (front.filterMap Component.ofSegment?) = .ok location)
    (text : String) :
    tree.write path text =
      match spellingFault? path with
      | some fault => .error fault
      | none =>
          if name.utf8ByteSize > nameLimit then .error .nameTooLong
          else if tree.look (location ++ [name]) = some .directory then .error .isDirectory
          else .ok (tree.put (location ++ [name]) (.file text)) := by
  rcases hspelling : spellingFault? path with _ | fault
  · rw [write, site_eq hsegments hspelling, h]
    exact if_neg hname
  · rw [write, site, hspelling]

theorem spellingFault?_of_makeDirs {path : Path} {result : Except FileFault Unit}
    (h : tree.makeDirs path = (above, result)) (hmade : above ≠ tree)
    (hne : path.components ≠ []) : spellingFault? path = none := by
  rcases hspelling : spellingFault? path with _ | fault
  · rfl
  · rw [makeDirs_of_spellingFault hspelling hne] at h
    exact absurd (Prod.mk.inj h).1.symm hmade

/-- **Making directories again changes nothing**, and the result is the same, unless a file stood in
the place of one of them and stands on their way now. -/
theorem makeDirs_again {path : Path} {result : Except FileFault Unit} (htrimmed : path.IsTrimmed)
    (h : tree.makeDirs path = (above, result)) :
    ∃ again, above.makeDirs path = (above, again) ∧ Again result again := by
  by_cases hmade : above = tree
  · exact ⟨result, by rw [hmade, h, hmade], Or.inl rfl⟩
  · exact makeDirsUpTo_again htrimmed (spellingFault?_of_makeDirs h hmade) h

/-! ### Trees in which everything stands in a directory -/

/-- Everything stands in a directory. -/
def IsRooted (tree : FileTree) : Prop :=
  ∀ (location : Location) (name : String), tree.look (location ++ [name]) ≠ none →
    tree.look location = some .directory

namespace IsRooted

/-- Nothing stands below what is no directory. -/
theorem look_eq_none (h : tree.IsRooted) {location other : Location}
    (hlook : tree.look location = none) (hbelow : location <+: other) : tree.look other = none := by
  obtain ⟨names, rfl⟩ := hbelow
  induction names using List.reverseRecOn with
  | nil => rwa [List.append_nil]
  | append_singleton front name ih =>
    by_contra hname
    rw [← List.append_assoc] at hname
    rw [h _ _ hname] at ih
    cases ih

/-- A step that ends at something missing would lead to it. -/
theorem look_of_stepFault? {location : Location} {step : Component}
    (h : tree.stepFault? location step = some .notFound) :
    tree.look (step.apply location) = none := by
  cases step with
  | named name =>
    rw [stepFault?] at h
    split_ifs at h with hlong hmissing
    · cases h
    · exact hmissing
  | _ => cases h

/-- Steps down that end at something missing would lead to something missing. -/
theorem look_of_trace (h : tree.IsRooted) {location : Location} {steps : List Component}
    (hsteps : ∀ step ∈ steps, step ≠ .root ∧ step ≠ .parent)
    (htrace : tree.trace location steps = .error .notFound) :
    tree.look (Location.along location steps) = none := by
  induction steps generalizing location with
  | nil =>
    rw [trace] at htrace
    split_ifs at htrace
    cases htrace
  | cons step rest ih =>
    obtain ⟨-, hrest⟩ := List.forall_mem_cons.1 hsteps
    by_cases hdirectory : tree.look location = some .directory
    · rw [trace, if_pos hdirectory] at htrace
      rcases hfault : tree.stepFault? location step with _ | fault
      · rw [hfault] at htrace
        exact ih hrest htrace
      · rw [hfault] at htrace
        obtain rfl := Except.error.inj htrace
        exact h.look_eq_none (look_of_stepFault? hfault) (Location.isPrefix_along _ hrest)
    · rw [trace_of_not_directory hdirectory] at htrace
      cases htrace

end IsRooted

theorem trace_ne_alreadyExists (location : Location) (steps : List Component) :
    tree.trace location steps ≠ .error .alreadyExists := by
  induction steps generalizing location with
  | nil =>
    rw [trace]
    split_ifs <;> simp
  | cons step rest ih =>
    by_cases hdirectory : tree.look location = some .directory
    · rw [trace, if_pos hdirectory]
      rcases stepFault?_cases tree location step with ⟨hnone, -⟩ | hmissing | ⟨hlong, -⟩
      · rw [hnone]
        exact ih _
      · simp [hmissing]
      · simp [hlong]
    · simp [trace_of_not_directory hdirectory]

/-- The directory above one that could not be made for want of it is missing. -/
theorem IsRooted.look_of_makeDir (h : tree.IsRooted) {path : Path} {front : List String}
    {last : String} {step : Component} (hsegments : path.segments = front ++ [last])
    (hspelling : spellingFault? path = none) (hstep : Component.ofSegment? last = some step)
    (hsteps : ∀ other ∈ front.filterMap Component.ofSegment?, other ≠ .root ∧ other ≠ .parent)
    (hmissing : tree.makeDir path = .error .notFound) :
    tree.look (Location.along (tree.start path) (front.filterMap Component.ofSegment?)) =
      none := by
  rcases htrace : tree.trace (tree.start path) (front.filterMap Component.ofSegment?) with
    fault | location
  · rw [makeDir, site_eq hsegments hspelling, htrace] at hmissing
    obtain rfl := Except.error.inj hmissing
    exact h.look_of_trace hsteps htrace
  · rcases makeDir_cases hsegments hspelling hstep htrace with ⟨made, hmade, -⟩ |
      ⟨fault, hfault, hne, -⟩
    · rw [hmade] at hmissing
      cases hmissing
    · rw [hfault] at hmissing
      exact absurd (Except.error.inj hmissing) hne

/-- What stands in the place of a directory to be made is a file. -/
theorem look_of_alreadyExists {path : Path} {front : List String} {name : String}
    {location : Location} (hsegments : path.segments = front ++ [name])
    (hspelling : spellingFault? path = none)
    (hstep : Component.ofSegment? name = some (.named name))
    (htrace : tree.trace (tree.start path) (front.filterMap Component.ofSegment?) = .ok location)
    (hmake : tree.makeDir path = .error .alreadyExists) (hnot : tree.isDir path = false) :
    ∃ text, tree.look (location ++ [name]) = some (.file text) := by
  have hdirectory := (trace_eq_ok htrace).2
  have hsite : tree.site path = .ok (location, name) := by
    rw [site_eq hsegments hspelling, htrace]
    rfl
  rcases stepFault?_cases tree location (.named name) with ⟨hnone, -⟩ | hfault | ⟨hlong, hfits⟩
  · rcases hnode : tree.look (location ++ [name]) with _ | text | _
    · rw [stepFault?, if_pos hnode] at hnone
      split_ifs at hnone
    · exact ⟨text, rfl⟩
    · rw [Bool.eq_false_iff, ne_eq, isDir_iff_trace hspelling, hsegments, List.filterMap_append,
        trace_append, htrace, List.filterMap_cons_some hstep] at hnot
      refine absurd ⟨location ++ [name], ?_⟩ hnot
      change tree.trace location [.named name] = _
      rw [trace, if_pos hdirectory, hnone]
      exact if_pos hnode
  · obtain ⟨made, hmade, -⟩ := makeDir_of_missing hsite hstep hdirectory hfault
    rw [hmade] at hmake
    cases hmake
  · rw [makeDir_of_long hsite hstep hlong hfits] at hmake
    cases hmake

/-- A path without steps is there, or its beginning is no directory. -/
theorem makeDir_ne_notFound {path : Path} {front : List String} {last : String}
    (hsegments : path.segments = front ++ [last]) (hspelling : spellingFault? path = none)
    (hnone : path.segments.filterMap Component.ofSegment? = []) :
    tree.makeDir path ≠ .error .notFound := by
  intro hmissing
  rw [hsegments, List.filterMap_append, List.append_eq_nil_iff] at hnone
  have hname : last ∈ ["", ".", ".."] := by
    by_contra hname
    rw [List.filterMap_cons_some (ofSegment?_of_not_mem hname)] at hnone
    cases hnone.2
  rw [makeDir, site_eq hsegments hspelling, hnone.1, trace] at hmissing
  split_ifs at hmissing
  · simp [Except.map, hname] at hmissing
  · cases hmissing

/-- Below something missing there is no file in the way. -/
theorem IsRooted.makeDir_ne_alreadyExists {directories : Location → Prop} (h : tree.IsRooted)
    {path : Path} (htrimmed : path.IsTrimmed) (hspelling : spellingFault? path = none)
    (hup : .parent ∉ path.components) (hmissing : tree.makeDir path = .error .notFound)
    (hgrows : Grows directories (fun _ => False) tree above) (hnot : above.isDir path = false) :
    above.makeDir path ≠ .error .alreadyExists := by
  intro hmake
  obtain ⟨front, last, hsegments, ⟨step, hstep⟩ | hnone⟩ := htrimmed
  · obtain ⟨head, hpath, -⟩ := exists_head_concat hsegments hstep
    have hsteps : ∀ other ∈ front.filterMap Component.ofSegment?,
        other ≠ .root ∧ other ≠ .parent := by
      intro other hother
      refine ⟨?_, fun hparent => hup ?_⟩
      · rintro rfl
        obtain ⟨segment, -, hsegment⟩ := List.mem_filterMap.1 hother
        exact Component.ofSegment?_ne_root segment hsegment
      · rw [hpath, ← hparent]
        exact List.mem_append_left _ (List.mem_append_right _ hother)
    -- the way before the last step is missing in the first tree
    have hlook := h.look_of_makeDir hsegments hspelling hstep hsteps hmissing
    obtain rfl : step = .named last := by
      rcases Component.ofSegment?_cases hstep with rfl | rfl
      · exact absurd (hpath ▸ List.mem_append_right _ List.mem_cons_self) hup
      · rfl
    rcases htrace : above.trace (above.start path) (front.filterMap Component.ofSegment?) with
      fault | location
    · rw [makeDir, site_eq hsegments hspelling, htrace] at hmake
      obtain rfl := Except.error.inj hmake
      exact trace_ne_alreadyExists _ _ htrace
    · -- what stands there now is a file, and it stood there before
      obtain ⟨text, hfile⟩ :=
        look_of_alreadyExists hsegments hspelling hstep htrace hmake hnot
      have hbefore := (hgrows.look_file_iff not_false).1 hfile
      rw [← hgrows.start, ← (trace_eq_ok htrace).1, h location last (by simp [hbefore])] at hlook
      cases hlook
  · exact makeDir_ne_notFound hsegments hspelling hnone hmissing

/-- In such a tree, a path without steps up meets a file only where nothing was made before. -/
theorem IsRooted.eq_of_alreadyExists (hrooted : tree.IsRooted) {count : Nat} {path : Path}
    (htrimmed : path.IsTrimmed) (hspelling : path.components ≠ [] → spellingFault? path = none)
    (hup : .parent ∉ path.components)
    (h : makeDirsUpTo count tree path = (above, .error .alreadyExists)) : above = tree := by
  induction count generalizing path with
  | zero => exact (Prod.mk.inj h).1.symm
  | succ count ih =>
    by_cases hne : path.components = []
    · rw [makeDirsUpTo, if_pos hne] at h
      cases h
    rw [makeDirsUpTo, if_neg hne] at h
    split at h
    · cases h
    · rename_i hmissing
      split at h
      · exact (Prod.mk.inj h).1.symm
      · rename_i parent hparent
        obtain ⟨last, hsteps⟩ := Path.components_of_parent? hparent
        split at h
        · rename_i middle fault hparents
          obtain ⟨rfl, hfault⟩ := Prod.mk.inj h
          obtain rfl := Except.error.inj hfault
          exact ih (Path.parent?_spelling hparent).1
            (Path.spellingFault?_of_parent? hparent (hspelling hne))
            (fun hmem => hup (hsteps ▸ List.mem_append_left _ hmem)) hparents
        · rename_i middle hparents
          split at h
          · cases h
          · rename_i fault hmake
            have hgrows : Grows _ (fun _ => False) tree (makeDirsUpTo count tree parent).1 :=
              (makeDirsUpTo_makesDirs count tree parent).grows
            rw [hparents] at hgrows
            obtain ⟨rfl, hresult⟩ := Prod.mk.inj h
            split_ifs at hresult with hdirectory
            obtain rfl := Except.error.inj hresult
            exact absurd hmake (hrooted.makeDir_ne_alreadyExists htrimmed (hspelling hne) hup
              hmissing hgrows (Bool.eq_false_iff.2 hdirectory))
    · exact (Prod.mk.inj h).1.symm

/-- So for such a path the result does not differ either. -/
theorem IsRooted.parent_mem_of_again (h : tree.IsRooted) {path : Path} (htrimmed : path.IsTrimmed)
    (hmake : tree.makeDirs path = (above, .error .alreadyExists))
    (hagain : above.makeDirs path = (above, .error .notDirectory)) :
    .parent ∈ path.components := by
  have hmade : above ≠ tree := by
    rintro rfl
    cases hmake.symm.trans hagain
  by_contra hup
  exact hmade (h.eq_of_alreadyExists htrimmed (spellingFault?_of_makeDirs hmake hmade) hup hmake)

/-! ### Trees stay so -/

namespace IsRooted

/-- What is put in a directory stands in one, and what stands below it does so still if it was no
directory before or stays one. -/
theorem put (h : tree.IsRooted) {directory : Location} {name : String} {node : Node}
    (hdirectory : tree.look directory = some .directory)
    (hnode : tree.look (directory ++ [name]) = some .directory → node = .directory) :
    (tree.put (directory ++ [name]) node).IsRooted := by
  have hne : directory ++ [name] ≠ [] := by simp
  intro location other hother
  rw [look_put tree hne] at hother ⊢
  by_cases hsame : location ++ [other] = directory ++ [name]
  · obtain ⟨rfl, -⟩ := List.append_inj' hsame rfl
    rwa [if_neg (by simp)]
  · rw [if_neg hsame] at hother
    have hlocation := h location other hother
    split_ifs with hput
    · rw [hput] at hlocation
      rw [hnode hlocation]
    · exact hlocation

theorem makeDir (h : tree.IsRooted) {path : Path} (hmake : tree.makeDir path = .ok made) :
    made.IsRooted := by
  unfold FileTree.makeDir at hmake
  split at hmake
  · cases hmake
  · rename_i directory name hsite
    split_ifs at hmake with hname hlong hlook
    obtain rfl := Except.ok.inj hmake
    exact h.put (site_eq_ok hsite hname).1 fun _ => rfl

theorem makeDirsUpTo (h : tree.IsRooted) (count : Nat) (path : Path) :
    (makeDirsUpTo count tree path).1.IsRooted := by
  induction count generalizing path with
  | zero => exact h
  | succ count ih =>
    rw [FileTree.makeDirsUpTo]
    by_cases hne : path.components = []
    · rwa [if_pos hne]
    rw [if_neg hne]
    split
    · rename_i made hmake
      exact h.makeDir hmake
    · split
      · exact h
      · rename_i parent hparent
        have hparents := ih parent
        split
        · rename_i above fault hresult
          rwa [hresult] at hparents
        · rename_i above hresult
          rw [hresult] at hparents
          split
          · rename_i made hmake
            exact hparents.makeDir hmake
          · exact hparents
    · exact h

theorem makeDirs (h : tree.IsRooted) (path : Path) : (tree.makeDirs path).1.IsRooted :=
  h.makeDirsUpTo _ path

theorem write (h : tree.IsRooted) {path : Path} {text : String}
    (hwrite : tree.write path text = .ok made) : made.IsRooted := by
  unfold FileTree.write at hwrite
  split at hwrite
  · cases hwrite
  · rename_i directory name hsite
    split_ifs at hwrite with hname hlong hlook
    obtain rfl := Except.ok.inj hwrite
    exact h.put (site_eq_ok hsite hname).1 fun hdirectory => absurd hdirectory hlook

end IsRooted

end Forwarding.FileTree
