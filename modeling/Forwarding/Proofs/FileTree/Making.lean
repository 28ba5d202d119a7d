import Forwarding.Proofs.FileTree.Growth
import Forwarding.Proofs.Spelling

/-!
# The way to a file

Whether the directories on the way to a file can be made is settled step by step: a named step leads
to a directory or to where nothing stands, and any other step to a directory.

* `FileTree.trace`: where steps lead, and the fault they meet;
* `FileTree.pave`: the tree with all directories on the way of the steps, unless something else
  stands in the way;
* `FileTree.makeDirs_eq_ok_iff`: making directories succeeds exactly if their way can be paved;
* `FileTree.exists_pave_of_directories`, `FileTree.exists_pave_named`: when a way can be paved in
  another tree;
* `FileTree.Accepts`: when a file can be written.
-/

namespace Forwarding

/-- Whether the name of a step is within the limit. -/
def Component.fits : Component → Bool
  | .named name => name.utf8ByteSize ≤ FileTree.nameLimit
  | _ => true

namespace FileTree

variable {tree made : FileTree}

/-! ### Where steps lead -/

/-- What keeps a step from being made from a directory. -/
def stepFault? (tree : FileTree) (location : Location) : Component → Option FileFault
  | .named name =>
      if name.utf8ByteSize > nameLimit then some .nameTooLong
      else if tree.look (location ++ [name]) = none then some .notFound
      else none
  | _ => none

/-- The directory that steps lead to. -/
def trace (tree : FileTree) (location : Location) : List Component → Except FileFault Location
  | [] => if tree.look location = some .directory then .ok location else .error .notDirectory
  | step :: rest =>
      if tree.look location = some .directory then
        match tree.stepFault? location step with
        | some fault => .error fault
        | none => tree.trace (step.apply location) rest
      else .error .notDirectory

theorem trace_of_not_directory {location : Location} (h : tree.look location ≠ some .directory)
    (steps : List Component) : tree.trace location steps = .error .notDirectory := by
  cases steps <;> simp [trace, h]

theorem trace_append (location : Location) (steps more : List Component) :
    tree.trace location (steps ++ more) =
      tree.trace location steps >>= fun next => tree.trace next more := by
  induction steps generalizing location with
  | nil =>
    by_cases h : tree.look location = some .directory
    · simp [trace, h, bind, Except.bind]
    · simp [trace, h, trace_of_not_directory h, bind, Except.bind]
  | cons step rest ih =>
    rw [List.cons_append, trace, trace]
    split_ifs
    · cases tree.stepFault? location step with
      | some fault => rfl
      | none => exact ih _
    · rfl

/-- Steps that lead to a directory lead to their location. -/
theorem trace_eq_ok {location next : Location} {steps : List Component}
    (h : tree.trace location steps = .ok next) :
    next = Location.along location steps ∧ tree.look next = some .directory := by
  induction steps generalizing location with
  | nil =>
    rw [trace] at h
    split_ifs at h with hdirectory
    obtain rfl := Except.ok.inj h
    exact ⟨rfl, hdirectory⟩
  | cons step rest ih =>
    rw [trace] at h
    split_ifs at h
    cases hfault : tree.stepFault? location step with
    | some fault =>
      rw [hfault] at h
      cases h
    | none =>
      rw [hfault] at h
      exact ih h

/-- The segments of a path lead to a directory as their steps do. -/
theorem follow_trace (location : Location) (segments : List String) :
    (tree.follow location segments >>= fun next => tree.trace next []) =
      tree.trace location (segments.filterMap Component.ofSegment?) := by
  induction segments generalizing location with
  | nil => rfl
  | cons segment rest ih =>
    rw [follow_cons, bind_assoc]
    simp only [ih]
    by_cases hdirectory : tree.look location = some .directory
    · by_cases hnone : segment = "" ∨ segment = "."
      · have hsegment : Component.ofSegment? segment = none := by
          simp [Component.ofSegment?, hnone]
        have hstep : tree.step location segment = .ok location := by
          simp [step, hdirectory, hnone]
        rw [List.filterMap_cons_none hsegment, hstep]
        rfl
      · by_cases hdots : segment = ".."
        · have hsegment : Component.ofSegment? segment = some .parent := by
            simp [Component.ofSegment?, hdots]
          have hstep : tree.step location segment = .ok location.dropLast := by
            simp [step, hdirectory, hdots]
          rw [List.filterMap_cons_some hsegment, hstep, trace, if_pos hdirectory]
          rfl
        · have hsegment : Component.ofSegment? segment = some (.named segment) := by
            simp [Component.ofSegment?, hnone, hdots]
          rw [List.filterMap_cons_some hsegment, trace, if_pos hdirectory]
          simp only [step, hdirectory, hnone, hdots, stepFault?, ne_eq, not_true_eq_false, if_false]
          split_ifs <;> rfl
    · have hstep : tree.step location segment = .error .notDirectory := by
        rw [step, if_pos hdirectory]
      rw [hstep, trace_of_not_directory hdirectory]
      rfl

/-! ### Paving the way -/

/-- A directory at the location, unless something stands there. -/
def provide (tree : FileTree) (location : Location) : FileTree :=
  if tree.look location = none then tree.put location .directory else tree

/-- The tree with what a step leads to: a named step needs a directory. -/
def provideStep (tree : FileTree) (location : Location) : Component → FileTree
  | .named name => tree.provide (location ++ [name])
  | _ => tree

/-- The tree with directories on the way of the steps, unless something else stands in the way. -/
def pave (tree : FileTree) (location : Location) : List Component → Option FileTree
  | [] => if tree.look location = some .directory then some tree else none
  | step :: rest =>
      if tree.look location = some .directory ∧ step.fits then
        (tree.provideStep location step).pave (step.apply location) rest
      else none

theorem look_provide (tree : FileTree) (location other : Location) :
    (tree.provide location).look other =
      if other = location ∧ tree.look location = none then some .directory
      else tree.look other := by
  unfold provide
  by_cases hnone : tree.look location = none
  · have hne : location ≠ [] := by
      rintro rfl
      cases hnone
    simp [hnone, look_put tree hne]
  · simp [hnone]

/-- A directory is all that can come. -/
theorem look_provideStep_file_iff {location other : Location} {step : Component} {text : String} :
    (tree.provideStep location step).look other = some (.file text) ↔
      tree.look other = some (.file text) := by
  cases step with
  | named name =>
    rw [provideStep, look_provide]
    split_ifs with h
    · simp [h.1, h.2]
    · rfl
  | _ => rfl

theorem look_provide_directory_iff {location other : Location} :
    (tree.provide location).look other = some .directory ↔
      other = location ∧ tree.look location = none ∨ tree.look other = some .directory := by
  rw [look_provide]
  split_ifs with h
  · simp [h]
  · simp [h]

@[simp] theorem workDir_provide (tree : FileTree) (location : Location) :
    (tree.provide location).workDir = tree.workDir := by
  unfold provide
  split_ifs <;> rfl

@[simp] theorem workDir_provideStep (tree : FileTree) (location : Location) (step : Component) :
    (tree.provideStep location step).workDir = tree.workDir := by
  cases step <;> simp [provideStep]

/-- What stands somewhere stays when a directory is provided. -/
theorem look_provideStep_of_ne_none (location : Location) (step : Component) {other : Location}
    (h : tree.look other ≠ none) :
    (tree.provideStep location step).look other = tree.look other := by
  cases step with
  | named name =>
    rw [provideStep, look_provide, if_neg]
    rintro ⟨rfl, hnone⟩
    exact h hnone
  | _ => rfl

theorem pave_of_not_directory {location : Location} (h : tree.look location ≠ some .directory)
    (steps : List Component) : tree.pave location steps = none := by
  cases steps <;> simp [pave, h]

theorem pave_cons_eq_some_iff {location : Location} {step : Component} {rest : List Component} :
    tree.pave location (step :: rest) = some made ↔
      tree.look location = some .directory ∧ step.fits = true ∧
        (tree.provideStep location step).pave (step.apply location) rest = some made := by
  rw [pave]
  split_ifs with h
  · simp [h]
  · exact iff_of_false (by simp) fun ⟨hdirectory, hfits, _⟩ => h ⟨hdirectory, hfits⟩

/-- What stands somewhere stays when a way is paved. -/
theorem look_pave_of_ne_none {location other : Location} {steps : List Component}
    (h : tree.pave location steps = some made) (hother : tree.look other ≠ none) :
    made.look other = tree.look other := by
  induction steps generalizing tree location with
  | nil =>
    rw [pave] at h
    split_ifs at h
    rw [Option.some.inj h]
  | cons step rest ih =>
    obtain ⟨-, -, hrest⟩ := pave_cons_eq_some_iff.1 h
    have hstep := look_provideStep_of_ne_none location step hother
    rw [ih hrest (by rwa [hstep]), hstep]

theorem workDir_pave {location : Location} {steps : List Component}
    (h : tree.pave location steps = some made) : made.workDir = tree.workDir := by
  induction steps generalizing tree location with
  | nil =>
    rw [pave] at h
    split_ifs at h
    rw [Option.some.inj h]
  | cons step rest ih =>
    rw [ih (pave_cons_eq_some_iff.1 h).2.2, workDir_provideStep]

theorem pave_append (location : Location) (steps more : List Component) :
    tree.pave location (steps ++ more) =
      (tree.pave location steps).bind fun made =>
        made.pave (Location.along location steps) more := by
  induction steps generalizing tree location with
  | nil =>
    by_cases h : tree.look location = some .directory
    · simp [pave, h, Location.along]
    · simp [pave, h, pave_of_not_directory h]
  | cons step rest ih =>
    rw [List.cons_append, pave, pave]
    split_ifs
    · exact ih _
    · rfl

/-- A step can be made, or what it names is missing, or it names too much. -/
theorem stepFault?_cases (tree : FileTree) (location : Location) (step : Component) :
    tree.stepFault? location step = none ∧ step.fits = true ∧
        tree.provideStep location step = tree ∨
      tree.stepFault? location step = some .notFound ∨
      tree.stepFault? location step = some .nameTooLong ∧ step.fits = false := by
  cases step with
  | named name =>
    simp only [stepFault?, Component.fits, provideStep, provide]
    by_cases hlong : name.utf8ByteSize > nameLimit
    · simp [hlong]
    · by_cases hnone : tree.look (location ++ [name]) = none
      · simp [hlong, hnone]
      · simp [hlong, hnone, Nat.not_lt.1 hlong]
  | _ => exact Or.inl ⟨rfl, rfl, rfl⟩

/-- A step that leads to something can be made. -/
theorem stepFault?_eq_none {location : Location} {step : Component} (hfits : step.fits = true)
    (hlook : tree.look (step.apply location) ≠ none) : tree.stepFault? location step = none := by
  cases step with
  | named name =>
    have hlong : ¬ name.utf8ByteSize > nameLimit := by simpa [Component.fits] using hfits
    rw [stepFault?, if_neg hlong]
    exact if_neg hlook
  | _ => rfl

/-- Once the way is paved, it leads where its steps say. -/
theorem trace_of_pave {location : Location} {steps : List Component}
    (h : tree.pave location steps = some made) :
    made.trace location steps = .ok (Location.along location steps) := by
  induction steps generalizing tree location with
  | nil =>
    rw [pave] at h
    split_ifs at h with hdirectory
    rw [← Option.some.inj h, trace, if_pos hdirectory]
    rfl
  | cons step rest ih =>
    obtain ⟨hdirectory, hfits, hrest⟩ := pave_cons_eq_some_iff.1 h
    have hthere : tree.look location ≠ none := by simp [hdirectory]
    have hprovided := look_provideStep_of_ne_none location step hthere
    have hstays : made.look location = some .directory := by
      rw [look_pave_of_ne_none hrest (by rwa [hprovided]), hprovided, hdirectory]
    have hnext := ih hrest
    have hfault : made.stepFault? location step = none := by
      refine stepFault?_eq_none hfits fun hnone => ?_
      rw [trace_of_not_directory (by simp [hnone])] at hnext
      cases hnext
    rw [trace, if_pos hstays, hfault]
    exact hnext

/-- A way that leads to a directory is paved already. -/
theorem pave_of_trace {location next : Location} {steps : List Component}
    (h : tree.trace location steps = .ok next) : tree.pave location steps = some tree := by
  induction steps generalizing location with
  | nil =>
    rw [trace] at h
    split_ifs at h with hdirectory
    rw [pave, if_pos hdirectory]
  | cons step rest ih =>
    rw [trace] at h
    split_ifs at h with hdirectory
    rcases stepFault?_cases tree location step with ⟨hnone, hfits, hsame⟩ | hfault | ⟨hfault, -⟩
    · rw [hnone] at h
      exact pave_cons_eq_some_iff.2 ⟨hdirectory, hfits, by rw [hsame, ih h]⟩
    · rw [hfault] at h
      cases h
    · rw [hfault] at h
      cases h

/-- Only what is missing can be made. -/
theorem pave_of_trace_error {location : Location} {steps : List Component} {fault : FileFault}
    (h : tree.trace location steps = .error fault) (hfault : fault ≠ .notFound) :
    tree.pave location steps = none := by
  induction steps generalizing location with
  | nil =>
    rw [trace] at h
    split_ifs at h with hdirectory
    rw [pave, if_neg hdirectory]
  | cons step rest ih =>
    rw [trace] at h
    split_ifs at h with hdirectory
    · rcases stepFault?_cases tree location step with ⟨hnone, hfits, hsame⟩ | hstep | ⟨-, hlong⟩
      · rw [hnone] at h
        rw [pave, if_pos ⟨hdirectory, hfits⟩, hsame, ih h]
      · rw [hstep] at h
        exact absurd (Except.error.inj h).symm hfault
      · simp [pave, hlong]
    · exact pave_of_not_directory hdirectory _

/-! ### Steps and segments -/

/-- A root or a dot at the beginning of a path leads to where its segments are followed from. -/
theorem exists_head (path : Path) :
    ∃ head, path.components = head ++ path.segments.filterMap Component.ofSegment? ∧
      ∀ (tree : FileTree) (steps : List Component),
        tree.trace (tree.start path) (head ++ steps) = tree.trace (tree.start path) steps ∧
          tree.pave (tree.start path) (head ++ steps) = tree.pave (tree.start path) steps := by
  obtain ⟨head, hsteps, ⟨habsolute, rfl⟩ | ⟨hrelative, rfl | rfl⟩⟩ := path.components_cases
  · refine ⟨_, hsteps, fun tree steps => ?_⟩
    rw [start, if_pos habsolute]
    exact ⟨rfl, rfl⟩
  · exact ⟨_, hsteps, fun tree steps => ⟨rfl, rfl⟩⟩
  · refine ⟨_, hsteps, fun tree steps => ?_⟩
    rw [List.singleton_append, trace, pave]
    by_cases hdirectory : tree.look (tree.start path) = some .directory
    · rw [if_pos hdirectory, if_pos ⟨hdirectory, rfl⟩]
      exact ⟨rfl, rfl⟩
    · rw [trace_of_not_directory hdirectory, pave_of_not_directory hdirectory, if_neg hdirectory,
        if_neg fun hcan => hdirectory hcan.1]
      exact ⟨rfl, rfl⟩

/-- The same for a path whose last segment stands for a step. -/
theorem exists_head_concat {path : Path} {front : List String} {last : String} {step : Component}
    (hsegments : path.segments = front ++ [last]) (hstep : Component.ofSegment? last = some step) :
    ∃ head, path.components = head ++ front.filterMap Component.ofSegment? ++ [step] ∧
      ∀ (tree : FileTree) (steps : List Component),
        tree.trace (tree.start path) (head ++ steps) = tree.trace (tree.start path) steps ∧
          tree.pave (tree.start path) (head ++ steps) = tree.pave (tree.start path) steps := by
  obtain ⟨head, hcomponents, hhead⟩ := exists_head path
  refine ⟨head, ?_, hhead⟩
  rw [hcomponents, hsegments, List.filterMap_append, List.filterMap_cons_some hstep,
    List.filterMap_nil, List.append_assoc]

theorem isDir_iff_trace {path : Path} (hspelling : spellingFault? path = none) :
    tree.isDir path = true ↔
      ∃ next, tree.trace (tree.start path) (path.segments.filterMap Component.ofSegment?) =
        .ok next := by
  rw [← follow_trace, isDir, walk, hspelling]
  dsimp only
  cases tree.follow (tree.start path) path.segments with
  | error fault => simp [bind, Except.bind]
  | ok location =>
    by_cases hdirectory : tree.look location = some .directory
    · simp [hdirectory, trace, bind, Except.bind]
    · simp [hdirectory, trace, bind, Except.bind]

theorem spellingFault?_of_isDir {path : Path} (h : tree.isDir path = true) :
    spellingFault? path = none := by
  obtain ⟨hwalk, -⟩ := isDir_iff.1 h
  unfold walk at hwalk
  split at hwalk
  · cases hwalk
  · rename_i hspelling
    exact hspelling

/-- The way to a directory is paved. -/
theorem pave_of_isDir {path : Path} (h : tree.isDir path = true) :
    tree.pave (tree.start path) path.components = some tree := by
  obtain ⟨head, hcomponents, hhead⟩ := exists_head path
  obtain ⟨next, hnext⟩ := (isDir_iff_trace (spellingFault?_of_isDir h)).1 h
  rw [hcomponents, (hhead tree _).2]
  exact pave_of_trace hnext

/-- Something can be made where the segments before the last one lead to a directory. -/
theorem site_eq {path : Path} {front : List String} {last : String}
    (hsegments : path.segments = front ++ [last]) (hspelling : spellingFault? path = none) :
    tree.site path =
      (tree.trace (tree.start path) (front.filterMap Component.ofSegment?)).map (·, last) := by
  rw [← follow_trace, site, hspelling, hsegments, List.dropLast_concat, List.getLastD_concat]
  dsimp only
  cases tree.follow (tree.start path) front with
  | error fault => rfl
  | ok location =>
    by_cases hdirectory : tree.look location = some .directory
    · simp [hdirectory, trace, bind, Except.bind, Except.map]
    · simp [hdirectory, trace, bind, Except.bind, Except.map]

/-- Only a step with a name meets a fault at a directory. -/
theorem named_of_stepFault? {last : String} {step : Component} {location : Location}
    {fault : FileFault} (hstep : Component.ofSegment? last = some step)
    (hfault : tree.stepFault? location step = some fault) :
    last ∉ ["", ".", ".."] ∧ step = .named last := by
  have hname : last ∉ ["", ".", ".."] := by
    intro hname
    have hparent : step = .parent := by
      simp only [List.mem_cons, List.not_mem_nil, or_false] at hname
      rcases hname with rfl | rfl | rfl
      · cases hstep
      · cases hstep
      · exact (Option.some.inj hstep).symm
    rw [hparent] at hfault
    cases hfault
  rw [ofSegment?_of_not_mem hname] at hstep
  exact ⟨hname, (Option.some.inj hstep).symm⟩

section Site

variable {path : Path} {last : String} {step : Component} {location : Location}

/-- What is there cannot be made. -/
theorem makeDir_of_existing (hsite : tree.site path = .ok (location, last))
    (hstep : Component.ofSegment? last = some step)
    (hfault : tree.stepFault? location step = none) :
    tree.makeDir path = .error .alreadyExists := by
  rw [makeDir, hsite]
  dsimp only
  by_cases hname : last ∈ ["", ".", ".."]
  · rw [if_pos hname]
  · rw [ofSegment?_of_not_mem hname] at hstep
    obtain rfl := Option.some.inj hstep
    rw [stepFault?] at hfault
    split_ifs at hfault with hlong hlook
    rw [if_neg hname, if_neg hlong, if_pos hlook]

/-- What is missing is made as it is paved. -/
theorem makeDir_of_missing (hsite : tree.site path = .ok (location, last))
    (hstep : Component.ofSegment? last = some step)
    (hdirectory : tree.look location = some .directory)
    (hfault : tree.stepFault? location step = some .notFound) :
    ∃ made, tree.makeDir path = .ok made ∧ tree.pave location [step] = some made := by
  obtain ⟨hname, rfl⟩ := named_of_stepFault? hstep hfault
  rw [stepFault?] at hfault
  split_ifs at hfault with hlong hnone
  · cases hfault
  · have hmade : (tree.put (location ++ [last]) .directory).look (location ++ [last]) =
        some .directory := by
      rw [look_put tree (by simp), if_pos rfl]
    refine ⟨tree.put (location ++ [last]) .directory, ?_, ?_⟩
    · rw [makeDir, hsite]
      dsimp only
      rw [if_neg hname, if_neg hlong, if_neg (by simpa using hnone)]
    · rw [pave, if_pos ⟨hdirectory, by simpa [Component.fits] using hlong⟩, provideStep, provide,
        if_pos hnone, pave]
      exact if_pos hmade

/-- A name that is too long cannot be made. -/
theorem makeDir_of_long (hsite : tree.site path = .ok (location, last))
    (hstep : Component.ofSegment? last = some step)
    (hfault : tree.stepFault? location step = some .nameTooLong) (hfits : step.fits = false) :
    tree.makeDir path = .error .nameTooLong := by
  obtain ⟨hname, rfl⟩ := named_of_stepFault? hstep hfault
  have hlong : last.utf8ByteSize > nameLimit := by simpa [Component.fits] using hfits
  rw [makeDir, hsite]
  dsimp only
  rw [if_neg hname, if_pos hlong]

end Site

/-- Where the way leads to a directory, making the last step is paving it. -/
theorem makeDir_cases {path : Path} {front : List String} {last : String} {step : Component}
    {location : Location} (hsegments : path.segments = front ++ [last])
    (hspelling : spellingFault? path = none) (hstep : Component.ofSegment? last = some step)
    (htrace : tree.trace (tree.start path) (front.filterMap Component.ofSegment?) = .ok location) :
    (∃ made, tree.makeDir path = .ok made ∧ tree.pave location [step] = some made) ∨
      ∃ fault, tree.makeDir path = .error fault ∧ fault ≠ .notFound ∧
        tree.pave location [step] = if tree.isDir path then some tree else none := by
  have hdirectory := (trace_eq_ok htrace).2
  have hsite : tree.site path = .ok (location, last) := by
    rw [site_eq hsegments hspelling, htrace]
    rfl
  have hisDir : tree.isDir path = true ↔ ∃ next, tree.trace location [step] = .ok next := by
    rw [isDir_iff_trace hspelling, hsegments, List.filterMap_append, trace_append, htrace,
      List.filterMap_cons_some hstep]
    rfl
  rcases stepFault?_cases tree location step with ⟨hnone, hfits, hsame⟩ | hmissing | ⟨hlong, hfits⟩
  · -- what the step names is there, and the question is whether it is a directory
    refine Or.inr ⟨.alreadyExists, makeDir_of_existing hsite hstep hnone, by simp, ?_⟩
    rw [pave, if_pos ⟨hdirectory, hfits⟩, hsame, pave]
    refine if_congr ?_ rfl rfl
    rw [hisDir, trace, if_pos hdirectory, hnone]
    dsimp only
    rw [trace]
    split_ifs with h <;> simp [h]
  · exact Or.inl (makeDir_of_missing hsite hstep hdirectory hmissing)
  · have hnot : tree.isDir path = false := by
      rw [Bool.eq_false_iff, ne_eq, hisDir, trace, if_pos hdirectory, hlong]
      simp
    exact Or.inr ⟨.nameTooLong, makeDir_of_long hsite hstep hlong hfits, by simp,
      by simp [pave, hfits, hnot]⟩

theorem start_of_parent? (tree : FileTree) {path parent : Path} (h : path.parent? = some parent)
    (hne : parent.components ≠ []) : tree.start parent = tree.start path := by
  obtain ⟨last, hlast⟩ := Path.components_of_parent? h
  have hsame : parent.isAbsolute = path.isAbsolute := by
    rw [Bool.eq_iff_iff, Path.isAbsolute_iff, Path.isAbsolute_iff, hlast,
      List.head?_append_of_ne_nil _ hne]
  rw [start, start, hsame]

/-! ### Making directories -/

section LastStep

variable {count : Nat} {path : Path} {front : List String} {last : String} {step : Component}

/-- A fault at a directory counts only if the directory is not there. -/
theorem checked_eq_ok_iff {fault : FileFault} {above : FileTree} :
    (above, if above.isDir path then Except.ok () else .error fault) = (made, .ok ()) ↔
      (if above.isDir path then some above else none) = some made := by
  by_cases hdirectory : above.isDir path <;> simp [hdirectory]

/-- Where the way before the last step leads to a directory, one directory is made. -/
theorem makeDirsUpTo_of_trace {location : Location} (hsegments : path.segments = front ++ [last])
    (hspelling : spellingFault? path = none) (hstep : Component.ofSegment? last = some step)
    (hne : path.components ≠ [])
    (htrace : tree.trace (tree.start path) (front.filterMap Component.ofSegment?) =
      .ok location) :
    makeDirsUpTo (count + 1) tree path = (made, .ok ()) ↔
      tree.pave (tree.start path) (front.filterMap Component.ofSegment? ++ [step]) =
        some made := by
  rw [makeDirsUpTo, if_neg hne, pave_append, pave_of_trace htrace, ← (trace_eq_ok htrace).1,
    Option.bind_some]
  rcases makeDir_cases hsegments hspelling hstep htrace with ⟨other, hmake, hpave⟩ |
    ⟨fault, hmake, hfault, hpave⟩
  · simp [hmake, hpave]
  · rw [hmake, hpave]
    cases fault with
    | notFound => exact absurd rfl hfault
    | _ => exact checked_eq_ok_iff

/-- Where it ends at something missing, the directories above are made first. -/
theorem makeDirsUpTo_of_missing {parent : Path} (hsegments : path.segments = front ++ [last])
    (hspelling : spellingFault? path = none) (hstep : Component.ofSegment? last = some step)
    (hne : path.components ≠ [])
    (htrace : tree.trace (tree.start path) (front.filterMap Component.ofSegment?) =
      .error .notFound)
    (hparent : path.parent? = some parent)
    (hparents : ∀ above, makeDirsUpTo count tree parent = (above, .ok ()) ↔
      tree.pave (tree.start path) (front.filterMap Component.ofSegment?) = some above) :
    makeDirsUpTo (count + 1) tree path = (made, .ok ()) ↔
      tree.pave (tree.start path) (front.filterMap Component.ofSegment? ++ [step]) =
        some made := by
  have hmake : tree.makeDir path = .error .notFound := by
    rw [makeDir, site_eq hsegments hspelling, htrace]
    rfl
  rw [makeDirsUpTo, if_neg hne, hmake, hparent, pave_append]
  dsimp only
  rcases hpave : tree.pave (tree.start path) (front.filterMap Component.ofSegment?) with
    _ | above
  · rcases hmade : makeDirsUpTo count tree parent with ⟨above, fault | _⟩
    · simp
    · rw [hparents, hpave] at hmade
      cases hmade
  · have htraced := trace_of_pave hpave
    have hstart : above.start path = tree.start path := by
      rw [start, start, workDir_pave hpave]
    rw [(hparents above).2 hpave, Option.bind_some]
    rw [← hstart] at htraced ⊢
    rcases makeDir_cases hsegments hspelling hstep htraced with ⟨other, hmake, hpaved⟩ |
      ⟨fault, hmake, -, hpaved⟩
    · simp [hmake, hpaved]
    · dsimp only
      rw [hmake, hpaved]
      exact checked_eq_ok_iff

/-- Where it meets another fault, neither is anything made nor can the way be paved. -/
theorem makeDirsUpTo_of_fault {fault : FileFault} (hsegments : path.segments = front ++ [last])
    (hspelling : spellingFault? path = none) (hne : path.components ≠ [])
    (htrace : tree.trace (tree.start path) (front.filterMap Component.ofSegment?) =
      .error fault) (hfault : fault ≠ .notFound) :
    makeDirsUpTo (count + 1) tree path = (made, .ok ()) ↔
      tree.pave (tree.start path) (front.filterMap Component.ofSegment? ++ [step]) =
        some made := by
  have hmake : tree.makeDir path = .error fault := by
    rw [makeDir, site_eq hsegments hspelling, htrace]
    rfl
  have hnot : tree.isDir path = false := by
    rw [Bool.eq_false_iff, ne_eq, isDir_iff_trace hspelling, hsegments, List.filterMap_append,
      trace_append, htrace]
    rintro ⟨next, hnext⟩
    cases hnext
  rw [makeDirsUpTo, if_neg hne, hmake, pave_append, pave_of_trace_error htrace hfault]
  cases fault <;> simp_all

/-- A path without steps leads to where it begins. -/
theorem makeDirsUpTo_of_no_step (hsegments : path.segments = front ++ [last])
    (hspelling : spellingFault? path = none) (hne : path.components ≠ [])
    (hnone : path.segments.filterMap Component.ofSegment? = []) :
    makeDirsUpTo (count + 1) tree path = (made, .ok ()) ↔
      tree.pave (tree.start path) [] = some made := by
  have hparts := hnone
  rw [hsegments, List.filterMap_append, List.append_eq_nil_iff] at hparts
  have hname : last ∈ ["", ".", ".."] := by
    by_contra hname
    rw [List.filterMap_cons_some (ofSegment?_of_not_mem hname)] at hparts
    exact absurd hparts.2 (by simp)
  have hisDir : tree.isDir path = true ↔ _ := isDir_iff_trace hspelling
  have hsite : tree.site path = _ := site_eq hsegments hspelling
  rw [hnone, trace] at hisDir
  rw [hparts.1, trace] at hsite
  rw [makeDirsUpTo, if_neg hne, pave, makeDir, hsite]
  by_cases hdirectory : tree.look (tree.start path) = some .directory
  · simp [hdirectory, Except.map, hname, hisDir]
  · simp [hdirectory, Except.map, hisDir]

end LastStep

/-- Making directories succeeds exactly if their way can be paved. -/
theorem makeDirsUpTo_eq_ok_iff {count : Nat} {path : Path} (htrimmed : path.IsTrimmed)
    (hspelling : spellingFault? path = none) (hne : path.components ≠ [])
    (hcount : path.components.length < count) :
    makeDirsUpTo count tree path = (made, .ok ()) ↔
      tree.pave (tree.start path) path.components = some made := by
  induction count generalizing path made with
  | zero => omega
  | succ count ih =>
    obtain ⟨front, last, hsegments, ⟨step, hstep⟩ | hnone⟩ := htrimmed
    · obtain ⟨head, hcomponents, hhead⟩ := exists_head_concat hsegments hstep
      rw [hcomponents, List.append_assoc, (hhead tree _).2]
      rcases htrace : tree.trace (tree.start path) (front.filterMap Component.ofSegment?) with
        fault | location
      · by_cases hmissing : fault = .notFound
        · subst hmissing
          obtain ⟨parent, hparent, hparentSteps⟩ := Path.exists_parent? hcomponents fun hroot =>
            Component.ofSegment?_ne_root last (hroot ▸ hstep)
          have hparentNe : parent.components ≠ [] := by
            intro hnil
            rw [hparentSteps, List.append_eq_nil_iff] at hnil
            rw [hnil.2, trace] at htrace
            split_ifs at htrace
            cases htrace
          have hlength : parent.components.length < count := by
            rw [hcomponents, ← hparentSteps, List.length_append, List.length_singleton] at hcount
            omega
          refine makeDirsUpTo_of_missing hsegments hspelling hstep hne htrace hparent
            fun above => ?_
          rw [ih (Path.parent?_spelling hparent).1
            (Path.spellingFault?_of_parent? hparent hspelling hparentNe) hparentNe hlength,
            start_of_parent? tree hparent hparentNe, hparentSteps, (hhead tree _).2]
        · exact makeDirsUpTo_of_fault hsegments hspelling hne htrace hmissing
      · exact makeDirsUpTo_of_trace hsegments hspelling hstep hne htrace
    · obtain ⟨head, hcomponents, hhead⟩ := exists_head path
      rw [hcomponents, (hhead tree _).2, hnone]
      exact makeDirsUpTo_of_no_step hsegments hspelling hne hnone

theorem makeDirs_eq_ok_iff {path : Path} (htrimmed : path.IsTrimmed)
    (hspelling : spellingFault? path = none) (hne : path.components ≠ []) :
    tree.makeDirs path = (made, .ok ()) ↔
      tree.pave (tree.start path) path.components = some made :=
  makeDirsUpTo_eq_ok_iff htrimmed hspelling hne (Nat.lt_succ_self _)

/-! ### What is paved in other trees -/

theorem OnWay.cons {location other : Location} {step : Component} {rest : List Component}
    (h : OnWay (step.apply location) rest other) : OnWay location (step :: rest) other := by
  obtain ⟨front, hfront, hne, rfl⟩ := h
  exact ⟨step :: front, List.cons_prefix_cons.2 ⟨rfl, hfront⟩, by simp, rfl⟩

theorem OnWay.single {location : Location} {step : Component} (rest : List Component) :
    OnWay location (step :: rest) (step.apply location) :=
  ⟨[step], List.cons_prefix_cons.2 ⟨rfl, List.nil_prefix⟩, by simp, rfl⟩

/-- All on a way that is paved are directories. -/
theorem look_pave_of_onWay {location other : Location} {steps : List Component}
    (h : tree.pave location steps = some made) (hway : OnWay location steps other) :
    made.look other = some .directory := by
  obtain ⟨front, ⟨rest, rfl⟩, -, rfl⟩ := hway
  have htrace := trace_of_pave h
  rw [trace_append] at htrace
  obtain ⟨next, hnext, -⟩ := bind_eq_ok_iff.1 htrace
  obtain ⟨rfl, hdirectory⟩ := trace_eq_ok hnext
  exact hdirectory

/-- Elsewhere nothing changes. -/
theorem look_pave_of_not_onWay {location other : Location} {steps : List Component}
    (h : tree.pave location steps = some made) (hway : ¬ OnWay location steps other) :
    made.look other = tree.look other := by
  induction steps generalizing tree location with
  | nil =>
    rw [pave] at h
    split_ifs at h
    rw [Option.some.inj h]
  | cons step rest ih =>
    obtain ⟨-, -, hrest⟩ := pave_cons_eq_some_iff.1 h
    rw [ih hrest fun hbelow => hway hbelow.cons]
    cases step with
    | named name =>
      rw [provideStep, look_provide, if_neg]
      rintro ⟨rfl, -⟩
      exact hway (.single rest)
    | _ => rfl

/-- A way can be paved again in a tree with more directories if no file stands on it. -/
theorem exists_pave_of_directories {other : FileTree} {location : Location} {steps : List Component}
    (h : tree.pave location steps = some made)
    (hdirectories : ∀ place, tree.look place = some .directory → other.look place = some .directory)
    (hfiles : ∀ place, OnWay location steps place → ∀ text, other.look place ≠ some (.file text)) :
    ∃ paved, other.pave location steps = some paved := by
  induction steps generalizing tree other location with
  | nil =>
    rw [pave] at h
    split_ifs at h with hdirectory
    exact ⟨other, if_pos (hdirectories location hdirectory)⟩
  | cons step rest ih =>
    obtain ⟨hdirectory, hfits, hrest⟩ := pave_cons_eq_some_iff.1 h
    have hstep : ∀ place, (tree.provideStep location step).look place = some .directory →
        (other.provideStep location step).look place = some .directory := by
      intro place hplace
      cases step with
      | named name =>
        rw [provideStep, look_provide_directory_iff] at hplace ⊢
        rcases hplace with ⟨rfl, -⟩ | hplace
        · rcases hother : other.look (location ++ [name]) with _ | text | _
          · exact Or.inl ⟨rfl, rfl⟩
          · exact absurd hother (hfiles _ (.single rest) text)
          · exact Or.inr rfl
        · exact Or.inr (hdirectories place hplace)
      | _ => exact hdirectories place hplace
    obtain ⟨paved, hpaved⟩ := ih hrest hstep fun place hplace text hfile =>
      hfiles place hplace.cons text (look_provideStep_file_iff.1 hfile)
    exact ⟨paved, pave_cons_eq_some_iff.2 ⟨hdirectories location hdirectory, hfits, hpaved⟩⟩

/-- Names can be paved down from a directory if no file stands on their way. -/
theorem exists_pave_named {location : Location} {names : List String}
    (hdirectory : tree.look location = some .directory)
    (hfits : ∀ name ∈ names, (Component.named name).fits = true)
    (hfiles : ∀ front, front <+: names →
      ∀ text, tree.look (location ++ front) ≠ some (.file text)) :
    ∃ made, tree.pave location (names.map .named) = some made := by
  induction names generalizing tree location with
  | nil => exact ⟨tree, if_pos hdirectory⟩
  | cons name rest ih =>
    obtain ⟨hname, hrest⟩ := List.forall_mem_cons.1 hfits
    have hnext : (tree.provideStep location (.named name)).look (location ++ [name]) =
        some .directory := by
      rw [provideStep, look_provide_directory_iff]
      rcases hlook : tree.look (location ++ [name]) with _ | text | _
      · exact Or.inl ⟨rfl, rfl⟩
      · exact absurd hlook (hfiles [name] (List.cons_prefix_cons.2 ⟨rfl, List.nil_prefix⟩) text)
      · exact Or.inr rfl
    obtain ⟨made, hmade⟩ := ih hnext hrest fun front hfront text hfile => by
      rw [look_provideStep_file_iff, List.append_assoc] at hfile
      exact hfiles (name :: front) (List.cons_prefix_cons.2 ⟨rfl, hfront⟩) text hfile
    exact ⟨made, pave_cons_eq_some_iff.2 ⟨hdirectory, hname, hmade⟩⟩

/-! ### Accepting a file -/

/-- What has to hold for a file to be written with the directories that it stands in. -/
structure Accepts (tree : FileTree) (path : Path) : Prop where
  spelling : spellingFault? path = none
  fits : ∀ step ∈ path.components, step.fits = true
  way : ∃ made, tree.pave (tree.start path) path.components.dropLast = some made ∧
    made.look (path.location tree.workDir) ≠ some .directory

theorem fits_of_pave {location : Location} {steps : List Component}
    (h : tree.pave location steps = some made) {step : Component} (hstep : step ∈ steps) :
    step.fits = true := by
  induction steps generalizing tree location with
  | nil => cases hstep
  | cons first rest ih =>
    obtain ⟨-, hfits, hrest⟩ := pave_cons_eq_some_iff.1 h
    rcases List.mem_cons.1 hstep with rfl | hstep
    · exact hfits
    · exact ih hrest hstep

end FileTree

end Forwarding
