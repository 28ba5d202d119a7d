import Forwarding.Proofs.Crate.TraitImpl
import Forwarding.Proofs.Run.Steps

/-!
# The events of a run

What a run does that can show in its log: it makes records, and it renders Rust texts that are to be
formatted.  The events of a run do not say how the formatting goes.

* `Event`, `Event.records`: an event, and its records if texts that stay unformatted leave some;
* `reached`: the steps that a run comes to;
* `Options.renderedTexts`: the Rust texts that a run renders;
* `Options.events`: the events of a run, in order;
* `Options.isCalm_events`: no event is the record of a warning;
* `Options.texts_events`: the texts of the events are those that the run renders.
-/

namespace Forwarding

/-- What a run does that can show in its log. -/
inductive Event where
  /-- A record is made. -/
  | noted (record : Record)
  /-- A Rust text is rendered, which is to be formatted. -/
  | rendered (text : String)

namespace Event

/-- The records of an event, where a text that is rendered leaves `left`. -/
def records (left : List Record) : Event → List Record
  | .noted record => [record]
  | .rendered _ => left

/-- The text that is rendered. -/
def text? : Event → Option String
  | .noted _ => none
  | .rendered text => some text

@[simp] theorem records_noted (left : List Record) (record : Record) :
    records left (.noted record) = [record] := rfl

@[simp] theorem records_rendered (left : List Record) (text : String) :
    records left (.rendered text) = left := rfl

@[simp] theorem text?_noted (record : Record) : text? (.noted record) = none := rfl

@[simp] theorem text?_rendered (text : String) : text? (.rendered text) = some text := rfl

/-- The event is no record of a warning. -/
def IsCalm : Event → Prop
  | .noted record => record.level ≠ .warn
  | .rendered _ => True

@[simp] theorem flatMap_records_noted (left records : List Record) :
    (records.map noted).flatMap (Event.records left) = records := by
  induction records with
  | nil => rfl
  | cons record rest ih => simp [ih]

@[simp] theorem filterMap_text?_noted (records : List Record) :
    (records.map noted).filterMap text? = [] := by
  simp

theorem isCalm_noted {records : List Record} (h : ∀ record ∈ records, record.level ≠ .warn) :
    ∀ event ∈ records.map noted, event.IsCalm :=
  List.forall_mem_map.2 h

section Warnings

variable {warning : Record} {events : List Event} (hevents : ∀ event ∈ events, event.IsCalm)

include hevents

/-- Without the warnings that texts leave, the records are those where texts leave none. -/
theorem filter_records (h : warning.level = .warn) :
    (events.flatMap (records [warning])).filter (·.level ≠ .warn) =
      events.flatMap (records []) := by
  induction events with
  | nil => rfl
  | cons event rest ih =>
    obtain ⟨hevent, hrest⟩ := List.forall_mem_cons.1 hevents
    rw [List.flatMap_cons, List.flatMap_cons, List.filter_append, ih hrest]
    cases event with
    | noted record =>
      have hcalm : record.level ≠ .warn := hevent
      simp [hcalm]
    | rendered text => simp [h]

/-- There is one warning for each text. -/
theorem filter_records_warn (h : warning.level = .warn) :
    (events.flatMap (records [warning])).filter (·.level = .warn) =
      (events.filterMap text?).map fun _ => warning := by
  induction events with
  | nil => rfl
  | cons event rest ih =>
    obtain ⟨hevent, hrest⟩ := List.forall_mem_cons.1 hevents
    rw [List.flatMap_cons, List.filter_append, ih hrest]
    cases event with
    | noted record =>
      have hcalm : record.level ≠ .warn := hevent
      rw [List.filterMap_cons_none (text?_noted record)]
      simp [hcalm]
    | rendered text =>
      rw [List.filterMap_cons_some (text?_rendered text)]
      simp [h]

end Warnings

end Event

/-! ### Steps -/

/-- The steps that a run comes to, each with the progress before it, up to the one that ends the
run. -/
def reached {α : Type} (step : Progress → α → Progress × Option Failure) (progress : Progress) :
    List α → List (Progress × α)
  | [] => []
  | first :: rest =>
      (progress, first) ::
        match step progress first with
        | (_, some _) => []
        | (next, none) => reached step next rest

/-- The events of a part of a run and of what follows it, unless the part ends the run. -/
def followed (part : Progress → Progress × Option Failure) (events next : Progress → List Event)
    (progress : Progress) : List Event :=
  events progress ++
    match part progress with
    | (_, some _) => []
    | (progress, none) => next progress

section Followed

variable {part : Progress → Progress × Option Failure} {events next : Progress → List Event}

theorem followed_nil (part : Progress → Progress × Option Failure)
    (events : Progress → List Event) : followed part events (fun _ => []) = events := by
  funext progress
  unfold followed
  split <;> exact List.append_nil _

theorem forall_mem_followed {P : Event → Prop} (h : ∀ progress, ∀ event ∈ events progress, P event)
    (hnext : ∀ progress, ∀ event ∈ next progress, P event) (progress : Progress) :
    ∀ event ∈ followed part events next progress, P event := by
  unfold followed
  refine List.forall_mem_append.2 ⟨h progress, ?_⟩
  split
  · exact List.forall_mem_nil _
  · exact hnext _

/-- If what follows renders no text, the texts are those of the part. -/
theorem texts_followed (h : ∀ progress, (next progress).filterMap Event.text? = [])
    (progress : Progress) :
    (followed part events next progress).filterMap Event.text? =
      (events progress).filterMap Event.text? := by
  unfold followed
  split <;> simp [h]

/-- The events of all steps begin with those of the first. -/
theorem flatMap_reached_cons {α : Type} (step : Progress → α → Progress × Option Failure)
    (events : α → Progress → List Event) (first : α) (rest : List α) :
    (fun progress => (reached step progress (first :: rest)).flatMap fun entry =>
        events entry.2 entry.1) =
      followed (step · first) (events first) fun progress =>
        (reached step progress rest).flatMap fun entry => events entry.2 entry.1 := by
  funext progress
  rw [reached, followed, List.flatMap_cons]
  rcases step progress first with ⟨next, _ | failure⟩ <;> rfl

end Followed

/-! ### Texts and events -/

/-- The text of a module root, if it can be made of what the directory holds. -/
def FileTree.moduleText? (tree : FileTree) (directory : Path) : Option String :=
  match tree.entries directory with
  | .error _ => none
  | .ok entries => (moduleSource entries).toOption

namespace Options

/-- The Rust text of the class of a target, if it comes to rendering and can be rendered. -/
def rustText? (options : Options) (target : Target) : Option String :=
  match target.forwarder options.suffix with
  | .error _ => none
  | .ok unit =>
      match options.backend.classPath options.outputDir unit.name, options.backend with
      | .ok _, .rust => unit.rustSource.2.toOption
      | _, _ => none

/-- The Rust texts that a run renders before it ends: of the classes of the targets that it comes
to, and of the module roots that it comes to after all classes. -/
def renderedTexts (options : Options) (tree : FileTree) : List String :=
  match options.readInput tree with
  | .error _ => []
  | .ok descriptor =>
      let start : Progress := { tree, log := [.debug "Reading input"] }
      ((reached options.runTarget start descriptor.interfaces).filterMap fun entry =>
          options.rustText? entry.2) ++
        match options.runTargets start descriptor.interfaces with
        | (_, some _) => []
        | (classes, none) =>
            (reached options.runModule classes (options.rootDirectories classes)).filterMap
              fun entry => entry.1.tree.moduleText? entry.2

/-- The events of the rendering of a class. -/
def renderEvents (options : Options) (unit : Forwarder) : List Event :=
  match options.backend with
  | .java => []
  | .rust => unit.rustSource.1.map .noted ++ unit.rustSource.2.toOption.toList.map .rendered

/-- The events of a class: it is rendered and written, and then a record is made of that. -/
def classEvents (options : Options) (unit : Forwarder) (progress : Progress) : List Event :=
  match options.backend.classPath options.outputDir unit.name with
  | .error _ => []
  | .ok path =>
      match options.render unit with
      | (_, .error _) => options.renderEvents unit
      | (log, .ok text) =>
          followed (fun progress => (progress.note log, none))
            (fun _ => options.renderEvents unit)
            (followed (·.writeFile path text) (fun _ => [])
              fun _ => [.noted ⟨.info, "Generated " ++ unit.name.qualified ++ " at " ++
                path.quoted⟩]) progress

/-- The events of a target. -/
def targetEvents (options : Options) (target : Target) (progress : Progress) : List Event :=
  match target.forwarder options.suffix with
  | .error fault =>
      if options.keepGoing then
        [.noted ⟨.error, "Skipping " ++ target.interface.qualifiedName ++ ": " ++ fault.message⟩]
      else []
  | .ok unit =>
      followed (fun progress => (progress.note (target.generationLog options.suffix), none))
        (fun _ => (target.generationLog options.suffix).map .noted) (options.classEvents unit)
        progress

/-- The events of all targets. -/
def targetsEvents (options : Options) (targets : List Target) (progress : Progress) : List Event :=
  (reached options.runTarget progress targets).flatMap fun entry =>
    options.targetEvents entry.2 entry.1

theorem targetsEvents_cons (options : Options) (target : Target) (rest : List Target) :
    options.targetsEvents (target :: rest) =
      followed (options.runTarget · target) (options.targetEvents target)
        (options.targetsEvents rest) :=
  flatMap_reached_cons options.runTarget options.targetEvents target rest

/-- The events of a module root. -/
def rootEvents (options : Options) (directory : Path) (progress : Progress) : List Event :=
  match progress.tree.moduleText? directory with
  | none => []
  | some text =>
      [.noted (.debug ("Generating mod file " ++ (options.moduleRoot directory).quoted)),
        .rendered text]

/-- The events of all module roots. -/
def rootsEvents (options : Options) (directories : List Path) (progress : Progress) : List Event :=
  (reached options.runModule progress directories).flatMap fun entry =>
    options.rootEvents entry.2 entry.1

theorem rootsEvents_cons (options : Options) (directory : Path) (rest : List Path) :
    options.rootsEvents (directory :: rest) =
      followed (options.runModule · directory) (options.rootEvents directory)
        (options.rootsEvents rest) :=
  flatMap_reached_cons options.runModule options.rootEvents directory rest

/-- The events of the classes and of the module roots. -/
def allEvents (options : Options) (targets : List Target) : Progress → List Event :=
  followed (options.runTargets · targets) (options.targetsEvents targets) fun classes =>
    options.rootsEvents (options.rootDirectories classes) classes

/-- The events of a run. -/
def events (options : Options) (tree : FileTree) : List Event :=
  .noted (.debug "Reading input") ::
    match options.readInput tree with
    | .error _ => []
    | .ok descriptor =>
        options.allEvents descriptor.interfaces { tree, log := [.debug "Reading input"] }

/-! ### No warnings -/

theorem ne_warn_of_generationLog {target : Target} {suffix : String} {record : Record}
    (h : record ∈ target.generationLog suffix) : record.level ≠ .warn := by
  unfold Target.generationLog Interface.beginLog at h
  cases hname : target.interface.className with
  | error fault =>
    rw [hname] at h
    cases h
  | ok name =>
    rw [hname] at h
    simp only [List.singleton_append, List.mem_cons, Interface.forwardingLog, List.mem_map] at h
    rcases h with rfl | rfl | ⟨signature, -, rfl⟩ <;> simp [Record.debug, Delegate.log]

theorem ne_warn_of_rustSource {unit : Forwarder} {record : Record}
    (h : record ∈ unit.rustSource.1) : record.level ≠ .warn := by
  unfold Forwarder.rustSource Forwarder.traitImpl at h
  cases hhead : unit.implHead with
  | error fault =>
    rw [hhead] at h
    cases h
  | ok parts =>
    rw [hhead] at h
    obtain ⟨⟨method, name⟩, -, hrecord⟩ := exists_of_mem_makeAll h
    simp only [renameLog] at hrecord
    split_ifs at hrecord
    · cases hrecord
    · obtain rfl := List.mem_singleton.1 hrecord
      simp [Record.debug]

theorem isCalm_renderEvents (options : Options) (unit : Forwarder) :
    ∀ event ∈ options.renderEvents unit, event.IsCalm := by
  unfold renderEvents
  cases options.backend with
  | java => exact List.forall_mem_nil _
  | rust =>
    refine List.forall_mem_append.2 ⟨Event.isCalm_noted fun _ => ne_warn_of_rustSource, ?_⟩
    exact List.forall_mem_map.2 fun _ _ => trivial

theorem isCalm_classEvents (options : Options) (unit : Forwarder) (progress : Progress) :
    ∀ event ∈ options.classEvents unit progress, event.IsCalm := by
  have hrender := options.isCalm_renderEvents unit
  unfold classEvents
  cases options.backend.classPath options.outputDir unit.name with
  | error fault => exact List.forall_mem_nil _
  | ok path =>
    rcases options.render unit with ⟨log, fault | text⟩
    · exact hrender
    · refine forall_mem_followed (fun _ => hrender) (forall_mem_followed
        (fun _ => List.forall_mem_nil _) fun _ => ?_) progress
      exact List.forall_mem_singleton.2 (by simp [Event.IsCalm])

theorem isCalm_targetEvents (options : Options) (target : Target) (progress : Progress) :
    ∀ event ∈ options.targetEvents target progress, event.IsCalm := by
  unfold targetEvents
  cases target.forwarder options.suffix with
  | error fault =>
    dsimp only
    split_ifs
    · exact List.forall_mem_singleton.2 (by simp [Event.IsCalm])
    · exact List.forall_mem_nil _
  | ok unit =>
    exact forall_mem_followed (fun _ => Event.isCalm_noted fun _ => ne_warn_of_generationLog)
      (options.isCalm_classEvents _) progress

theorem isCalm_rootEvents (options : Options) (directory : Path) (progress : Progress) :
    ∀ event ∈ options.rootEvents directory progress, event.IsCalm := by
  unfold rootEvents
  cases progress.tree.moduleText? directory with
  | none => exact List.forall_mem_nil _
  | some text =>
    refine List.forall_mem_cons.2 ⟨by simp [Event.IsCalm, Record.debug], ?_⟩
    exact List.forall_mem_singleton.2 trivial

theorem isCalm_events (options : Options) (tree : FileTree) :
    ∀ event ∈ options.events tree, event.IsCalm := by
  unfold events allEvents
  refine List.forall_mem_cons.2 ⟨by simp [Event.IsCalm, Record.debug], ?_⟩
  cases options.readInput tree with
  | error fault => exact List.forall_mem_nil _
  | ok descriptor =>
    refine forall_mem_followed (fun progress event hevent => ?_) (fun progress event hevent => ?_) _
    · obtain ⟨entry, -, hmem⟩ := List.mem_flatMap.1 hevent
      exact options.isCalm_targetEvents _ _ event hmem
    · obtain ⟨entry, -, hmem⟩ := List.mem_flatMap.1 hevent
      exact options.isCalm_rootEvents _ _ event hmem

/-! ### The texts of the events -/

theorem texts_renderEvents (options : Options) (unit : Forwarder) :
    (options.renderEvents unit).filterMap Event.text? =
      match options.backend with
      | .java => []
      | .rust => unit.rustSource.2.toOption.toList := by
  unfold renderEvents
  cases options.backend with
  | java => rfl
  | rust => cases unit.rustSource.2 <;> simp [Except.toOption]

theorem texts_classEvents (options : Options) (unit : Forwarder) (progress : Progress) :
    (options.classEvents unit progress).filterMap Event.text? =
      match options.backend.classPath options.outputDir unit.name with
      | .error _ => []
      | .ok _ => (options.renderEvents unit).filterMap Event.text? := by
  unfold classEvents
  cases options.backend.classPath options.outputDir unit.name with
  | error fault => rfl
  | ok path =>
    rcases options.render unit with ⟨log, fault | text⟩
    · rfl
    · refine texts_followed (fun progress => ?_) progress
      exact texts_followed (fun _ => rfl) progress

theorem texts_targetEvents (options : Options) (target : Target) (progress : Progress) :
    (options.targetEvents target progress).filterMap Event.text? =
      (options.rustText? target).toList := by
  unfold targetEvents rustText?
  cases target.forwarder options.suffix with
  | error fault =>
    dsimp only
    split_ifs <;> rfl
  | ok unit =>
    have hclass := options.texts_classEvents unit
      (progress.note (target.generationLog options.suffix))
    rw [texts_renderEvents] at hclass
    dsimp only [followed]
    rw [List.filterMap_append, Event.filterMap_text?_noted, List.nil_append, hclass]
    cases options.backend.classPath options.outputDir unit.name with
    | error fault => rfl
    | ok path =>
      cases options.backend <;> rfl

theorem texts_rootEvents (options : Options) (directory : Path) (progress : Progress) :
    (options.rootEvents directory progress).filterMap Event.text? =
      (progress.tree.moduleText? directory).toList := by
  unfold rootEvents
  cases progress.tree.moduleText? directory <;> rfl

theorem texts_targetsEvents (options : Options) (targets : List Target) (progress : Progress) :
    (options.targetsEvents targets progress).filterMap Event.text? =
      (reached options.runTarget progress targets).filterMap fun entry =>
        options.rustText? entry.2 := by
  rw [targetsEvents, List.filterMap_flatMap, List.filterMap_eq_flatMap_toList]
  simp only [texts_targetEvents]

theorem texts_rootsEvents (options : Options) (directories : List Path) (progress : Progress) :
    (options.rootsEvents directories progress).filterMap Event.text? =
      (reached options.runModule progress directories).filterMap fun entry =>
        entry.1.tree.moduleText? entry.2 := by
  rw [rootsEvents, List.filterMap_flatMap, List.filterMap_eq_flatMap_toList]
  simp only [texts_rootEvents]

theorem texts_events (options : Options) (tree : FileTree) :
    (options.events tree).filterMap Event.text? = options.renderedTexts tree := by
  unfold events renderedTexts
  rw [List.filterMap_cons_none (Event.text?_noted _)]
  cases options.readInput tree with
  | error fault => rfl
  | ok descriptor =>
    dsimp only [allEvents, followed]
    rw [List.filterMap_append, texts_targetsEvents]
    rcases options.runTargets { tree, log := [.debug "Reading input"] } descriptor.interfaces with
      ⟨classes, _ | failure⟩
    · dsimp only
      rw [texts_rootsEvents]
    · rfl

end Options

end Forwarding
