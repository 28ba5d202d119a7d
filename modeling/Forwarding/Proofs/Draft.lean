import Forwarding.Proofs.Generation

/-!
# Which steps on a draft can change places

Each step writes some parts of a draft: it appends to a list, or sets a slot.  Two steps can change
places unless they write the same part, or one of them adds to the pending constructor and the other
builds it.

* `Draft.Edit.writes`, `Draft.Edit.Clash`: the parts that a step writes, and when two steps clash;
* `Draft.Addition`, `Draft.edit_eq_add`: what a step adds, and that it does nothing else;
* `Draft.edit_comm`: steps that do not clash can change places;
* `Draft.editAll_swap`: the same inside any sequence of steps, and the parts of an interface
  forwarded one after the other.
-/

namespace Forwarding.Draft

/-! ### The parts of a draft -/

/-- A part of a draft: of the class, the slots for the comment and the constructor and the lists of
fields and methods, and of the pending constructor the lists of parameters and statements. -/
inductive Part where
  | doc
  | constructor
  | fields
  | methods
  | parameters
  | statements
  deriving DecidableEq, Repr

namespace Edit

/-- The parts that a step sets or appends to.  An interface without methods appends nothing. -/
def writes : Edit → List Part
  | .doc _ => [.doc]
  | .field _ => [.fields]
  | .method _ => [.methods]
  | .parameter _ => [.parameters]
  | .statement _ => [.statements]
  | .construct _ => [.constructor]
  | .delegate _ => [.parameters, .statements, .fields]
  | .forwarding interface _ => if interface.signatures = [] then [] else [.methods]

/-- Whether a step builds the pending constructor. -/
def builds : Edit → Bool
  | .construct _ => true
  | _ => false

/-- Whether a step adds to the pending constructor. -/
def fills (edit : Edit) : Bool :=
  edit.writes.contains .parameters || edit.writes.contains .statements

/-- Two steps write one part, or one adds to the pending constructor and the other builds it. -/
def Clash (first second : Edit) : Prop :=
  (∃ part ∈ first.writes, part ∈ second.writes) ∨ first.builds ∧ second.fills ∨
    first.fills ∧ second.builds

instance (first second : Edit) : Decidable (first.Clash second) :=
  inferInstanceAs (Decidable (_ ∨ _))

end Edit

/-! ### What a step adds -/

/-- A comment that takes the place of the one there is, and what is appended to the lists. -/
structure Addition where
  doc : Option String := none
  fields : List Field := []
  methods : List Method := []
  parameters : List Parameter := []
  statements : List Statement := []

/-- The draft with something added. -/
def add (draft : Draft) (addition : Addition) : Draft where
  built := { draft.built with
    doc := addition.doc.or draft.built.doc
    fields := draft.built.fields ++ addition.fields
    methods := draft.built.methods ++ addition.methods }
  pending := { draft.pending with
    parameters := draft.pending.parameters ++ addition.parameters
    body := draft.pending.body ++ addition.statements }

/-- What a step adds.  Building the constructor is the one step that does something else. -/
def Edit.addition? : Edit → Option Addition
  | .doc text => some { doc := some text }
  | .field added => some { fields := [added] }
  | .method added => some { methods := [added] }
  | .parameter added => some { parameters := [added] }
  | .statement added => some { statements := [added] }
  | .construct _ => none
  | .delegate added => some
      { fields := [⟨added.fieldName, added.name, .isPrivate⟩]
        parameters := [⟨added.fieldName, added.name.typeRef⟩]
        statements := [.assign added.fieldName added.fieldName] }
  | .forwarding interface target => some { methods := interface.signatures.map (·.forward target) }

/-- An addition is to some of the parts only. -/
structure Addition.Within (addition : Addition) (parts : List Part) : Prop where
  doc : .doc ∉ parts → addition.doc = none
  fields : .fields ∉ parts → addition.fields = []
  methods : .methods ∉ parts → addition.methods = []
  parameters : .parameters ∉ parts → addition.parameters = []
  statements : .statements ∉ parts → addition.statements = []

/-- Two additions are to different parts. -/
structure Addition.Apart (first second : Addition) : Prop where
  doc : first.doc = none ∨ second.doc = none
  fields : first.fields = [] ∨ second.fields = []
  methods : first.methods = [] ∨ second.methods = []
  parameters : first.parameters = [] ∨ second.parameters = []
  statements : first.statements = [] ∨ second.statements = []

section

variable {edit first second : Edit} {addition other : Addition}

/-- A step that does not build the constructor adds what it adds and leaves all else. -/
theorem edit_eq_add (draft : Draft) (h : edit.addition? = some addition) :
    draft.edit edit = draft.add addition := by
  cases edit with
  | construct modifier => cases h
  | _ =>
    obtain rfl := Option.some.inj h
    simp [Draft.edit, setDoc, addField, addMethod, addParameter, addStatement, addDelegate,
      addForwarding_eq, add]

/-- A step adds to the parts that it writes only. -/
theorem Edit.within_writes (h : edit.addition? = some addition) : addition.Within edit.writes := by
  cases edit with
  | construct modifier => cases h
  | forwarding interface field =>
    obtain rfl := Option.some.inj h
    refine ⟨fun _ => rfl, fun _ => rfl, fun hmethods => ?_, fun _ => rfl, fun _ => rfl⟩
    by_contra hne
    exact hmethods (by simpa [writes] using hne)
  | _ =>
    obtain rfl := Option.some.inj h
    constructor <;> simp [writes]

/-! ### Exchanging two steps -/

theorem append_append_comm {α : Type} {xs ys : List α} (h : xs = [] ∨ ys = []) (start : List α) :
    start ++ xs ++ ys = start ++ ys ++ xs := by
  rcases h with rfl | rfl <;> simp

theorem add_comm (draft : Draft) (h : addition.Apart other) :
    (draft.add addition).add other = (draft.add other).add addition := by
  have hdoc : other.doc.or (addition.doc.or draft.built.doc) =
      addition.doc.or (other.doc.or draft.built.doc) := by
    rcases h.doc with hnone | hnone <;> simp [hnone]
  simp only [add, append_append_comm h.fields, append_append_comm h.methods,
    append_append_comm h.parameters, append_append_comm h.statements, hdoc]

/-- What does not add to the pending constructor can be added before it is built or afterwards. -/
theorem construct_add (draft : Draft) (modifier : Option Modifier)
    (hparameters : addition.parameters = []) (hstatements : addition.statements = []) :
    (draft.add addition).construct modifier = (draft.construct modifier).add addition := by
  simp [add, construct, hparameters, hstatements]

/-- Steps that write no part in common add to different parts. -/
theorem Edit.apart (h : ¬ ∃ part ∈ first.writes, part ∈ second.writes)
    (hfirst : first.addition? = some addition) (hsecond : second.addition? = some other) :
    addition.Apart other := by
  have hpart (part : Part) : part ∉ first.writes ∨ part ∉ second.writes := by
    by_contra hboth
    rw [not_or, not_not, not_not] at hboth
    exact h ⟨part, hboth⟩
  have hone := within_writes hfirst
  have htwo := within_writes hsecond
  exact
    { doc := (hpart .doc).imp hone.doc htwo.doc
      fields := (hpart .fields).imp hone.fields htwo.fields
      methods := (hpart .methods).imp hone.methods htwo.methods
      parameters := (hpart .parameters).imp hone.parameters htwo.parameters
      statements := (hpart .statements).imp hone.statements htwo.statements }

/-- A step that does not add to the pending constructor can change places with its being built. -/
theorem edit_construct_comm (draft : Draft) (modifier : Option Modifier)
    (h : edit.addition? = some addition) (hfills : edit.fills = false) :
    (draft.edit edit).construct modifier = (draft.construct modifier).edit edit := by
  obtain ⟨hparameters, hstatements⟩ : .parameters ∉ edit.writes ∧ .statements ∉ edit.writes := by
    simpa [Edit.fills] using hfills
  have hwithin := Edit.within_writes h
  rw [edit_eq_add draft h, edit_eq_add (draft.construct modifier) h,
    construct_add draft modifier (hwithin.parameters hparameters) (hwithin.statements hstatements)]

theorem Edit.addition?_eq_none_iff :
    edit.addition? = none ↔ ∃ modifier, edit = .construct modifier := by
  cases edit <;> simp [addition?]

/-- Two steps that do not clash can change places. -/
theorem edit_comm (draft : Draft) (h : ¬ first.Clash second) :
    (draft.edit first).edit second = (draft.edit second).edit first := by
  obtain ⟨hshared, hclash⟩ := not_or.1 h
  obtain ⟨hfirst, hsecond⟩ := not_or.1 hclash
  cases hone : first.addition? with
  | none =>
    obtain ⟨modifier, rfl⟩ := Edit.addition?_eq_none_iff.1 hone
    cases htwo : second.addition? with
    | none =>
      obtain ⟨other, rfl⟩ := Edit.addition?_eq_none_iff.1 htwo
      exact absurd ⟨.constructor, List.mem_singleton_self _, List.mem_singleton_self _⟩ hshared
    | some other =>
      have hfills : second.fills = false := by simpa [Edit.builds] using hfirst
      exact (edit_construct_comm draft modifier htwo hfills).symm
  | some addition =>
    cases htwo : second.addition? with
    | none =>
      obtain ⟨modifier, rfl⟩ := Edit.addition?_eq_none_iff.1 htwo
      have hfills : first.fills = false := by simpa [Edit.builds] using hsecond
      exact edit_construct_comm draft modifier hone hfills
    | some other =>
      rw [edit_eq_add draft hone, edit_eq_add draft htwo, edit_eq_add _ htwo, edit_eq_add _ hone]
      exact add_comm draft (Edit.apart hshared hone htwo)

end

/-! ### Sequences of steps -/

/-- The draft after a sequence of steps. -/
def editAll (draft : Draft) (edits : List Edit) : Draft := edits.foldl edit draft

theorem editAll_append (draft : Draft) (first second : List Edit) :
    draft.editAll (first ++ second) = (draft.editAll first).editAll second := List.foldl_append

theorem not_clash_delegate_forwarding (delegate : Delegate) (interface : Interface)
    (field : String) : ¬ (Edit.delegate delegate).Clash (.forwarding interface field) := by
  by_cases hnone : interface.signatures = [] <;>
    simp [Edit.Clash, Edit.writes, Edit.builds, Edit.fills, hnone]

/-- The members of an interface can be forwarded in two parts. -/
theorem addForwarding_append (draft : Draft) (qualifiedName simpleName field : String)
    (xs ys : List Member) :
    draft.addForwarding ⟨qualifiedName, simpleName, xs ++ ys⟩ field =
      (draft.addForwarding ⟨qualifiedName, simpleName, xs⟩ field).addForwarding
        ⟨qualifiedName, simpleName, ys⟩ field := by
  simp [addForwarding_eq, Interface.signatures]

/-- **Steps that do not clash can change places in any sequence of steps.**  So the delegate can be
added before the forwarding methods or after them.  An interface can be forwarded in parts, and its
methods come after those there are; nothing else changes. -/
theorem editAll_swap (draft : Draft) :
    (∀ (before after : List Edit) (first second : Edit), ¬ first.Clash second →
      draft.editAll (before ++ first :: second :: after) =
        draft.editAll (before ++ second :: first :: after)) ∧
      (∀ (delegate : Delegate) (interface : Interface) (field : String),
        (draft.addDelegate delegate).addForwarding interface field =
          (draft.addForwarding interface field).addDelegate delegate) ∧
      (∀ (qualifiedName simpleName field : String) (xs ys : List Member),
        draft.addForwarding ⟨qualifiedName, simpleName, xs ++ ys⟩ field =
          (draft.addForwarding ⟨qualifiedName, simpleName, xs⟩ field).addForwarding
            ⟨qualifiedName, simpleName, ys⟩ field) ∧
      ∀ (interface : Interface) (field : String), ∃ added,
        draft.addForwarding interface field =
          { draft with built := { draft.built with methods := draft.built.methods ++ added } } := by
  refine ⟨fun before after first second hclash => ?_, fun delegate interface field => ?_,
    draft.addForwarding_append, fun interface field => ⟨_, draft.addForwarding_eq interface field⟩⟩
  · have hswap := (draft.editAll before).edit_comm hclash
    rw [editAll_append, editAll_append]
    exact congrArg (editAll · after) hswap
  · exact draft.edit_comm (not_clash_delegate_forwarding delegate interface field)

/-- The constructor of a class is built between the comment and two methods, the second of which
comes from an interface. -/
theorem editAll_swap_greeter :
    let draft := start { name := ⟨"com", "GreeterImpl"⟩, interface := ⟨"com", "Greeter"⟩ }
    let delegate : Edit := .delegate ⟨"com", "Greeter", "greeter"⟩
    let greet : Edit := .method { name := "greet" }
    let others : Edit := .forwarding ⟨"com.Greeter", "Greeter", [.method ⟨"reset", .void, []⟩]⟩ "greeter"
    ¬ (Edit.construct none).Clash greet ∧ greet.Clash others ∧ (Edit.construct none).Clash delegate ∧
      draft.editAll [.doc "Greets.", delegate, .construct none, greet, others] =
        draft.editAll [.doc "Greets.", delegate, greet, .construct none, others] ∧
      draft.editAll [delegate, .construct none] ≠ draft.editAll [.construct none, delegate] ∧
      draft.editAll [greet, others] ≠ draft.editAll [others, greet] := by
  intro draft delegate greet others
  have hclash : ¬ (Edit.construct none).Clash greet := by decide
  obtain ⟨hswap, -⟩ := editAll_swap draft
  exact ⟨hclash, by decide, by decide, hswap [.doc "Greets.", delegate] [others] _ _ hclash,
    by decide, by decide⟩

end Forwarding.Draft
