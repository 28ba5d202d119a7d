import Forwarding.Descriptor.Reader
import Forwarding.Proofs.Json.Reader

/-!
# Every spelling of a descriptor is read as the descriptor

* `TypeRef.Cells`, `Signature.Cells`, `Interface.Cells`: the entries that an object has to hold
  for a type, a method and an interface;
* `Parameter.SpelledBy`, `Member.SpelledBy`, `Target.SpelledBy`, `Descriptor.SpelledBy`: the values
  that spell a parameter, a member, a target and a whole descriptor;
* `readDescriptor_of_spelledBy`: a text is read as the descriptor whose value it spells, in
  whatever order the keys of its objects stand.

Entries whose value is the default may be left out, and every object may hold entries of other
keys beside those of the record that it spells.
-/

namespace Forwarding

open Json

/-! ### Types and parameters -/

/-- The entries for a type.  That it is no array need not be said. -/
inductive TypeRef.Cells (type : TypeRef) : List (String × Value) → Prop
  | full : Cells type [("type", .string type.className), ("isArray", .bool type.isArray)]
  | short (h : type.isArray = false) : Cells type [("type", .string type.className)]

/-- The values that spell a type. -/
def TypeRef.SpelledBy (type : TypeRef) (value : Value) : Prop :=
  ∃ cells, type.Cells cells ∧ ObjectOf ["type", "isArray"] cells value

/-- The values that spell a parameter, which hold the entries of its type. -/
def Parameter.SpelledBy (parameter : Parameter) (value : Value) : Prop :=
  ∃ cells, parameter.type.Cells cells ∧
    ObjectOf ["name", "type", "isArray"] (("name", .string parameter.name) :: cells) value

theorem TypeRef.Cells.reads {type : TypeRef} {cells : List (String × Value)} (h : type.Cells cells)
    {known : List String} (hknown : ∀ key ∈ TypeKey.shape.keys, TypeKey.shape.text key ∈ known)
    {value : Value} (hvalue : ObjectOf known cells value) : Reads readType value type := by
  intro place hfits
  cases h with
  | full =>
    have hgives : TypeKey.shape.Gives TypeKey.read
        [("type", .string type.className), ("isArray", .bool type.isArray)] _ :=
      .cons rfl (reads_readString _) rfl (.cons rfl (reads_readBool _) rfl .nil)
    exact bind_eq_ok_iff.2 ⟨_, Shape.reads_readRecord hgives hvalue hknown place hfits, rfl⟩
  | short h =>
    have hgives : TypeKey.shape.Gives TypeKey.read [("type", .string type.className)] _ :=
      .cons rfl (reads_readString _) rfl .nil
    refine bind_eq_ok_iff.2 ⟨_, Shape.reads_readRecord hgives hvalue hknown place hfits, ?_⟩
    exact congrArg (fun flag => Except.ok (TypeRef.mk type.className flag)) h.symm

theorem TypeRef.SpelledBy.reads {type : TypeRef} {value : Value} (h : type.SpelledBy value) :
    Reads readType value type := by
  obtain ⟨cells, hcells, hvalue⟩ := h
  exact hcells.reads (by decide) hvalue

theorem TypeRef.Cells.keys {type : TypeRef} {cells : List (String × Value)}
    (h : type.Cells cells) : ∀ cell ∈ cells, cell.1 ∈ ["type", "isArray"] := by
  cases h <;> simp

theorem Parameter.SpelledBy.reads {parameter : Parameter} {value : Value}
    (h : parameter.SpelledBy value) : Reads readParameter value parameter := by
  obtain ⟨cells, hcells, hvalue⟩ := h
  have hforeign : ∀ text ∈ ["type", "isArray"], ParameterKey.shape.key? text = none := by decide
  have hgives : ParameterKey.shape.Gives (α := fun _ => String) (fun _ => readString)
      [("name", .string parameter.name)] _ := .cons rfl (reads_readString _) rfl .nil
  obtain ⟨others, hothers, hown⟩ := Shape.exists_readKeyed hgives hvalue (by decide)
    fun cell hcell => hforeign _ (hcells.keys cell hcell)
  intro place hfits
  obtain ⟨hkeyed, hfits⟩ := hown place hfits
  have htype := hcells.reads (by decide) hothers { place with buffered := true } hfits
  exact bind_eq_ok_iff.2 ⟨_, hkeyed, bind_eq_ok_iff.2 ⟨parameter.name, rfl,
    bind_eq_ok_iff.2 ⟨parameter.type, htype, rfl⟩⟩⟩

/-! ### Members -/

/-- The entries for a method.  That it has no parameters need not be said. -/
inductive Signature.Cells (signature : Signature) : List (String × Value) → Prop
  | full {returnType : Value} {parameters : List Value}
      (hreturn : signature.returnType.SpelledBy returnType)
      (hparameters : List.Forall₂ Parameter.SpelledBy signature.parameters parameters) :
      Cells signature [("name", .string signature.name), ("returnType", returnType),
        ("parameters", .array parameters none)]
  | short {returnType : Value} (hreturn : signature.returnType.SpelledBy returnType)
      (h : signature.parameters = []) :
      Cells signature [("name", .string signature.name), ("returnType", returnType)]

/-- The values that spell a member, which hold its kind beside the entries for it. -/
inductive Member.SpelledBy : Member → Value → Prop
  | method {signature : Signature} {cells : List (String × Value)} {value : Value}
      (h : signature.Cells cells)
      (hvalue : ObjectOf ["kind", "name", "returnType", "parameters"]
        (("kind", .string "method") :: cells) value) :
      SpelledBy (.method signature) value
  | field {name : String} {value : Value}
      (hvalue : ObjectOf ["kind", "name"] [("kind", .string "field"), ("name", .string name)]
        value) : SpelledBy (.field name) value
  | type {name : String} {value : Value}
      (hvalue : ObjectOf ["kind", "name"] [("kind", .string "type"), ("name", .string name)]
        value) : SpelledBy (.type name) value
  | initializer {value : Value}
      (hvalue : ObjectOf ["kind"] [("kind", .string "initializer")] value) :
      SpelledBy .initializer value

theorem Signature.Cells.keys {signature : Signature} {cells : List (String × Value)}
    (h : signature.Cells cells) :
    ∀ cell ∈ cells, cell.1 ∈ ["name", "returnType", "parameters"] := by
  cases h <;> simp

theorem Signature.Cells.reads {signature : Signature} {cells : List (String × Value)}
    (h : signature.Cells cells) {known : List String}
    (hknown : ∀ key ∈ MethodKey.shape.keys, MethodKey.shape.text key ∈ known) {value : Value}
    (hvalue : ObjectOf known cells value) : Reads readSignature value signature := by
  intro place hfits
  cases h with
  | @full returnType parameters hreturn hparameters =>
    have hlist := reads_readList (hparameters.imp fun _ _ h => h.reads)
    have hgives : MethodKey.shape.Gives MethodKey.read
        [("name", .string signature.name), ("returnType", returnType),
          ("parameters", .array parameters none)] _ :=
      .cons rfl (reads_readString _) rfl (.cons rfl hreturn.reads rfl (.cons rfl hlist rfl .nil))
    have hfields := Shape.reads_readRecord hgives hvalue hknown place hfits
    exact bind_eq_ok_iff.2 ⟨_, hfields, rfl⟩
  | @short returnType hreturn h =>
    have hgives : MethodKey.shape.Gives MethodKey.read
        [("name", .string signature.name), ("returnType", returnType)] _ :=
      .cons rfl (reads_readString _) rfl (.cons rfl hreturn.reads rfl .nil)
    have hfields := Shape.reads_readRecord hgives hvalue hknown place hfits
    refine bind_eq_ok_iff.2 ⟨_, hfields, ?_⟩
    exact congrArg (fun list => Except.ok (Signature.mk signature.name signature.returnType list))
      h.symm

theorem reads_readName (title name : String) {known : List String} (hknown : "name" ∈ known)
    {value : Value} (hvalue : ObjectOf known [("name", .string name)] value) :
    Reads (readName title) value name := by
  intro place hfits
  have hgives : (NameKey.shape title).Gives (α := fun _ => String) (fun _ => readString)
      [("name", .string name)] _ := .cons rfl (reads_readString _) rfl .nil
  have hfields := Shape.reads_readRecord hgives hvalue (fun _ _ => hknown) place hfits
  exact bind_eq_ok_iff.2 ⟨_, hfields, rfl⟩

/-- A member is read from its kind, wherever it stands, and from what is left without it. -/
theorem reads_readMember (kind : MemberKind) {member : Member} {cells : List (String × Value)}
    {known : List String} (hkind : "kind" ∈ known) (hcells : ∀ cell ∈ cells, cell.1 ≠ "kind")
    (hfields : ∀ others, ObjectOf known cells others → Reads (readMemberOf kind) others member)
    {value : Value} (hvalue : ObjectOf known (("kind", .string kind.text) :: cells) value) :
    Reads readMember value member := by
  have hread : Reads readKind (.string kind.text) kind := fun _ _ => by cases kind <;> rfl
  have hgives : KindKey.shape.Gives (α := fun _ => MemberKind) (fun _ => readKind)
      [("kind", .string kind.text)] _ := .cons rfl hread rfl .nil
  have hforeign : ∀ cell ∈ cells, KindKey.shape.key? cell.1 = none := fun cell hcell =>
    Shape.key?_eq_none (fun _ _ => List.mem_singleton_self "kind")
      (List.mem_singleton.not.2 (hcells cell hcell))
  obtain ⟨others, hothers, hown⟩ :=
    Shape.exists_readKeyed hgives hvalue (fun _ _ => hkind) hforeign
  intro place hfits
  obtain ⟨hkeyed, hleft⟩ := hown place hfits
  obtain ⟨hperm, hunknown⟩ := hvalue
  exact bind_eq_ok_iff.2
    ⟨_, hkeyed, bind_eq_ok_iff.2 ⟨kind, rfl, hfields others hothers place hleft⟩⟩

theorem Member.SpelledBy.reads {member : Member} {value : Value} (h : member.SpelledBy value) :
    Reads readMember value member := by
  cases h with
  | @method signature cells value h hvalue =>
    have hkeys : ∀ text ∈ ["name", "returnType", "parameters"], text ≠ "kind" := by decide
    refine reads_readMember .method (by decide)
      (fun cell hcell => hkeys _ (h.keys cell hcell)) (fun others hothers place hfits => ?_) hvalue
    have := h.reads (by decide) hothers { place with buffered := true } hfits
    exact map_eq_ok_iff.2 ⟨signature, this, rfl⟩
  | @field name value hvalue =>
    refine reads_readMember .field (by decide) (by simp)
      (fun others hothers place hfits => ?_) hvalue
    exact map_eq_ok_iff.2 ⟨name, reads_readName _ name (by decide) hothers _ hfits, rfl⟩
  | @type name value hvalue =>
    refine reads_readMember .type (by decide) (by simp)
      (fun others hothers place hfits => ?_) hvalue
    exact map_eq_ok_iff.2 ⟨name, reads_readName _ name (by decide) hothers _ hfits, rfl⟩
  | initializer hvalue =>
    refine reads_readMember .initializer (by decide) (by simp)
      (fun others hothers place hfits => ?_) hvalue
    obtain ⟨hperm, hunknown⟩ := hothers
    rfl

/-! ### Targets and descriptors -/

/-- The values that spell a delegate. -/
def Delegate.SpelledBy (delegate : Delegate) : Value → Prop :=
  ObjectOf ["delegatePackage", "delegateClassName", "delegateSimpleName"]
    [("delegatePackage", .string delegate.package),
      ("delegateClassName", .string delegate.className),
      ("delegateSimpleName", .string delegate.fieldName)]

/-- The entries for an interface. -/
inductive Interface.Cells (interface : Interface) : List (String × Value) → Prop
  | full {members : List Value}
      (hmembers : List.Forall₂ Member.SpelledBy interface.members members) :
      Cells interface [("qualifiedName", .string interface.qualifiedName),
        ("simpleName", .string interface.simpleName), ("members", .array members none)]

/-- The entries for the chosen name of a class.  That none is chosen need not be said. -/
inductive OutputCells : Option String → List (String × Value) → Prop
  | chosen {name : String} : OutputCells (some name) [("outputClassName", .string name)]
  | null : OutputCells none [("outputClassName", .null)]
  | absent : OutputCells none []

/-- The values that spell a target, which hold the entries of its interface. -/
def Target.SpelledBy (target : Target) (value : Value) : Prop :=
  ∃ delegate output cells, target.delegate.SpelledBy delegate ∧
    OutputCells target.outputName output ∧ target.interface.Cells cells ∧
    ObjectOf ["delegate", "outputClassName", "qualifiedName", "simpleName", "members"]
      (("delegate", delegate) :: output ++ cells) value

/-- The values that spell a descriptor. -/
def Descriptor.SpelledBy (descriptor : Descriptor) (value : Value) : Prop :=
  ∃ targets, List.Forall₂ Target.SpelledBy descriptor.interfaces targets ∧
    ObjectOf ["interfaces"] [("interfaces", .array targets none)] value

theorem Delegate.SpelledBy.reads {delegate : Delegate} {value : Value}
    (h : delegate.SpelledBy value) : Reads readDelegate value delegate := by
  intro place hfits
  have hgives : DelegateKey.shape.Gives (α := fun _ => String) (fun _ => readString)
      [("delegatePackage", .string delegate.package),
        ("delegateClassName", .string delegate.className),
        ("delegateSimpleName", .string delegate.fieldName)] _ :=
    .cons rfl (reads_readString _) rfl (.cons rfl (reads_readString _) rfl
      (.cons rfl (reads_readString _) rfl .nil))
  have hfields := Shape.reads_readRecord hgives h (by decide) place hfits
  exact bind_eq_ok_iff.2 ⟨_, hfields, rfl⟩

theorem Interface.Cells.keys {interface : Interface} {cells : List (String × Value)}
    (h : interface.Cells cells) :
    ∀ cell ∈ cells, cell.1 ∈ ["qualifiedName", "simpleName", "members"] := by
  cases h
  simp

theorem Interface.Cells.reads {interface : Interface} {cells : List (String × Value)}
    (h : interface.Cells cells) {known : List String}
    (hknown : ∀ key ∈ InterfaceKey.shape.keys, InterfaceKey.shape.text key ∈ known) {value : Value}
    (hvalue : ObjectOf known cells value) : Reads readInterface value interface := by
  intro place hfits
  obtain @⟨members, hmembers⟩ := h
  have hlist := reads_readList (hmembers.imp fun _ _ h => h.reads)
  have hgives : InterfaceKey.shape.Gives InterfaceKey.read
      [("qualifiedName", .string interface.qualifiedName),
        ("simpleName", .string interface.simpleName), ("members", .array members none)] _ :=
    .cons rfl (reads_readString _) rfl (.cons rfl (reads_readString _) rfl
      (.cons rfl hlist rfl .nil))
  have hfields := Shape.reads_readRecord hgives hvalue hknown place hfits
  exact bind_eq_ok_iff.2 ⟨_, hfields, rfl⟩

/-- The own fields of a target. -/
theorem OutputCells.exists_gives {name : Option String} {output : List (String × Value)}
    (h : OutputCells name output) {delegate : Delegate} {value : Value}
    (hdelegate : delegate.SpelledBy value) :
    ∃ fields, TargetKey.shape.Gives TargetKey.read (("delegate", value) :: output) fields ∧
      fields .delegate = some delegate ∧ (fields .outputName).getD none = name := by
  cases h with
  | @chosen name =>
    have hread : Reads (readOption readString) (.string name) (some name) := fun _ _ => rfl
    exact ⟨_, .cons rfl hdelegate.reads rfl (.cons rfl hread rfl .nil), rfl, rfl⟩
  | null =>
    have hread : Reads (readOption readString) .null none := fun _ _ => rfl
    exact ⟨_, .cons rfl hdelegate.reads rfl (.cons rfl hread rfl .nil), rfl, rfl⟩
  | absent => exact ⟨_, .cons rfl hdelegate.reads rfl .nil, rfl, rfl⟩

theorem Target.SpelledBy.reads {target : Target} {value : Value} (h : target.SpelledBy value) :
    Reads readTarget value target := by
  obtain ⟨delegate, output, cells, hdelegate, houtput, hcells, hvalue⟩ := h
  have hforeign : ∀ text ∈ ["qualifiedName", "simpleName", "members"],
      TargetKey.shape.key? text = none := by decide
  obtain ⟨fields, hgives, hfirst, hsecond⟩ := houtput.exists_gives hdelegate
  obtain ⟨others, hothers, hown⟩ := Shape.exists_readKeyed hgives hvalue (by decide)
    fun cell hcell => hforeign _ (hcells.keys cell hcell)
  intro place hfits
  obtain ⟨hkeyed, hleft⟩ := hown place hfits
  have hinterface := hcells.reads (by decide) hothers { place with buffered := true } hleft
  have hrequire : TargetKey.shape.require fields .delegate = .ok target.delegate := by
    rw [Shape.require, hfirst]
  refine bind_eq_ok_iff.2 ⟨_, hkeyed, bind_eq_ok_iff.2 ⟨_, hrequire,
    bind_eq_ok_iff.2 ⟨_, hinterface, ?_⟩⟩⟩
  rw [hsecond]
  rfl

theorem Descriptor.SpelledBy.reads {descriptor : Descriptor} {value : Value}
    (h : descriptor.SpelledBy value) : Reads readDescriptor value descriptor := by
  obtain ⟨targets, htargets, hvalue⟩ := h
  intro place hfits
  have hlist := reads_readList (htargets.imp fun _ _ h => h.reads)
  have hgives : DescriptorKey.shape.Gives (α := fun _ => List Target)
      (fun _ => readList readTarget) [("interfaces", .array targets none)] _ :=
    .cons rfl hlist rfl .nil
  have hfields := Shape.reads_readRecord hgives hvalue (by decide) place hfits
  exact bind_eq_ok_iff.2 ⟨_, hfields, rfl⟩

/-- A text is read as the descriptor that it spells. -/
theorem readDescriptor_of_spelledBy {descriptor : Descriptor} {value : Value}
    (hvalue : descriptor.SpelledBy value) (hfits : value.Fits 0) {text : String}
    (htext : Spells value.tokens text.toList) :
    readDocument readDescriptor text = .ok descriptor :=
  readDocument_of_spells hvalue.reads hfits htext

/-- A target with one method of one parameter. -/
def greeterTarget : Target :=
  ⟨⟨"com.example.Greeter", "Greeter",
      [.method ⟨"greet", ⟨"void", false⟩, [⟨"times", ⟨"int", true⟩⟩]⟩]⟩,
    ⟨"com.example", "DefaultGreeter", "greeter"⟩, none⟩

/-- What a key holds that nobody knows. -/
def greeterNote : Value :=
  .array [.string "say \"hi\"", .null, .ofEntries [("type", .bool true)]] none

/-- A descriptor of this target with the keys of each object from last to first, and with keys that
nobody knows. -/
def greeterValue : Value :=
  .ofEntries [("interfaces", .array [.ofEntries
    [("note", greeterNote),
      ("members", .array [.ofEntries
        [("parameters", .array [.ofEntries
            [("isArray", .bool true), ("type", .string "int"), ("name", .string "times")]] none),
          ("returnType", .ofEntries [("name", .null), ("type", .string "void")]),
          ("name", .string "greet"), ("kind", .string "method")]] none),
      ("simpleName", .string "Greeter"), ("qualifiedName", .string "com.example.Greeter"),
      ("outputClassName", .null),
      ("delegate", .ofEntries
        [("delegateSimpleName", .string "greeter"), ("delegateClassName", .string "DefaultGreeter"),
          ("delegatePackage", .string "com.example")])]] none)]

theorem spelledBy_greeterValue : Descriptor.SpelledBy ⟨[greeterTarget]⟩ greeterValue := by
  have hreturn : TypeRef.SpelledBy ⟨"void", false⟩ _ :=
    ⟨_, .short rfl, @ObjectOf.entries _ _ _ [("name", .null)] (List.reverse_perm _) (by simp)⟩
  have hparameter : Parameter.SpelledBy ⟨"times", ⟨"int", true⟩⟩ _ :=
    ⟨_, .full, @ObjectOf.entries _ _ _ [] (List.reverse_perm _) (by simp)⟩
  have hmember : Member.SpelledBy
      (.method ⟨"greet", ⟨"void", false⟩, [⟨"times", ⟨"int", true⟩⟩]⟩) _ :=
    .method (.full hreturn (.cons hparameter .nil))
      (@ObjectOf.entries _ _ _ [] (List.reverse_perm _) (by simp))
  have hdelegate : Delegate.SpelledBy ⟨"com.example", "DefaultGreeter", "greeter"⟩ _ :=
    @ObjectOf.entries _ _ _ [] (List.reverse_perm _) (by simp)
  have htarget : greeterTarget.SpelledBy _ :=
    ⟨_, _, _, hdelegate, .null, .full (.cons hmember .nil),
      @ObjectOf.entries _ _ _ [("note", greeterNote)] (List.reverse_perm _) (by simp)⟩
  exact ⟨_, .cons htarget .nil, @ObjectOf.entries _ _ _ [] (List.Perm.refl _) (by simp)⟩

/-- The descriptor is read, with a blank before it. -/
theorem readDescriptor_of_spelledBy_greeter :
    readDocument readDescriptor
        (String.ofList (' ' :: greeterValue.tokens.flatMap Token.word)) =
      .ok ⟨[greeterTarget]⟩ := by
  refine readDescriptor_of_spelledBy spelledBy_greeterValue ?_ ?_
  · simp [greeterValue, greeterNote, depthLimit]
  · rw [String.toList_ofList]
    exact .blank (by decide) (spells_words (by decide))

end Forwarding
