import Forwarding.Proofs.Crate.TraitImpl

/-!
# The type of the delegate in a crate

The struct has the path of the delegate's class as the type of its field.  The parameter of `new`
that initializes the field has its type from the qualified name of that class, which may be the name
of a known type and otherwise is cut at its last dot, wherever this dot came from.

* `CratePath.length_tokens`: a path is as long as it has segments;
* `RustType.tokens_ofRef_eq_iff`: when the type of a qualified name is the path of the class;
* `Interface.new_type_eq_iff`: exactly when field and parameter have one type;
* `Interface.new_type_label`: a class whose `new` sets its field to a value of another type.
-/

namespace Forwarding

/-! ### Paths -/

theorem CratePath.length_tokens (path : CratePath) :
    path.tokens.length = 2 * path.segments.length + 1 := by
  rw [tokens, List.length_cons]
  induction path.segments with
  | nil => rfl
  | cons segment rest ih =>
    simp only [List.flatMap_cons, List.length_append, List.length_cons, List.length_nil]
    omega

/-- The path of a class has one segment for each of its package and one for the class. -/
theorem CratePath.length_segments {name : ClassName} {path : CratePath}
    (h : CratePath.ofClass name = .ok path) :
    path.segments.length = name.packageSegments.length + 1 := by
  obtain ⟨segments, hsegments, rfl⟩ := map_eq_ok_iff.1 h
  rw [← (mapM_eq_ok_iff.1 hsegments).length_eq, List.length_append, List.length_singleton]

/-- A simple name in a path does not begin with a dot. -/
theorem CratePath.head?_ne_dot {name : ClassName} {path : CratePath}
    (h : CratePath.ofClass name = .ok path) : name.simpleName.toList.head? ≠ some '.' := by
  obtain ⟨segments, hsegments, -⟩ := map_eq_ok_iff.1 h
  obtain ⟨ident, -, hident⟩ := exists_of_mem_left (mapM_eq_ok_iff.1 hsegments)
    (List.mem_append_right _ (List.mem_singleton_self name.simpleName))
  exact Ident.head?_ne_dot_of_ofName hident

/-- A known type is not written as a path. -/
theorem KnownType.tokens_ne_path (known : KnownType) (path : CratePath) :
    path.tokens ≠ known.tokens := by
  cases known <;> simp [tokens, CratePath.tokens, parenthesized]

/-! ### The type of a qualified name -/

/-- The type of the qualified name of a class is written as the path of the class exactly if the
simple name has no dot and the qualified name is not that of a known type. -/
theorem RustType.tokens_ofRef_eq_iff {name : ClassName} {path : CratePath} {type : RustType}
    (hpath : CratePath.ofClass name = .ok path) (htype : RustType.ofRef name.typeRef = .ok type) :
    (RustType.mk (.path path) false).tokens = type.tokens ↔
      '.' ∉ name.simpleName.toList ∧ KnownType.ofClass? name.qualified = none := by
  rw [ofRef, ClassName.typeRef_className] at htype
  cases hknown : KnownType.ofClass? name.qualified with
  | some known =>
    rw [hknown] at htype
    obtain rfl := Except.ok.inj htype
    exact iff_of_false (known.tokens_ne_path path) fun h => Option.some_ne_none known h.2
  | none =>
    rw [hknown] at htype
    obtain ⟨other, hother, rfl⟩ := map_eq_ok_iff.1 htype
    refine Iff.trans ?_ (and_iff_left rfl).symm
    constructor
    · intro htokens hdot
      -- the dot in the simple name puts one more segment into the package
      have hlonger := ClassName.length_packageSegments_lt hdot (CratePath.head?_ne_dot hpath)
      have hlength : path.tokens.length = other.tokens.length := congrArg List.length htokens
      rw [CratePath.length_tokens, CratePath.length_tokens, CratePath.length_segments hpath,
        CratePath.length_segments hother] at hlength
      omega
    · intro hdot
      have hsame : ClassName.ofQualified name.qualified = name :=
        ClassName.ofQualified_qualified hdot
      rw [hsame, hpath] at hother
      rw [Except.ok.inj hother]
      rfl

namespace Interface

/-- **The field of the struct and the parameter of `new` that initializes it have one type exactly
if the delegate's class has no dot in its simple name and is no class with a known type.** -/
theorem new_type_eq_iff {interface : Interface} {delegate : Delegate} {output : String}
    {unit : Forwarder} {text : String}
    (hunit : interface.forwarder delegate output = .ok unit) (htext : unit.rustSource.2 = .ok text) :
    ∃ item receiver fieldType parameterType,
      unit.traitImpl.2 = .ok item ∧ text = Token.spell item.tokens ∧
      item.fields = [⟨receiver, fieldType⟩] ∧ item.parameters = [⟨receiver, parameterType⟩] ∧
      item.initializers = [(receiver, receiver)] ∧
      (fieldType.tokens = parameterType.tokens ↔
        '.' ∉ delegate.className.toList ∧ KnownType.ofClass? delegate.name.qualified = none) := by
  obtain ⟨-, himplements⟩ := implements_of_forwarder hunit
  rw [Forwarder.rustSource_snd] at htext
  obtain ⟨item, hitem, rfl⟩ := map_eq_ok_iff.1 htext
  obtain ⟨receiver, path, type, -, hpath, htype, hfields, hparameters, hinits⟩ :=
    himplements.delegate_of_traitImpl hitem
  exact ⟨item, receiver, ⟨.path path, false⟩, type, hitem, rfl, hfields, hparameters, hinits,
    RustType.tokens_ofRef_eq_iff hpath htype⟩

theorem new_type_eq_iff_directory :
    directory.forwarder directoryDelegate "DirectoryImpl" = .ok directoryForwarder ∧
      directoryForwarder.rustSource.2 = .ok (Token.spell directoryImpl.tokens) ∧
      ∃ item receiver fieldType parameterType, directoryForwarder.traitImpl.2 = .ok item ∧
        item.fields = [⟨receiver, fieldType⟩] ∧ item.parameters = [⟨receiver, parameterType⟩] ∧
        item.initializers = [(receiver, receiver)] ∧ fieldType.tokens = parameterType.tokens := by
  have hunit : directory.forwarder directoryDelegate "DirectoryImpl" = .ok directoryForwarder := rfl
  have hitem : directoryForwarder.traitImpl.2 = .ok directoryImpl := rfl
  have htext : directoryForwarder.rustSource.2 = .ok (Token.spell directoryImpl.tokens) := by
    rw [Forwarder.rustSource_snd, hitem]
    rfl
  obtain ⟨item, receiver, fieldType, parameterType, hsome, -, hfields, hparameters, hinits, hiff⟩ :=
    new_type_eq_iff hunit htext
  exact ⟨hunit, htext, item, receiver, fieldType, parameterType, hsome, hfields, hparameters,
    hinits, hiff.2 ⟨by decide, by decide⟩⟩

/-- A label without methods. -/
def label : Interface := ⟨"com.example.Label", "Label", []⟩

/-- A delegate of a class with a known type. -/
def labelDelegate : Delegate := ⟨"java.lang", "String", "text"⟩

/-- The class that forwards the label to a string. -/
def labelForwarder : Forwarder where
  name := ⟨"com.example", "LabelImpl"⟩
  interface := ⟨"com.example", "Label"⟩
  doc := some classDoc
  fields := [⟨"text", labelDelegate.name, .isPrivate⟩]
  constructor :=
    { parameters := [⟨"text", ⟨"java.lang.String", false⟩⟩], body := [.assign "text" "text"] }

/-- The implementation for that class. -/
def labelImpl : TraitImpl where
  name := ⟨"LabelImpl", false⟩
  trait := ⟨[⟨"com", false⟩, ⟨"example", false⟩, ⟨"Label", false⟩]⟩
  fields := [⟨⟨"text", false⟩,
    ⟨.path ⟨[⟨"java", false⟩, ⟨"lang", false⟩, ⟨"String", false⟩]⟩, false⟩⟩]
  parameters := [⟨⟨"text", false⟩, ⟨.known .string, false⟩⟩]
  initializers := [(⟨"text", false⟩, ⟨"text", false⟩)]
  functions := []

/-- The struct for the label has a path as the type of its field, but its `new` takes a string. -/
theorem new_type_label :
    label.forwarder labelDelegate "LabelImpl" = .ok labelForwarder ∧
      labelForwarder.traitImpl.2 = .ok labelImpl ∧
      labelForwarder.rustSource.2 = .ok (Token.spell labelImpl.tokens) ∧
      labelImpl.fields.map Binding.tokens =
        [[.ident ⟨"text", false⟩, .mark ":", .keyword "crate", .mark "::", .ident ⟨"java", false⟩,
          .mark "::", .ident ⟨"lang", false⟩, .mark "::", .ident ⟨"String", false⟩]] ∧
      labelImpl.parameters.map Binding.tokens =
        [[.ident ⟨"text", false⟩, .mark ":", .keyword "String"]] ∧
      labelImpl.initializers = [(⟨"text", false⟩, ⟨"text", false⟩)] := by
  have hitem : labelForwarder.traitImpl.2 = .ok labelImpl := rfl
  refine ⟨rfl, hitem, ?_, rfl, rfl, rfl⟩
  rw [Forwarder.rustSource_snd, hitem]
  rfl

end Interface

end Forwarding
