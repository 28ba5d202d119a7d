import Forwarding.Proofs.Crate.Layout
import Forwarding.Proofs.Crate.Naming
import Forwarding.Proofs.Generation

/-!
# The functions of an implemented trait

The name of a method becomes an identifier in the head of its function and in its call, and the name
of a parameter in the head and among the arguments.  The identifiers agree, for an argument is
looked up among the parameters, whose names are distinct, and gets the name given to it there.

* `FnItem.forwardingText`, `TraitImpl.forwardingText`: a function and an implementation as texts;
* `FnItem.Forwards`, `TraitImpl.Forwards`: what they are made of;
* `TraitImpl.Forwards.spell_tokens`: an implementation is written in this layout;
* `mapM_argumentIdent`: the arguments are the identifiers of the parameters, in order;
* `FnItem.ofMethod_forwards`: the function of a forwarding method;
* `Forwarder.traitImpl_eq_ok`: what a class has if there is an implementation for it;
* `Interface.rustSource_forwards`: the text of a generated class.
-/

namespace Forwarding

/-! ### The layout of an implementation -/

/-- The text of a function that passes its arguments on to the function of the same identifier of
the trait, called on the field `receiver` of `self`.  A call without a result ends in a
semicolon. -/
def FnItem.forwardingText (trait : CratePath) (receiver : Ident) (function : FnItem) : String :=
  "fn " ++ function.name.text ++
    " (& self ," ++ listed (function.parameters.map Binding.text) ++ ")" ++
    resultText function.result ++ " " ++
    inBraces [trait.text ++ " :: " ++ function.name.text ++
      " (& self . " ++ receiver.text ++ " ," ++
        listed (function.parameters.map (·.name.text)) ++ ")" ++
      if function.result.isSome then "" else " ;"]

/-- The text of a struct whose only field is the only parameter of its `new`, and of the
implementation of the trait by these functions. -/
def TraitImpl.forwardingText (name receiver : Ident) (trait delegate : CratePath)
    (parameter : RustType) (functions : List String) : String :=
  " ".intercalate [
    "pub struct " ++ name.text, inBraces [receiver.text ++ " : " ++ delegate.text],
    "impl " ++ name.text,
    inBraces [
      "pub fn new (" ++ receiver.text ++ " : " ++ parameter.text ++ ") -> Self",
      inBraces ["Self", inBraces [receiver.text ++ " : " ++ receiver.text]]],
    "impl " ++ trait.text ++ " for " ++ name.text, inBraces functions]

/-- The function is of the signature's types and passes its arguments on to the function of the
same identifier of the trait, called on the field `receiver` of `self`. -/
structure FnItem.Forwards (function : FnItem) (trait : CratePath) (receiver : Ident)
    (signature : Signature) : Prop where
  parameters_names : distinctNames (signature.parameters.map (·.name)) =
    .ok (function.parameters.map (·.name.name))
  parameters_nodup : (function.parameters.map (·.name.name)).Nodup
  parameters_types : List.Forall₂ (fun parameter binding =>
    RustType.ofRef parameter.type = .ok binding.type) signature.parameters function.parameters
  result : signature.returnType = .void ∧ function.result = none ∨
    signature.returnType ≠ .void ∧
      ∃ type, RustType.ofRef signature.returnType = .ok type ∧ function.result = some type
  body : function.body =
    [.call trait function.name receiver (function.parameters.map (·.name)) function.result.isSome]

/-- The struct holds the delegate in `receiver` and nothing else, and the trait is that of the
interface, with one function for each of its methods. -/
structure TraitImpl.Forwards (item : TraitImpl) (unit : Forwarder) (signatures : List Signature)
    (delegate : Delegate) (receiver : Ident) (path : CratePath) (type : RustType) : Prop where
  name : Ident.ofName unit.name.simpleName = .ok item.name
  trait : CratePath.ofClass unit.interface = .ok item.trait
  receiver_name : Ident.ofMemberName delegate.fieldName = .ok receiver
  delegate_path : CratePath.ofClass delegate.name = .ok path
  delegate_type : RustType.ofRef delegate.name.typeRef = .ok type
  fields : item.fields = [⟨receiver, ⟨.path path, false⟩⟩]
  parameters : item.parameters = [⟨receiver, type⟩]
  initializers : item.initializers = [(receiver, receiver)]
  functions_names : distinctNames (signatures.map (·.name)) =
    .ok (item.functions.map (·.name.name))
  functions_nodup : (item.functions.map (·.name.name)).Nodup
  functions : List.Forall₂ (fun signature function =>
    function.Forwards item.trait receiver signature) signatures item.functions

/-- The names of the method and of its parameters are names of ASCII, and those of the parameters
are distinct. -/
structure Signature.IsNamed (signature : Signature) : Prop where
  name : Text.isName signature.name = true
  parameters : ∀ parameter ∈ signature.parameters, Text.isName parameter.name = true
  parameters_nodup : (signature.parameters.map (·.name)).Nodup

section Layout

open Token

namespace FnItem

variable {function : FnItem} {trait : CratePath} {receiver : Ident} {signature : Signature}

/-- A function that forwards is written as one. -/
theorem Forwards.spell_tokens (h : function.Forwards trait receiver signature) :
    spell function.tokens = function.forwardingText trait receiver := by
  have hhead := function.isSolid_headTokens
  have hresult := isSolid_append_resultTokens hhead function.result
  have hcall := FnStatement.isSolid_call trait function.name receiver
    (function.parameters.map (·.name)) function.result.isSome
  have hbody : spell (braced (function.body.flatMap FnStatement.tokens)) =
      inBraces [trait.text ++ " :: " ++ function.name.text ++ " (& self . " ++ receiver.text ++
        " ," ++ listed (function.parameters.map (·.name.text)) ++ ")" ++
        if function.result.isSome then "" else " ;"] := by
    rw [h.body, List.flatMap_singleton, spell_braced_singleton hcall, FnStatement.spell_call,
      List.map_map]
    rfl
  have hspell : spell function.tokens = spell function.headTokens ++ resultText function.result ++
      " " ++ spell (braced (function.body.flatMap FnStatement.tokens)) := by
    rw [← spell_append_resultTokens hhead]
    exact spell_append hresult (isSolid_braced _)
  rw [hspell, hbody, spell_headTokens, forwardingText]

end FnItem

namespace TraitImpl

variable {item : TraitImpl} {unit : Forwarder} {signatures : List Signature} {delegate : Delegate}
  {receiver : Ident} {path : CratePath} {type : RustType}

/-- The functions of an implementation that forwards are written as such. -/
theorem Forwards.spell_functions
    (h : item.Forwards unit signatures delegate receiver path type) :
    spell (braced (item.functions.flatMap FnItem.tokens)) =
      inBraces (item.functions.map (·.forwardingText item.trait receiver)) := by
  rw [List.flatMap_def, spell_braced (isSolid_groups FnItem.isSolid_tokens), List.map_map]
  refine congrArg inBraces (List.map_congr_left fun function hmem => ?_)
  obtain ⟨signature, -, hforwards⟩ := exists_of_mem_right h.functions hmem
  exact hforwards.spell_tokens

/-- An implementation that forwards is written as one. -/
theorem Forwards.spell_tokens (h : item.Forwards unit signatures delegate receiver path type) :
    spell item.tokens = forwardingText item.name receiver item.trait path type
      (item.functions.map (·.forwardingText item.trait receiver)) := by
  have hfield := Binding.isSolid_tokens ⟨receiver, ⟨.path path, false⟩⟩
  have hnew := isSolid_newTokens ⟨receiver, type⟩
  have hstruct : IsSolid [.keyword "pub", .keyword "struct", .ident item.name] := by
    simp [isSolid_iff]
  have himpl : IsSolid [.keyword "impl", .ident item.name] := by simp [isSolid_iff]
  have hstructText : spell [.keyword "pub", .keyword "struct", .ident item.name] =
      "pub struct " ++ item.name.text := by
    rw [← String.toList_inj]
    simp [spell, gap, Token.text]
  have himplText : spell [.keyword "impl", .ident item.name] = "impl " ++ item.name.text := by
    rw [← String.toList_inj]
    simp [spell, gap, Token.text]
  have hgroups : item.tokens = [[.keyword "pub", .keyword "struct", .ident item.name],
      braced (Binding.tokens ⟨receiver, ⟨.path path, false⟩⟩),
      [.keyword "impl", .ident item.name],
      braced (newTokens ⟨receiver, type⟩ ++
        braced (.keyword "Self" :: braced (initializerTokens (receiver, receiver)))),
      traitTokens item, braced (item.functions.flatMap FnItem.tokens)].flatten := by
    simp only [tokens, h.fields, h.parameters, h.initializers, List.map_singleton, newTokens,
      separated_singleton, List.flatten_cons, List.flatten_nil, List.append_nil, List.append_assoc,
      traitTokens, List.cons_append]
  refine (congrArg spell hgroups).trans ((spell_flatten ?_).trans ?_)
  · simp only [List.forall_mem_cons]
    exact ⟨hstruct, isSolid_braced _, himpl, isSolid_braced _, isSolid_traitTokens item,
      isSolid_braced _, List.forall_mem_nil _⟩
  · simp only [List.map_cons, List.map_nil, spell_braced_singleton hfield, Binding.spell_tokens,
      spell_braced_pair hnew (isSolid_braced _), spell_newTokens, spell_structExpression,
      spell_traitTokens, h.spell_functions, hstructText, himplText]
    rfl

end TraitImpl

end Layout

/-! ### Arguments -/

theorem Parameter.bindingAs_eq_ok_iff {parameter : Parameter} {name : String} {binding : Binding} :
    parameter.bindingAs name = .ok binding ↔
      Ident.ofName name = .ok binding.name ∧ RustType.ofRef parameter.type = .ok binding.type := by
  simp only [bindingAs, bind_eq_ok_iff]
  constructor
  · rintro ⟨ident, hident, type, htype, h⟩
    obtain rfl := Except.ok.inj h
    exact ⟨hident, htype⟩
  · rintro ⟨hident, htype⟩
    exact ⟨_, hident, _, htype, rfl⟩

section Arguments

variable {named : List (Parameter × String)} (hnodup : (named.map (·.1.name)).Nodup)

include hnodup

/-- An argument that is called like a parameter has the identifier of the name given to it. -/
theorem argumentIdent_of_mem {parameter : Parameter × String} (h : parameter ∈ named) :
    argumentIdent named parameter.1.name = Ident.ofName parameter.2 := by
  unfold argumentIdent
  cases hfind : named.find? (·.1.name == parameter.1.name) with
  | none => simpa using List.find?_eq_none.1 hfind parameter h
  | some found =>
    have hname : found.1.name = parameter.1.name := by simpa using List.find?_some hfind
    have hsame : found = parameter :=
      List.inj_on_of_nodup_map hnodup (List.mem_of_find?_eq_some hfind) h hname
    rw [hsame]

/-- The arguments have the identifiers of the parameters, in order. -/
theorem mapM_argumentIdent {bindings : List Binding}
    (h : List.Forall₂ (fun parameter binding => parameter.1.bindingAs parameter.2 = .ok binding)
      named bindings) :
    (named.map (·.1.name)).mapM (argumentIdent named) = .ok (bindings.map (·.name)) := by
  rw [mapM_eq_ok_iff, List.forall₂_map_left_iff, List.forall₂_map_right_iff]
  have hboth := (List.forall₂_and_left named bindings).2
    ⟨fun parameter hmem => argumentIdent_of_mem hnodup hmem, h⟩
  refine hboth.imp fun parameter binding ⟨hargument, hbinding⟩ => ?_
  rw [hargument]
  exact (Parameter.bindingAs_eq_ok_iff.1 hbinding).1

end Arguments

/-! ### Functions -/

/-- What goes into the function of a method. -/
theorem FnItem.ofMethod_eq_ok {trait : CratePath} {method : Method} {name : String}
    {function : FnItem} (h : FnItem.ofMethod trait method name = .ok function) :
    ∃ names, distinctNames (method.parameters.map (·.name)) = .ok names ∧
      Ident.ofName name = .ok function.name ∧
      List.Forall₂ (fun parameter binding => parameter.1.bindingAs parameter.2 = .ok binding)
        (method.parameters.zip names) function.parameters ∧
      (method.returnType = .void ∧ function.result = none ∨
        method.returnType ≠ .void ∧
          ∃ type, RustType.ofRef method.returnType = .ok type ∧ function.result = some type) ∧
      method.body.mapM (FnStatement.ofStatement trait function.name
        (method.parameters.zip names)) = .ok function.body := by
  simp only [ofMethod, bind_eq_ok_iff] at h
  obtain ⟨ident, hident, names, hnames, parameters, hparameters, h⟩ := h
  split_ifs at h with hvoid <;> simp only [bind_eq_ok_iff] at h
  · obtain ⟨result, hresult, body, hbody, h⟩ := h
    obtain rfl := Except.ok.inj h
    have hnone : result = none := (Except.ok.inj hresult).symm
    exact ⟨names, hnames, hident, mapM_eq_ok_iff.1 hparameters,
      Or.inl ⟨TypeRef.isVoid_iff.1 hvoid, hnone⟩, hbody⟩
  · obtain ⟨result, hresult, body, hbody, h⟩ := h
    obtain rfl := Except.ok.inj h
    obtain ⟨type, htype, hsome⟩ := map_eq_ok_iff.1 hresult
    exact ⟨names, hnames, hident, mapM_eq_ok_iff.1 hparameters,
      Or.inr ⟨fun hsame => hvoid (TypeRef.isVoid_iff.2 hsame), type, htype, hsome.symm⟩, hbody⟩

/-- A body with a single call is rendered as one call on the identifier of its target, with the
identifiers of its arguments. -/
theorem FnStatement.mapM_forward_eq_ok {trait : CratePath} {function : Ident}
    {named : List (Parameter × String)} {returns : Bool} {target method : String}
    {arguments : List String} {statements : List FnStatement}
    (h : [Statement.forward returns target method arguments].mapM
      (FnStatement.ofStatement trait function named) = .ok statements) :
    ∃ receiver idents, Ident.ofMemberName target = .ok receiver ∧
      arguments.mapM (argumentIdent named) = .ok idents ∧
      statements = [.call trait function receiver idents returns] := by
  obtain ⟨statement, hstatement, rfl⟩ := mapM_singleton_eq_ok_iff.1 h
  simp only [ofStatement, bind_eq_ok_iff] at hstatement
  obtain ⟨receiver, hreceiver, idents, hidents, hcall⟩ := hstatement
  exact ⟨receiver, idents, hreceiver, hidents, by rw [← Except.ok.inj hcall]⟩

/-- The function of a method that forwards a signature forwards it too. -/
theorem FnItem.ofMethod_forwards {trait : CratePath} {method : Method} {name field : String}
    {function : FnItem} {signature : Signature} {receiver : Ident}
    (h : FnItem.ofMethod trait method name = .ok function)
    (hmethod : method.Forwards signature field) (hsignature : signature.IsNamed)
    (hreceiver : Ident.ofMemberName field = .ok receiver) :
    function.Forwards trait receiver signature := by
  obtain ⟨names, hnames, -, hparameters, hresult, hbody⟩ := ofMethod_eq_ok h
  obtain ⟨returns, hreturns, hforward⟩ := hmethod.body
  rw [hmethod.parameters] at hnames hparameters hbody
  rw [hmethod.returnType] at hresult
  obtain ⟨hlength, hnodup, hcrate⟩ := distinctNames_ok
    (List.forall_mem_map.2 hsignature.parameters) hnames
  rw [List.length_map] at hlength
  have hzip : (signature.parameters.zip names).map (·.1.name) =
      signature.parameters.map (·.name) := by
    have hfirst : (signature.parameters.zip names).map (·.1) = signature.parameters :=
      List.map_fst_zip (by omega)
    conv_rhs => rw [← hfirst, List.map_map]
    rfl
  have hidents : function.parameters.map (·.name.name) = names := by
    refine map_name_of_zip Binding.name hlength hcrate ?_
    exact hparameters.imp fun _ _ hbinding => (Parameter.bindingAs_eq_ok_iff.1 hbinding).1
  -- the arguments are the names of the parameters, so each is found at its own place
  have harguments : (signature.parameters.map (·.name)).mapM
      (argumentIdent (signature.parameters.zip names)) =
        .ok (function.parameters.map (·.name)) := by
    rw [← hzip]
    exact mapM_argumentIdent (hzip ▸ hsignature.parameters_nodup) hparameters
  have hcall : function.body =
      [.call trait function.name receiver (function.parameters.map (·.name)) returns] := by
    rw [hforward] at hbody
    obtain ⟨target, idents, htarget, hmapM, hcall⟩ := FnStatement.mapM_forward_eq_ok hbody
    rw [harguments] at hmapM
    rw [hreceiver] at htarget
    rw [hcall, Except.ok.inj htarget, Except.ok.inj hmapM]
  have hreturned : function.result.isSome = returns := by
    rcases hresult with ⟨hvoid, hnone⟩ | ⟨hvoid, type, -, hsome⟩
    · rw [hnone, Option.isSome_none, eq_comm, ← Bool.not_eq_true, hreturns]
      exact not_not_intro hvoid
    · rw [hsome, Option.isSome_some, hreturns.2 hvoid]
  exact
    { parameters_names := by rw [hidents, hnames]
      parameters_nodup := by rwa [hidents]
      parameters_types := by
        rw [← forall₂_zip_left_iff hlength.symm]
        exact hparameters.imp fun _ _ hbinding => (Parameter.bindingAs_eq_ok_iff.1 hbinding).2
      result := hresult
      body := by rw [hcall, hreturned] }

/-! ### The implementation -/

theorem makeAll_snd {α β : Type} (record : α → List Record) (make : α → Except NameFault β)
    (sources : List α) : (makeAll record make sources).2 = sources.mapM make := by
  induction sources with
  | nil => rfl
  | cons source rest ih =>
    rw [makeAll, List.mapM_cons, ← ih]
    cases make source with
    | error fault => rfl
    | ok item =>
      obtain ⟨log, items⟩ := makeAll record make rest
      cases items <;> rfl

/-- Each record is one of an element that was tried. -/
theorem exists_of_mem_makeAll {α β : Type} {record : α → List Record}
    {make : α → Except NameFault β} {sources : List α} {entry : Record}
    (h : entry ∈ (makeAll record make sources).1) : ∃ source ∈ sources, entry ∈ record source := by
  induction sources with
  | nil => cases h
  | cons source rest ih =>
    rw [makeAll] at h
    cases hmake : make source with
    | error fault =>
      rw [hmake] at h
      exact ⟨source, List.mem_cons_self, h⟩
    | ok item =>
      rw [hmake] at h
      rcases List.mem_append.1 h with h | h
      · exact ⟨source, List.mem_cons_self, h⟩
      · obtain ⟨other, hother, hentry⟩ := ih h
        exact ⟨other, List.mem_cons_of_mem _ hother, hentry⟩

/-- Methods are rendered one after the other, each under the name given to it. -/
theorem functionItems_eq_ok_iff {trait : CratePath} {methods : List (Method × String)}
    {functions : List FnItem} :
    (functionItems trait methods).2 = .ok functions ↔
      List.Forall₂ (fun method function => FnItem.ofMethod trait method.1 method.2 = .ok function)
        methods functions := by
  rw [functionItems, makeAll_snd, mapM_eq_ok_iff]

/-- Methods rendered under names in a crate have these names.  What they are apart from that does
not depend on the names. -/
theorem named_of_functionItems {trait : CratePath} {methods : List Method} {names : List String}
    {functions : List FnItem} (hlength : names.length = methods.length)
    (hnames : ∀ name ∈ names, IsCrateName name)
    (h : (functionItems trait (methods.zip names)).2 = .ok functions) :
    functions.map (·.name.name) = names ∧
      List.Forall₂ (fun method function => ∃ name, FnItem.ofMethod trait method name = .ok function)
        methods functions := by
  have hitems := functionItems_eq_ok_iff.1 h
  constructor
  · refine map_name_of_zip FnItem.name hlength hnames ?_
    refine hitems.imp fun method function hfunction => ?_
    obtain ⟨-, -, hident, -⟩ := FnItem.ofMethod_eq_ok hfunction
    exact hident
  · rw [← forall₂_zip_left_iff hlength.symm]
    exact hitems.imp fun method function hfunction => ⟨method.2, hfunction⟩

theorem Field.binding_eq_ok_iff {field : Field} {binding : Binding} :
    field.binding = .ok binding ↔
      Ident.ofMemberName field.name = .ok binding.name ∧
        ∃ path, CratePath.ofClass field.type = .ok path ∧ binding.type = ⟨.path path, false⟩ := by
  obtain ⟨name, type⟩ := binding
  simp only [Field.binding, bind_eq_ok_iff]
  constructor
  · rintro ⟨ident, hident, path, hpath, h⟩
    obtain ⟨rfl, rfl⟩ := Binding.mk.inj (Except.ok.inj h)
    exact ⟨hident, path, hpath, rfl⟩
  · rintro ⟨hident, path, hpath, rfl⟩
    exact ⟨name, hident, path, hpath, rfl⟩

theorem Parameter.binding_eq_ok_iff {parameter : Parameter} {binding : Binding} :
    parameter.binding = .ok binding ↔
      Ident.ofMemberName parameter.name = .ok binding.name ∧
        RustType.ofRef parameter.type = .ok binding.type := by
  simp only [Parameter.binding, bind_eq_ok_iff]
  constructor
  · rintro ⟨ident, hident, type, htype, h⟩
    obtain rfl := Except.ok.inj h
    exact ⟨hident, htype⟩
  · rintro ⟨hident, htype⟩
    exact ⟨_, hident, _, htype, rfl⟩

theorem initializers_assign_eq_ok {field : String} {pairs : List (Ident × Ident)}
    (h : initializers [.assign field field] = .ok pairs) :
    ∃ receiver, Ident.ofMemberName field = .ok receiver ∧ pairs = [(receiver, receiver)] := by
  simp only [initializers, bind_eq_ok_iff] at h
  obtain ⟨receiver, hreceiver, value, hvalue, others, hothers, h⟩ := h
  obtain rfl := Except.ok.inj (hreceiver.symm.trans hvalue)
  obtain rfl := Except.ok.inj hothers
  exact ⟨receiver, hreceiver, (Except.ok.inj h).symm⟩

/-- What each part of an implementation is made of. -/
theorem Forwarder.traitImpl_eq_ok {unit : Forwarder} {item : TraitImpl}
    (h : unit.traitImpl.2 = .ok item) :
    Ident.ofName unit.name.simpleName = .ok item.name ∧
      CratePath.ofClass unit.interface = .ok item.trait ∧
      unit.fields.mapM Field.binding = .ok item.fields ∧
      unit.constructor.parameters.mapM Parameter.binding = .ok item.parameters ∧
      initializers unit.constructor.body = .ok item.initializers ∧
      ∃ names, distinctNames (unit.methods.map (·.name)) = .ok names ∧
        (functionItems item.trait (unit.methods.zip names)).2 = .ok item.functions := by
  unfold traitImpl at h
  cases hhead : unit.implHead with
  | error fault =>
    rw [hhead] at h
    cases h
  | ok parts =>
    obtain ⟨head, names⟩ := parts
    rw [hhead] at h
    obtain ⟨functions, hfunctions, rfl⟩ := map_eq_ok_iff.1 h
    simp only [implHead, bind_eq_ok_iff] at hhead
    obtain ⟨name, hname, trait, htrait, fields, hfields, parameters, hparameters, initializers,
      hinits, methodNames, hnames, hhead⟩ := hhead
    obtain ⟨rfl, rfl⟩ := Prod.mk.inj (Except.ok.inj hhead)
    exact ⟨hname, htrait, hfields, hparameters, hinits, methodNames, hnames, hfunctions⟩

/-- The struct of a class that forwards to a delegate has one field, which `new` takes as its one
parameter: the field has the path of the delegate's class as its type, and the parameter the type of
its qualified name. -/
theorem Forwarder.Implements.delegate_of_traitImpl {unit : Forwarder} {interface : Interface}
    {delegate : Delegate} {output : String}
    (himplements : unit.Implements interface delegate output)
    {item : TraitImpl} (h : unit.traitImpl.2 = .ok item) :
    ∃ receiver path type, Ident.ofMemberName delegate.fieldName = .ok receiver ∧
      CratePath.ofClass delegate.name = .ok path ∧
      RustType.ofRef delegate.name.typeRef = .ok type ∧
      item.fields = [⟨receiver, ⟨.path path, false⟩⟩] ∧ item.parameters = [⟨receiver, type⟩] ∧
      item.initializers = [(receiver, receiver)] := by
  obtain ⟨-, -, hfields, hparameters, hinits, -⟩ := traitImpl_eq_ok h
  rw [himplements.fields] at hfields
  rw [himplements.constructor_parameters] at hparameters
  rw [himplements.constructor_body] at hinits
  obtain ⟨⟨field, fieldType⟩, hfield, hitem⟩ := mapM_singleton_eq_ok_iff.1 hfields
  obtain ⟨⟨parameter, type⟩, hparameter, hitem'⟩ := mapM_singleton_eq_ok_iff.1 hparameters
  obtain ⟨receiver, hreceiver, hinit⟩ := initializers_assign_eq_ok hinits
  obtain ⟨hname, path, hpath, rfl⟩ := Field.binding_eq_ok_iff.1 hfield
  obtain ⟨hname', htype⟩ := Parameter.binding_eq_ok_iff.1 hparameter
  -- the three identifiers are of one name
  obtain rfl := Except.ok.inj (hreceiver.symm.trans hname)
  obtain rfl := Except.ok.inj (hreceiver.symm.trans hname')
  exact ⟨receiver, path, type, hreceiver, hpath, htype, hitem, hitem', hinit⟩

/-- The implementation for a class that forwards an interface forwards it too. -/
theorem Forwarder.traitImpl_forwards {unit : Forwarder} {item : TraitImpl}
    (h : unit.traitImpl.2 = .ok item) {interface : Interface} {delegate : Delegate}
    {output : String} (himplements : unit.Implements interface delegate output)
    {signatures : List Signature} (hmethods : HasMethods interface.members signatures)
    (hnames : ∀ signature ∈ signatures, signature.IsNamed) :
    ∃ receiver path type, item.Forwards unit signatures delegate receiver path type := by
  obtain ⟨hname, htrait, -, -, -, names, hdistinct, hfunctions⟩ := traitImpl_eq_ok h
  obtain ⟨receiver, path, type, hreceiver, hpath, htype, hfields, hparameters, hinits⟩ :=
    himplements.delegate_of_traitImpl h
  obtain rfl := Interface.hasMethods_iff.1 hmethods
  rw [himplements.map_name] at hdistinct
  obtain ⟨hlength, hnodup, hcrate⟩ := distinctNames_ok
    (List.forall_mem_map.2 fun signature hmem => (hnames signature hmem).name) hdistinct
  rw [← himplements.map_name, List.length_map] at hlength
  obtain ⟨hidents, hitems⟩ := named_of_functionItems hlength hcrate hfunctions
  have hsignatures := (List.forall₂_and_left _ _).2 ⟨hnames, himplements.forall₂_forwards⟩
  refine ⟨receiver, path, type, ?_⟩
  exact
    { name := hname
      trait := htrait
      receiver_name := hreceiver
      delegate_path := hpath
      delegate_type := htype
      fields := hfields
      parameters := hparameters
      initializers := hinits
      functions_names := by rw [hidents, hdistinct]
      functions_nodup := by rwa [hidents]
      functions := by
        refine forall₂_trans ?_ hsignatures hitems
        rintro signature method function ⟨hnamed, hforwards⟩ ⟨name, hfunction⟩
        exact FnItem.ofMethod_forwards hfunction hforwards hnamed hreceiver }

theorem Forwarder.rustSource_snd (unit : Forwarder) :
    unit.rustSource.2 = unit.traitImpl.2.map fun item => Token.spell item.tokens := by
  unfold rustSource
  obtain ⟨log, item⟩ := unit.traitImpl
  rfl

namespace Interface

/-- **The text of a generated class forwards every method of the interface**, if it is rendered at
all and the names of methods and parameters are in ASCII, those of the parameters of each method
distinct.  The text is a struct with the delegate in its only field, its `new`, and the
implementation of the trait with one function for each method, in order.  The identifiers of the
functions are distinct, and so are those of the parameters of each function. -/
theorem rustSource_forwards {interface : Interface} {delegate : Delegate}
    {output : String} {unit : Forwarder} {text : String}
    (hunit : interface.forwarder delegate output = .ok unit)
    (hnames : ∀ signature, .method signature ∈ interface.members → signature.IsNamed)
    (htext : unit.rustSource.2 = .ok text) :
    ∃ (signatures : List Signature) (item : TraitImpl) (receiver : Ident) (path : CratePath)
      (type : RustType), HasMethods interface.members signatures ∧
      unit.traitImpl.2 = .ok item ∧
      item.Forwards unit signatures delegate receiver path type ∧
      text = TraitImpl.forwardingText item.name receiver item.trait path type
        (item.functions.map (·.forwardingText item.trait receiver)) := by
  obtain ⟨-, himplements⟩ := implements_of_forwarder hunit
  rw [Forwarder.rustSource_snd] at htext
  obtain ⟨item, hitem, hspell⟩ := map_eq_ok_iff.1 htext
  obtain ⟨receiver, path, type, hforwards⟩ := Forwarder.traitImpl_forwards hitem himplements
    interface.hasMethods fun signature hmem => hnames signature (mem_signatures_iff.1 hmem)
  exact ⟨interface.signatures, item, receiver, path, type, interface.hasMethods, hitem,
    hforwards, hspell.symm.trans hforwards.spell_tokens⟩

/-- A directory with two methods of one name.  The parameters of the first have the same snake case,
and that of the second is called like a keyword. -/
def directory : Interface where
  qualifiedName := "com.example.Directory"
  simpleName := "Directory"
  members := [
    .method ⟨"put", .void, [⟨"userId", ⟨"int", false⟩⟩, ⟨"user_id", ⟨"int", false⟩⟩]⟩,
    .method ⟨"put", ⟨"void", true⟩, [⟨"self", ⟨"java.lang.String", false⟩⟩]⟩]

/-- A delegate whose field has a dollar sign in its name. -/
def directoryDelegate : Delegate := ⟨"com.example.impl", "DefaultDirectory", "inner$"⟩

/-- The class that forwards the directory. -/
def directoryForwarder : Forwarder where
  name := ⟨"com.example", "DirectoryImpl"⟩
  interface := ⟨"com.example", "Directory"⟩
  doc := some classDoc
  fields := [⟨"inner$", directoryDelegate.name, .isPrivate⟩]
  constructor :=
    { parameters := [⟨"inner$", ⟨"com.example.impl.DefaultDirectory", false⟩⟩]
      body := [.assign "inner$" "inner$"] }
  methods := directory.signatures.map (·.forward "inner$")

/-- The path of the delegate. -/
def directoryDelegatePath : CratePath :=
  ⟨[⟨"com", false⟩, ⟨"example", false⟩, ⟨"impl", true⟩, ⟨"DefaultDirectory", false⟩]⟩

/-- The implementation for that class. -/
def directoryImpl : TraitImpl where
  name := ⟨"DirectoryImpl", false⟩
  trait := ⟨[⟨"com", false⟩, ⟨"example", false⟩, ⟨"Directory", false⟩]⟩
  fields := [⟨⟨"inner_", false⟩, ⟨.path directoryDelegatePath, false⟩⟩]
  parameters := [⟨⟨"inner_", false⟩, ⟨.path directoryDelegatePath, false⟩⟩]
  initializers := [(⟨"inner_", false⟩, ⟨"inner_", false⟩)]
  functions := [
    ⟨⟨"put", false⟩,
      [⟨⟨"user_id", false⟩, ⟨.known .i32, false⟩⟩, ⟨⟨"user_id_0", false⟩, ⟨.known .i32, false⟩⟩],
      none,
      [.call ⟨[⟨"com", false⟩, ⟨"example", false⟩, ⟨"Directory", false⟩]⟩ ⟨"put", false⟩
        ⟨"inner_", false⟩ [⟨"user_id", false⟩, ⟨"user_id_0", false⟩] false]⟩,
    ⟨⟨"put_0", false⟩, [⟨⟨"self_", false⟩, ⟨.known .string, false⟩⟩],
      some ⟨.known .unit, true⟩,
      [.call ⟨[⟨"com", false⟩, ⟨"example", false⟩, ⟨"Directory", false⟩]⟩ ⟨"put_0", false⟩
        ⟨"inner_", false⟩ [⟨"self_", false⟩] true]⟩]

theorem traitImpl_directoryForwarder : directoryForwarder.traitImpl.2 = .ok directoryImpl :=
  toOption_eq_some_iff.1 (by decide +kernel)

/-- The text of that class. -/
def directoryText : String :=
  "pub struct DirectoryImpl " ++
    "\x7b inner_ : crate :: com :: example :: r#impl :: DefaultDirectory \x7d " ++
    "impl DirectoryImpl " ++
    "\x7b pub fn new (inner_ : crate :: com :: example :: r#impl :: DefaultDirectory) -> Self " ++
    "\x7b Self \x7b inner_ : inner_ \x7d \x7d \x7d " ++
    "impl crate :: com :: example :: Directory for DirectoryImpl \x7b " ++
    "fn put (& self , user_id : i32 , user_id_0 : i32) \x7b " ++
    "crate :: com :: example :: Directory :: put (& self . inner_ , user_id , user_id_0) ; \x7d " ++
    "fn put_0 (& self , self_ : String) -> std :: vec :: Vec < () > \x7b " ++
    "crate :: com :: example :: Directory :: put_0 (& self . inner_ , self_) \x7d \x7d"

theorem spell_directoryImpl : Token.spell directoryImpl.tokens = directoryText := by decide +kernel

theorem rustSource_forwards_directory :
    directory.forwarder directoryDelegate "DirectoryImpl" = .ok directoryForwarder ∧
      directoryForwarder.rustSource.2 = .ok directoryText ∧
      ∃ (signatures : List Signature) (item : TraitImpl) (receiver : Ident) (path : CratePath)
        (type : RustType), HasMethods directory.members signatures ∧
        directoryForwarder.traitImpl.2 = .ok item ∧
        item.Forwards directoryForwarder signatures directoryDelegate receiver path type ∧
        directoryText = TraitImpl.forwardingText item.name receiver item.trait path type
          (item.functions.map (·.forwardingText item.trait receiver)) := by
  have hunit : directory.forwarder directoryDelegate "DirectoryImpl" = .ok directoryForwarder := rfl
  have hnames : ∀ signature, .method signature ∈ directory.members → signature.IsNamed := by
    rintro signature hmem
    rcases List.mem_cons.1 hmem with hmem | hmem
    · obtain rfl := Member.method.inj hmem
      exact ⟨rfl, by decide, by decide⟩
    · obtain rfl := Member.method.inj (List.mem_singleton.1 hmem)
      exact ⟨rfl, by decide, by decide⟩
  have hitem : directoryForwarder.traitImpl.2 = .ok directoryImpl := traitImpl_directoryForwarder
  have htext : directoryForwarder.rustSource.2 = .ok directoryText := by
    rw [Forwarder.rustSource_snd, hitem]
    exact congrArg Except.ok spell_directoryImpl
  exact ⟨hunit, htext, rustSource_forwards hunit hnames htext⟩

end Interface

end Forwarding
