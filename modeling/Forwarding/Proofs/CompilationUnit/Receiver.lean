import Forwarding.CompilationUnit.Source
import Forwarding.Proofs.Generation

/-!
# What the receiver of a forwarding call denotes

A call is passed on to the name of the delegate's field as it stands.  In the body of a method a
parameter hides a field of the same name, so the name reaches the field exactly in those methods
that have no parameter of that name.

* `Method.lookup`: what a simple name denotes in a method of a class;
* `Interface.receiver_denotes_field_iff`: when the receiver denotes the delegate's field, and what
  it denotes otherwise;
* `Interface.receiver_captured`: a method whose calls go to its own parameter.
-/

namespace Forwarding

/-- What a simple name can denote in the body of a method. -/
inductive Variable where
  | parameter (parameter : Parameter)
  | field (field : Field)
  deriving DecidableEq, Repr

namespace Method

/-- What a simple name denotes in the body of a method of the class.  A parameter hides a field of
the same name. -/
def lookup (method : Method) (unit : Forwarder) (name : String) : Option Variable :=
  match method.parameters.find? (·.name == name) with
  | some parameter => some (.parameter parameter)
  | none => (unit.fields.find? (·.name == name)).map .field

variable {method : Method} {unit : Forwarder} {name : String}

theorem lookup_of_mem (h : name ∈ method.parameters.map (·.name)) :
    ∃ parameter ∈ method.parameters, parameter.name = name ∧
      method.lookup unit name = some (.parameter parameter) := by
  unfold lookup
  cases hfind : method.parameters.find? (·.name == name) with
  | none =>
    obtain ⟨parameter, hmem, hname⟩ := List.mem_map.1 h
    have := List.find?_eq_none.1 hfind parameter hmem
    simp [hname] at this
  | some parameter =>
    have hname : parameter.name = name := by simpa using List.find?_some hfind
    exact ⟨parameter, List.mem_of_find?_eq_some hfind, hname, rfl⟩

theorem lookup_of_not_mem (h : name ∉ method.parameters.map (·.name)) :
    method.lookup unit name = (unit.fields.find? (·.name == name)).map .field := by
  have hfind : method.parameters.find? (·.name == name) = none := by
    rw [List.find?_eq_none]
    intro parameter hmem hname
    exact h (List.mem_map.2 ⟨parameter, hmem, by simpa using hname⟩)
  rw [lookup, hfind]

end Method

namespace Interface

/-- **The receiver of the call in a generated method denotes the delegate's field exactly if no
parameter of the method has the name of the field.**  Otherwise it denotes such a parameter. -/
theorem receiver_denotes_field_iff {interface : Interface} {delegate : Delegate} {output : String}
    {unit : Forwarder} (hunit : interface.forwarder delegate output = .ok unit)
    {method : Method} (hmethod : method ∈ unit.methods) :
    ∃ returns receiver,
      method.body = [.forward returns receiver method.name (method.parameters.map (·.name))] ∧
      method.body.map Statement.javaLine =
        [(if returns then "return " else "") ++ receiver ++ "." ++ method.name ++ "(" ++
          callArguments (method.parameters.map (·.name)) ++ ");"] ∧
      (method.lookup unit receiver =
          some (.field ⟨delegate.fieldName, delegate.name, .isPrivate⟩) ↔
        delegate.fieldName ∉ method.parameters.map (·.name)) ∧
      (delegate.fieldName ∈ method.parameters.map (·.name) →
        ∃ parameter ∈ method.parameters, parameter.name = delegate.fieldName ∧
          method.lookup unit receiver = some (.parameter parameter)) := by
  obtain ⟨-, himplements⟩ := implements_of_forwarder hunit
  obtain ⟨signature, -, hforwards⟩ := himplements.exists_forwards hmethod
  obtain ⟨returns, -, hbody⟩ := hforwards.body
  rw [← hforwards.name, ← hforwards.parameters] at hbody
  refine ⟨returns, delegate.fieldName, hbody, by rw [hbody]; rfl, ?_, Method.lookup_of_mem⟩
  constructor
  · intro hlookup hmem
    obtain ⟨parameter, -, -, hparameter⟩ := Method.lookup_of_mem hmem
    rw [hparameter] at hlookup
    cases hlookup
  · intro hmem
    rw [Method.lookup_of_not_mem hmem, himplements.fields]
    simp [Delegate.name]

/-- A listener with two methods, the first of which has a parameter that is called `delegate`. -/
def listener : Interface where
  qualifiedName := "com.example.Listener"
  simpleName := "Listener"
  members := [
    .method ⟨"attach", .void, [⟨"delegate", ⟨"com.example.Listener", false⟩⟩]⟩,
    .method ⟨"detach", ⟨"int", false⟩, [⟨"peer", ⟨"com.example.Listener", false⟩⟩]⟩]

/-- A delegate whose field is called `delegate`. -/
def listenerDelegate : Delegate := ⟨"com.example", "DefaultListener", "delegate"⟩

/-- The class that forwards the listener. -/
def listenerForwarder : Forwarder where
  name := ⟨"com.example", "ListenerImpl"⟩
  interface := ⟨"com.example", "Listener"⟩
  doc := some classDoc
  fields := [⟨"delegate", listenerDelegate.name, .isPrivate⟩]
  constructor :=
    { parameters := [⟨"delegate", ⟨"com.example.DefaultListener", false⟩⟩]
      body := [.assign "delegate" "delegate"] }
  methods := [
    Signature.forward ⟨"attach", .void, [⟨"delegate", ⟨"com.example.Listener", false⟩⟩]⟩ "delegate",
    Signature.forward ⟨"detach", ⟨"int", false⟩, [⟨"peer", ⟨"com.example.Listener", false⟩⟩]⟩
      "delegate"]

theorem receiver_denotes_field_iff_listener :
    listener.forwarder listenerDelegate "ListenerImpl" = .ok listenerForwarder ∧
      ∀ method ∈ listenerForwarder.methods, ∃ returns receiver,
        method.body = [.forward returns receiver method.name (method.parameters.map (·.name))] ∧
        (method.lookup listenerForwarder receiver =
            some (.field ⟨"delegate", listenerDelegate.name, .isPrivate⟩) ↔
          "delegate" ∉ method.parameters.map (·.name)) := by
  have hunit : listener.forwarder listenerDelegate "ListenerImpl" = .ok listenerForwarder := rfl
  refine ⟨hunit, fun method hmethod => ?_⟩
  obtain ⟨returns, receiver, hbody, -, hiff, -⟩ := receiver_denotes_field_iff hunit hmethod
  exact ⟨returns, receiver, hbody, hiff⟩

/-- The calls of `attach` go to its own parameter and not to the delegate. -/
theorem receiver_captured :
    listener.forwarder listenerDelegate "ListenerImpl" = .ok listenerForwarder ∧
      ∃ method ∈ listenerForwarder.methods,
        method.body = [.forward false "delegate" "attach" ["delegate"]] ∧
        method.body.map Statement.javaLine = ["delegate.attach(delegate);"] ∧
        method.lookup listenerForwarder "delegate" =
          some (.parameter ⟨"delegate", ⟨"com.example.Listener", false⟩⟩) :=
  ⟨rfl, _, List.mem_cons_self, by decide, by decide, by decide⟩

end Interface

end Forwarding
