import Forwarding.Proofs.Crate.TraitImpl
import Forwarding.Crate.ModuleRoot

/-!
# Legal identifiers

Whatever a name is, its identifier is built like one.  It is a keyword of the 2021 edition only in
one way: four words that became keywords with an edition are read as plain identifiers.

* `editionKeywords`, `Ident.IsLegal`: the keywords of the 2021 edition, and what an identifier has
  to be there;
* `Ident.IsRead`: what is known of the identifier of any name; it is legal exactly if it is not one
  of the four words (`Ident.IsRead.isLegal_iff`);
* `OnlyRead`: all identifiers among tokens are such identifiers, as in a class
  (`Forwarder.onlyRead_of_traitImpl`);
* `Ident.legal_iff_not_later`: exactly which identifiers of a class or module root are legal.
-/

namespace Forwarding

open Text

/-- The strict and the reserved keywords of the 2021 edition. -/
def editionKeywords : List String :=
  ["as", "break", "const", "continue", "crate", "else", "enum", "extern", "false", "fn", "for",
    "if", "impl", "in", "let", "loop", "match", "mod", "move", "mut", "pub", "ref", "return",
    "self", "Self", "static", "struct", "super", "trait", "true", "type", "unsafe", "use", "where",
    "while", "async", "await", "dyn", "abstract", "become", "box", "do", "final", "macro",
    "override", "priv", "typeof", "unsized", "virtual", "yield", "try"]

/-- The keywords that came with an edition and are read as identifiers all the same. -/
def laterKeywords : List String := ["async", "await", "dyn", "try"]

namespace Ident

/-- The identifier is one of the 2021 edition: it is built like one, and it is no keyword unless it
is raw, which an underscore and a path keyword cannot be. -/
structure IsLegal (ident : Ident) : Prop where
  built : isIdentifierText ident.name.toList = true
  formed : ident.name ∉ withoutRawForm
  plain : ident.raw = false → ident.name ∉ editionKeywords

/-- The identifier is a keyword that came with an edition, and not raw. -/
def IsLater (ident : Ident) : Prop := ident.raw = false ∧ ident.name ∈ laterKeywords

end Ident

/-! ### Identifiers of names -/

theorem isIdentifierText_of_leadingIdentifier {text word rest : List Char}
    (h : leadingIdentifier text = some (word, rest)) : isIdentifierText word = true := by
  cases text with
  | nil => cases h
  | cons c others =>
    rw [leadingIdentifier] at h
    split_ifs at h with hstart
    obtain ⟨rfl, -⟩ := Prod.mk.inj (Option.some.inj h)
    rw [isIdentifierText, hstart, Bool.true_and]
    exact List.all_takeWhile

/-- An identifier that is read is built like one, and is no keyword that is known to the reader. -/
structure Ident.IsRead (ident : Ident) : Prop where
  built : isIdentifierText ident.name.toList = true
  formed : ident.name ∉ withoutRawForm
  plain : ident.raw = false → ident.name ∉ keywords

theorem isRead_of_leadingIdent {text rest : List Char} {ident : Ident}
    (h : leadingIdent text = some (ident, rest)) : ident.IsRead := by
  unfold leadingIdent at h
  split at h
  · split at h
    · rename_i word _ hword
      split_ifs at h with hform
      obtain ⟨rfl, -⟩ := Prod.mk.inj (Option.some.inj h)
      exact
        { built := by
            rw [String.toList_ofList]
            exact isIdentifierText_of_leadingIdentifier hword
          formed := fun hmem => hform (List.contains_iff_mem.2 hmem)
          plain := fun hraw => by cases hraw }
    · cases h
  · split at h
    · rename_i word _ hword
      split_ifs at h with hkeyword
      obtain ⟨rfl, -⟩ := Prod.mk.inj (Option.some.inj h)
      have hnot : String.ofList word ∉ "_" :: keywords := fun hmem =>
        hkeyword (List.contains_iff_mem.2 hmem)
      have hforms : withoutRawForm ⊆ "_" :: keywords := by decide
      exact
        { built := by
            rw [String.toList_ofList]
            exact isIdentifierText_of_leadingIdentifier hword
          formed := fun hmem => hnot (hforms hmem)
          plain := fun _ hmem => hnot (List.mem_cons_of_mem _ hmem) }
    · cases h

theorem isRead_of_soleIdentifier {text : List Char} {ident : Ident}
    (h : soleIdentifier text = some ident) : ident.IsRead := by
  unfold soleIdentifier at h
  split at h
  · cases h
  · split at h
    · cases h
    · rename_i hleading
      split_ifs at h
      obtain rfl := Option.some.inj h
      exact isRead_of_leadingIdent hleading

namespace Ident

/-- The identifier of a name is one that can be read. -/
theorem isRead_of_ofName {name : String} {ident : Ident} (h : Ident.ofName name = .ok ident) :
    ident.IsRead := by
  -- not `rw [ofName]`: to prove its equation the reading of the name would be evaluated
  delta Ident.ofName at h
  cases hsole : soleIdentifier (safeName name).toList with
  | some sole =>
    rw [hsole] at h
    obtain rfl := Except.ok.inj h
    exact isRead_of_soleIdentifier hsole
  | none =>
    rw [hsole] at h
    obtain ⟨rfl, hbuilt, hformed⟩ := rawIdent_eq_ok_iff.1 h
    exact ⟨hbuilt, hformed, fun hraw => by cases hraw⟩

/-- The reader knows all keywords of the edition but the later ones. -/
theorem mem_editionKeywords_iff {word : String} (h : word ∉ keywords) :
    word ∈ editionKeywords ↔ word ∈ laterKeywords := by
  have hknown : ∀ word ∈ editionKeywords, word ∈ keywords ∨ word ∈ laterKeywords := by decide
  have hlater : laterKeywords ⊆ editionKeywords := by decide
  exact ⟨fun hmem => (hknown word hmem).resolve_left h, fun hmem => hlater hmem⟩

/-- An identifier that can be read is legal unless it is a later keyword. -/
theorem IsRead.isLegal_iff {ident : Ident} (h : ident.IsRead) :
    ident.IsLegal ↔ ¬ ident.IsLater := by
  constructor
  · rintro hlegal ⟨hraw, hlater⟩
    exact hlegal.plain hraw ((mem_editionKeywords_iff (h.plain hraw)).2 hlater)
  · intro hnot
    refine ⟨h.built, h.formed, fun hraw hmem => hnot ⟨hraw, ?_⟩⟩
    exact (mem_editionKeywords_iff (h.plain hraw)).1 hmem

end Ident

/-! ### Identifiers among tokens -/

/-- All identifiers among the tokens can be read. -/
def OnlyRead (tokens : List Token) : Prop := ∀ ident, .ident ident ∈ tokens → ident.IsRead

namespace OnlyRead

variable {tokens more : List Token}

@[simp] theorem nil : OnlyRead [] := fun _ h => by cases h

@[simp] theorem cons_ident {ident : Ident} :
    OnlyRead (.ident ident :: tokens) ↔ ident.IsRead ∧ OnlyRead tokens := by
  simp [OnlyRead]

@[simp] theorem cons_keyword {word : String} :
    OnlyRead (.keyword word :: tokens) ↔ OnlyRead tokens := by
  simp [OnlyRead]

@[simp] theorem cons_mark {spelling : String} :
    OnlyRead (.mark spelling :: tokens) ↔ OnlyRead tokens := by
  simp [OnlyRead]

@[simp] theorem append : OnlyRead (tokens ++ more) ↔ OnlyRead tokens ∧ OnlyRead more := by
  simp [OnlyRead, or_imp, forall_and]

@[simp] theorem parenthesized : OnlyRead (parenthesized tokens) ↔ OnlyRead tokens := by
  simp [OnlyRead, Forwarding.parenthesized]

@[simp] theorem braced : OnlyRead (braced tokens) ↔ OnlyRead tokens := by
  simp [OnlyRead, Forwarding.braced]

theorem flatMap {α : Type} {items : List α} {f : α → List Token}
    (h : ∀ item ∈ items, OnlyRead (f item)) : OnlyRead (items.flatMap f) := by
  intro ident hident
  obtain ⟨item, hitem, hmem⟩ := List.mem_flatMap.1 hident
  exact h item hitem ident hmem

theorem separated {α : Type} {items : List α} {f : α → List Token}
    (h : ∀ item ∈ items, OnlyRead (f item)) : OnlyRead (separated (items.map f)) := by
  intro ident hident
  rcases mem_intercalate hident with hcomma | ⟨group, hgroup, hmem⟩
  · cases List.mem_singleton.1 hcomma
  · obtain ⟨item, hitem, rfl⟩ := List.mem_map.1 hgroup
    exact h item hitem ident hmem

end OnlyRead

/-- What is made of each element of a list holds of all that is made. -/
theorem forall_mem_of_mapM {α β : Type} {make : α → Except NameFault β} {P : β → Prop}
    (hmake : ∀ {source item}, make source = .ok item → P item) {sources : List α} {items : List β}
    (h : sources.mapM make = .ok items) : ∀ item ∈ items, P item := by
  intro item hitem
  obtain ⟨source, -, hsource⟩ := exists_of_mem_right (mapM_eq_ok_iff.1 h) hitem
  exact hmake hsource

theorem Ident.isRead_of_ofMemberName {name : String} {ident : Ident}
    (h : Ident.ofMemberName name = .ok ident) : ident.IsRead := by
  obtain ⟨rust, -, hrust⟩ := bind_eq_ok_iff.1 h
  exact Ident.isRead_of_ofName hrust

theorem CratePath.onlyRead_of_ofClass {name : ClassName} {path : CratePath}
    (h : CratePath.ofClass name = .ok path) : OnlyRead path.tokens := by
  obtain ⟨segments, hsegments, rfl⟩ := map_eq_ok_iff.1 h
  rw [tokens, OnlyRead.cons_keyword]
  refine OnlyRead.flatMap fun segment hsegment => ?_
  simpa using forall_mem_of_mapM Ident.isRead_of_ofName hsegments segment hsegment

theorem RustType.onlyRead_of_ofRef {ref : TypeRef} {type : RustType}
    (h : RustType.ofRef ref = .ok type) : OnlyRead type.tokens := by
  have hbase : OnlyRead type.base.tokens := by
    unfold ofRef at h
    split at h
    · rename_i known _
      obtain rfl := Except.ok.inj h
      cases known <;> simp [BaseType.tokens, KnownType.tokens]
    · obtain ⟨path, hpath, rfl⟩ := map_eq_ok_iff.1 h
      exact CratePath.onlyRead_of_ofClass hpath
  unfold tokens
  split_ifs
  · simpa using hbase
  · exact hbase

/-! ### Identifiers of a class -/

theorem Field.onlyRead_of_binding {field : Field} {binding : Binding}
    (h : field.binding = .ok binding) : OnlyRead binding.tokens := by
  obtain ⟨hname, path, hpath, htype⟩ := Field.binding_eq_ok_iff.1 h
  simpa [Binding.tokens, htype] using
    ⟨Ident.isRead_of_ofMemberName hname, CratePath.onlyRead_of_ofClass hpath⟩

theorem Parameter.onlyRead_of_binding {parameter : Parameter} {binding : Binding}
    (h : parameter.binding = .ok binding) : OnlyRead binding.tokens := by
  obtain ⟨hname, htype⟩ := Parameter.binding_eq_ok_iff.1 h
  simpa [Binding.tokens] using
    ⟨Ident.isRead_of_ofMemberName hname, RustType.onlyRead_of_ofRef htype⟩

theorem Parameter.onlyRead_of_bindingAs {parameter : Parameter} {name : String} {binding : Binding}
    (h : parameter.bindingAs name = .ok binding) : OnlyRead binding.tokens := by
  obtain ⟨hname, htype⟩ := Parameter.bindingAs_eq_ok_iff.1 h
  simpa [Binding.tokens] using ⟨Ident.isRead_of_ofName hname, RustType.onlyRead_of_ofRef htype⟩

theorem onlyRead_of_initializers {statements : List Statement} {pairs : List (Ident × Ident)}
    (h : initializers statements = .ok pairs) :
    ∀ pair ∈ pairs, OnlyRead (initializerTokens pair) := by
  induction statements generalizing pairs with
  | nil =>
    obtain rfl := Except.ok.inj h
    exact List.forall_mem_nil _
  | cons statement rest ih =>
    cases statement with
    | forward => exact ih h
    | assign field parameter =>
      simp only [initializers, bind_eq_ok_iff] at h
      obtain ⟨first, hfirst, value, hvalue, others, hothers, h⟩ := h
      obtain rfl := Except.ok.inj h
      refine List.forall_mem_cons.2 ⟨?_, ih hothers⟩
      simpa [initializerTokens] using
        ⟨Ident.isRead_of_ofMemberName hfirst, Ident.isRead_of_ofMemberName hvalue⟩

theorem isRead_of_argumentIdent {parameters : List (Parameter × String)} {argument : String}
    {ident : Ident} (h : argumentIdent parameters argument = .ok ident) : ident.IsRead := by
  unfold argumentIdent at h
  split at h
  · exact Ident.isRead_of_ofName h
  · exact Ident.isRead_of_ofMemberName h

theorem FnStatement.onlyRead_of_ofStatement {trait : CratePath} {function : Ident}
    {parameters : List (Parameter × String)} {statement : Statement} {item : FnStatement}
    (htrait : OnlyRead trait.tokens) (hfunction : function.IsRead)
    (h : FnStatement.ofStatement trait function parameters statement = .ok item) :
    OnlyRead item.tokens := by
  cases statement with
  | forward returns target method arguments =>
    simp only [ofStatement, bind_eq_ok_iff] at h
    obtain ⟨receiver, hreceiver, idents, hidents, h⟩ := h
    obtain rfl := Except.ok.inj h
    have harguments : OnlyRead (separated (idents.map fun argument => [Token.ident argument])) :=
      OnlyRead.separated fun argument hargument => by
        simpa using forall_mem_of_mapM isRead_of_argumentIdent hidents argument hargument
    have hend : OnlyRead (if returns then [] else [Token.mark ";"]) := by
      cases returns <;> simp
    simpa [tokens] using
      ⟨htrait, hfunction, ⟨Ident.isRead_of_ofMemberName hreceiver, harguments⟩, hend⟩
  | assign field parameter =>
    simp only [ofStatement, bind_eq_ok_iff] at h
    obtain ⟨first, hfirst, value, hvalue, h⟩ := h
    obtain rfl := Except.ok.inj h
    simpa [tokens] using
      ⟨Ident.isRead_of_ofMemberName hfirst, Ident.isRead_of_ofMemberName hvalue⟩

theorem FnItem.onlyRead_of_ofMethod {trait : CratePath} {method : Method} {name : String}
    {item : FnItem} (htrait : OnlyRead trait.tokens)
    (h : FnItem.ofMethod trait method name = .ok item) : OnlyRead item.tokens := by
  obtain ⟨names, -, hname, hparameters, hresult, hbody⟩ := ofMethod_eq_ok h
  have hread := Ident.isRead_of_ofName hname
  have hbindings : OnlyRead (separated (item.parameters.map Binding.tokens)) :=
    OnlyRead.separated fun binding hbinding => by
      obtain ⟨parameter, -, hparameter⟩ := exists_of_mem_right hparameters hbinding
      exact Parameter.onlyRead_of_bindingAs hparameter
  have hstatements : OnlyRead (item.body.flatMap FnStatement.tokens) :=
    OnlyRead.flatMap
      (forall_mem_of_mapM (FnStatement.onlyRead_of_ofStatement htrait hread) hbody)
  have htype : OnlyRead (resultTokens item.result) := by
    rcases hresult with ⟨-, hnone⟩ | ⟨-, type, hofRef, hsome⟩
    · simp [hnone, resultTokens]
    · simpa [hsome, resultTokens] using RustType.onlyRead_of_ofRef hofRef
  simpa [tokens] using ⟨hread, hbindings, htype, hstatements⟩

/-- All identifiers in the text of a class can be read. -/
theorem Forwarder.onlyRead_of_traitImpl {unit : Forwarder} {item : TraitImpl}
    (h : unit.traitImpl.2 = .ok item) : OnlyRead item.tokens := by
  obtain ⟨hname, htrait, hfields, hparameters, hinits, names, -, hfunctions⟩ :=
    traitImpl_eq_ok h
  have hread := Ident.isRead_of_ofName hname
  have hpath := CratePath.onlyRead_of_ofClass htrait
  have hbindings : OnlyRead (separated (item.fields.map Binding.tokens)) :=
    OnlyRead.separated (forall_mem_of_mapM Field.onlyRead_of_binding hfields)
  have harguments : OnlyRead (separated (item.parameters.map Binding.tokens)) :=
    OnlyRead.separated (forall_mem_of_mapM Parameter.onlyRead_of_binding hparameters)
  have hassigned : OnlyRead (separated (item.initializers.map initializerTokens)) :=
    OnlyRead.separated (onlyRead_of_initializers hinits)
  have hmethods : OnlyRead (item.functions.flatMap FnItem.tokens) :=
    OnlyRead.flatMap fun function hfunction => by
      obtain ⟨method, -, hmethod⟩ :=
        exists_of_mem_right (functionItems_eq_ok_iff.1 hfunctions) hfunction
      exact FnItem.onlyRead_of_ofMethod hpath hmethod
  simpa [TraitImpl.tokens] using
    ⟨hread, hbindings, hread, ⟨harguments, hassigned⟩, hpath, hread, hmethods⟩

/-! ### Identifiers of a module root -/

theorem Declaration.isRead_of_ofEntry {entry : Entry} {declaration : Declaration}
    (h : Declaration.ofEntry entry = .ok declaration) : declaration.ident.IsRead := by
  obtain ⟨ident, hident, rfl⟩ := map_eq_ok_iff.1 h
  exact Ident.isRead_of_ofName hident

/-- All identifiers in the text of a module root can be read. -/
theorem onlyRead_of_declarations {entries : List Entry} {declarations : List Declaration}
    (h : entries.mapM Declaration.ofEntry = .ok declarations) :
    OnlyRead (declarations.flatMap Declaration.tokens) := by
  refine OnlyRead.flatMap fun declaration hdeclaration => ?_
  have hread := forall_mem_of_mapM Declaration.isRead_of_ofEntry h declaration hdeclaration
  unfold Declaration.tokens
  split_ifs <;> simpa using hread

/-! ### The illegal ones -/

/-- The identifier of a name in a crate is a later keyword exactly if the name is one. -/
theorem IsCrateName.isLater_iff {name : String} (h : IsCrateName name) {ident : Ident}
    (hident : Ident.ofName name = .ok ident) : ident.IsLater ↔ name ∈ laterKeywords := by
  have hname := h.name_of_ofName hident
  refine ⟨fun hlater => hname ▸ hlater.2, fun hmem => ⟨?_, hname.symm ▸ hmem⟩⟩
  have hplain : ∀ word ∈ laterKeywords,
      isIdentifierText word.toList = true ∧ word ∉ "_" :: keywords := by decide
  -- such a name is read as it stands, so that no raw identifier is tried
  delta Ident.ofName at hident
  rw [safeName_eq_self h.word h.not_keyword, soleIdentifier_word h.word, String.ofList_toList,
    if_pos (hplain name hmem)] at hident
  obtain rfl := Except.ok.inj hident
  rfl

/-- **Exactly which identifiers are legal in the 2021 edition.**  The identifier of any name is
legal unless it is one of the four later keywords; that of a method, parameter or field in ASCII is
one exactly if its crate name is.  So it is with every identifier in the text of a class or of a
module root. -/
theorem Ident.legal_iff_not_later (name : String) (unit : Forwarder) (entries : List Entry) :
    (∀ ident, Ident.ofName name = .ok ident → (ident.IsLegal ↔ ¬ ident.IsLater)) ∧
      (isName name = true → ∀ rust, crateName name = .ok rust →
        ∀ ident, Ident.ofName rust = .ok ident → (ident.IsLegal ↔ rust ∉ laterKeywords)) ∧
      (∀ text, unit.rustSource.2 = .ok text →
        ∃ item, unit.traitImpl.2 = .ok item ∧ text = Token.spell item.tokens ∧
          ∀ ident, .ident ident ∈ item.tokens → (ident.IsLegal ↔ ¬ ident.IsLater)) ∧
      ∀ text, moduleSource entries = .ok text →
        ∃ declarations, entries.mapM Declaration.ofEntry = .ok declarations ∧
          text = Token.spell (declarations.flatMap Declaration.tokens) ∧
          ∀ ident, .ident ident ∈ declarations.flatMap Declaration.tokens →
            (ident.IsLegal ↔ ¬ ident.IsLater) := by
  refine ⟨fun ident h => (isRead_of_ofName h).isLegal_iff, ?_, ?_, ?_⟩
  · intro hname rust hrust ident hident
    have hcrate := isCrateName_of_crateName hname hrust
    rw [(isRead_of_ofName hident).isLegal_iff, hcrate.isLater_iff hident]
  · intro text htext
    rw [Forwarder.rustSource_snd] at htext
    obtain ⟨item, hitem, rfl⟩ := map_eq_ok_iff.1 htext
    exact ⟨item, hitem, rfl, fun ident hmem =>
      (Forwarder.onlyRead_of_traitImpl hitem ident hmem).isLegal_iff⟩
  · intro text htext
    obtain ⟨declarations, hdeclarations, rfl⟩ := map_eq_ok_iff.1 htext
    exact ⟨declarations, hdeclarations, rfl, fun ident hmem =>
      (onlyRead_of_declarations hdeclarations ident hmem).isLegal_iff⟩

/-- A task with the one method `await`. -/
def task : Interface where
  qualifiedName := "com.Task"
  simpleName := "Task"
  members := [.method ⟨"await", .void, []⟩]

/-- The class that forwards the task to a field of the same name. -/
def taskForwarder : Forwarder where
  name := ⟨"com", "TaskImpl"⟩
  interface := ⟨"com", "Task"⟩
  doc := some classDoc
  fields := [⟨"task", ⟨"com", "D"⟩, .isPrivate⟩]
  constructor :=
    { parameters := [⟨"task", ⟨"com.D", false⟩⟩]
      body := [.assign "task" "task"] }
  methods := task.signatures.map (·.forward "task")

/-- The implementation for that class. -/
def taskImpl : TraitImpl where
  name := ⟨"TaskImpl", false⟩
  trait := ⟨[⟨"com", false⟩, ⟨"Task", false⟩]⟩
  fields := [⟨⟨"task", false⟩, ⟨.path ⟨[⟨"com", false⟩, ⟨"D", false⟩]⟩, false⟩⟩]
  parameters := [⟨⟨"task", false⟩, ⟨.path ⟨[⟨"com", false⟩, ⟨"D", false⟩]⟩, false⟩⟩]
  initializers := [(⟨"task", false⟩, ⟨"task", false⟩)]
  functions := [
    ⟨⟨"await", false⟩, [], none,
      [.call ⟨[⟨"com", false⟩, ⟨"Task", false⟩]⟩ ⟨"await", false⟩ ⟨"task", false⟩ [] false]⟩]

theorem Ident.legal_iff_not_later_await :
    Ident.ofName "await" = .ok ⟨"await", false⟩ ∧
      ((⟨"await", false⟩ : Ident).IsLegal ↔ ¬ (⟨"await", false⟩ : Ident).IsLater) ∧
      taskForwarder.rustSource.2 = .ok (Token.spell taskImpl.tokens) ∧
      ∃ item, taskForwarder.traitImpl.2 = .ok item ∧
        Token.spell taskImpl.tokens = Token.spell item.tokens ∧
        ∀ ident, .ident ident ∈ item.tokens → (ident.IsLegal ↔ ¬ ident.IsLater) := by
  have hident : Ident.ofName "await" = .ok ⟨"await", false⟩ := rfl
  have hitem : taskForwarder.traitImpl.2 = .ok taskImpl := rfl
  have htext : taskForwarder.rustSource.2 = .ok (Token.spell taskImpl.tokens) := by
    rw [Forwarder.rustSource_snd, hitem]
    rfl
  obtain ⟨hname, -, hunit, -⟩ := legal_iff_not_later "await" taskForwarder []
  exact ⟨hident, hname _ hident, htext, hunit _ htext⟩

/-- The name of the only function of that class, a keyword of the edition, is printed as a plain
identifier. -/
theorem Ident.not_isLegal_await :
    task.forwarder ⟨"com", "D", "task"⟩ "TaskImpl" = .ok taskForwarder ∧
      taskForwarder.traitImpl.2 = .ok taskImpl ∧
      taskForwarder.rustSource.2 = .ok (Token.spell taskImpl.tokens) ∧
      ∃ ident, Ident.ofName "await" = .ok ident ∧ .ident ident ∈ taskImpl.tokens ∧
        ident.text = "await" ∧ "await" ∈ editionKeywords ∧ ¬ ident.IsLegal := by
  have hitem : taskForwarder.traitImpl.2 = .ok taskImpl := rfl
  refine ⟨rfl, hitem, ?_, ⟨"await", false⟩, rfl, by decide, rfl, by decide, ?_⟩
  · rw [Forwarder.rustSource_snd, hitem]
    rfl
  · intro hlegal
    exact hlegal.plain rfl (by decide)

end Forwarding
