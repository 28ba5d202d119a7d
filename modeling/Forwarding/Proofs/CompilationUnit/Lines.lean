import Forwarding.Proofs.Ascending
import Forwarding.Proofs.ClassName
import Forwarding.Proofs.CompilationUnit.Template

/-!
# The lines of a Java text

A Java text ends each of its lines with a line feed.  Where no name that goes into it has a line
feed of its own, its lines are those that were printed.

* `linesOf`: the lines of a text;
* `linesOf_unlines`: lines without line feeds are the lines of their text;
* `Forwarder.names`, `Forwarder.IsFeedless`: the names in a class, none with a line feed;
* `Forwarder.linesOf_javaSource`: the lines of the text of such a class.
-/

namespace Forwarding

/-- The lines of a text, each of which is ended by a line feed. -/
def linesOf (text : String) : List String := (Text.stringPieces '\n' text).dropLast

/-- No line has a line feed. -/
def NoFeeds (lines : List String) : Prop := ∀ line ∈ lines, '\n' ∉ line.toList

theorem noFeeds_nil : NoFeeds [] := List.forall_mem_nil _

theorem noFeeds_cons {line : String} {lines : List String} :
    NoFeeds (line :: lines) ↔ '\n' ∉ line.toList ∧ NoFeeds lines := List.forall_mem_cons

theorem noFeeds_append {first second : List String} :
    NoFeeds (first ++ second) ↔ NoFeeds first ∧ NoFeeds second := List.forall_mem_append

theorem toList_unlines_cons (line : String) (lines : List String) :
    (unlines (line :: lines)).toList = line.toList ++ '\n' :: (unlines lines).toList := by
  simp [unlines]

/-- After the last line feed of a text of lines nothing is left. -/
theorem stringPieces_unlines {lines : List String} (h : NoFeeds lines) :
    Text.stringPieces '\n' (unlines lines) = lines ++ [""] := by
  induction lines with
  | nil => rfl
  | cons line rest ih =>
    obtain ⟨hline, hrest⟩ := noFeeds_cons.1 h
    have hsole : Text.pieces (· == '\n') line.toList = [line.toList] :=
      Text.pieces_of_not_mem fun c hc => beq_eq_false_iff_ne.2 fun hfeed => hline (hfeed ▸ hc)
    rw [Text.stringPieces, toList_unlines_cons, Text.pieces_append rfl, hsole, List.map_append,
      ← Text.stringPieces, ih hrest]
    simp

theorem linesOf_unlines {lines : List String} (h : NoFeeds lines) :
    linesOf (unlines lines) = lines := by
  rw [linesOf, stringPieces_unlines h, List.dropLast_concat]

/-! ### Names in a class -/

/-- The names in a statement. -/
def Statement.names : Statement → List String
  | .assign field parameter => [field, parameter]
  | .forward _ target method arguments => target :: method :: arguments

/-- The names of parameters and in the statements of a body. -/
def bodyNames (parameters : List Parameter) (body : List Statement) : List String :=
  parameters.map (·.name) ++ body.flatMap Statement.names

namespace Forwarder

/-- All names in a class: its own and those of its members, and the qualified names of the classes
that it mentions. -/
def names (unit : Forwarder) : List String :=
  [unit.name.package, unit.name.simpleName] ++ unit.references.map (·.qualified) ++
    unit.fields.map (·.name) ++ bodyNames unit.constructor.parameters unit.constructor.body ++
    unit.methods.flatMap fun method => method.name :: bodyNames method.parameters method.body

/-- No name in the class has a line feed. -/
def IsFeedless (unit : Forwarder) : Prop := ∀ name ∈ unit.names, '\n' ∉ name.toList

/-- What there is to check of the names in a class, part by part. -/
theorem isFeedless_iff {unit : Forwarder} :
    unit.IsFeedless ↔
      '\n' ∉ unit.name.package.toList ∧ '\n' ∉ unit.name.simpleName.toList ∧
        (∀ name ∈ unit.references, '\n' ∉ name.qualified.toList) ∧
        (∀ field ∈ unit.fields, '\n' ∉ field.name.toList) ∧
        (∀ name ∈ bodyNames unit.constructor.parameters unit.constructor.body,
          '\n' ∉ name.toList) ∧
        ∀ method ∈ unit.methods, '\n' ∉ method.name.toList ∧
          ∀ name ∈ bodyNames method.parameters method.body, '\n' ∉ name.toList := by
  simp only [IsFeedless, names, List.cons_append, List.nil_append, List.forall_mem_cons,
    List.forall_mem_append, List.forall_mem_map, List.forall_mem_flatMap, and_assoc]

end Forwarder

/-! ### Fixed text -/

theorem TypeRef.isBuiltin_iff {type : TypeRef} :
    type.isBuiltin = true ↔ type.className ∈ "void" :: primitives := by
  simp [isBuiltin]

theorem TypeRef.feed_not_mem_builtin :
    ∀ className ∈ "void" :: primitives, '\n' ∉ className.toList := by
  simp [primitives]

theorem feed_mem_indented {steps : Nat} {line : String} :
    '\n' ∈ (indented steps line).toList ↔ '\n' ∈ line.toList := by
  simp [indented]

/-- No fixed text of a line has a line feed. -/
def FixedLine (line : List Piece) : Prop := ∀ fixed, .text fixed ∈ line → '\n' ∉ fixed.toList

section FixedLine

theorem fixedLine_nil : FixedLine [] := fun _ h => by cases h

theorem fixedLine_text {fixed : String} {line : List Piece} :
    FixedLine (.text fixed :: line) ↔ '\n' ∉ fixed.toList ∧ FixedLine line := by
  simp [FixedLine, or_imp, forall_and]

theorem fixedLine_mention {name : ClassName} {line : List Piece} :
    FixedLine (.mention name :: line) ↔ FixedLine line := by
  simp [FixedLine]

theorem fixedLine_append {first second : List Piece} :
    FixedLine (first ++ second) ↔ FixedLine first ∧ FixedLine second := by
  simp [FixedLine, or_imp, forall_and]

theorem fixedLine_intercalate {mark : String} (hmark : '\n' ∉ mark.toList)
    {parts : List (List Piece)} (h : ∀ part ∈ parts, FixedLine part) :
    FixedLine ([Piece.text mark].intercalate parts) := by
  intro fixed hfixed
  rcases Text.mem_intercalate hfixed with hsame | ⟨part, hpart, hmem⟩
  · rwa [Piece.text.inj (List.mem_singleton.1 hsame)]
  · exact h part hpart fixed hmem

theorem fixedLine_type (type : TypeRef) : FixedLine type.pieces := by
  have hbuiltin : type.isBuiltin = true → '\n' ∉ type.className.toList := by
    rw [TypeRef.isBuiltin_iff]
    exact TypeRef.feed_not_mem_builtin type.className
  unfold TypeRef.pieces
  split_ifs with hclass
  · exact fixedLine_text.2 ⟨hbuiltin hclass, fixedLine_text.2 ⟨by decide, fixedLine_nil⟩⟩
  · exact fixedLine_text.2 ⟨hbuiltin hclass, fixedLine_nil⟩
  · exact fixedLine_mention.2 (fixedLine_text.2 ⟨by decide, fixedLine_nil⟩)
  · exact fixedLine_mention.2 fixedLine_nil

theorem fixedLine_parameters {parameters : List Parameter}
    (h : ∀ parameter ∈ parameters, '\n' ∉ parameter.name.toList) :
    FixedLine (parameterPieces parameters) := by
  refine fixedLine_intercalate (by decide) (List.forall_mem_map.2 fun parameter hmem => ?_)
  refine fixedLine_append.2 ⟨fixedLine_type parameter.type, fixedLine_text.2 ⟨?_, fixedLine_nil⟩⟩
  simpa using h parameter hmem

theorem feed_not_mem_javaLine {statement : Statement}
    (h : ∀ name ∈ statement.names, '\n' ∉ name.toList) : '\n' ∉ statement.javaLine.toList := by
  cases statement with
  | assign field parameter =>
    simp only [Statement.names, List.forall_mem_cons] at h
    simp [Statement.javaLine, h.1, h.2.1]
  | forward returns target method arguments =>
    simp only [Statement.names, List.forall_mem_cons] at h
    have harguments : '\n' ∉ (callArguments arguments).toList :=
      Text.not_mem_intercalate (by decide) h.2.2
    cases returns <;> simp [Statement.javaLine, h.1, h.2.1, harguments]

/-- The lines of a constructor or method have no line feeds besides those of its head. -/
theorem fixedLine_bodyTemplate {head : List Piece} {parameters : List Parameter}
    {body : List Statement} (hhead : FixedLine head)
    (h : ∀ name ∈ bodyNames parameters body, '\n' ∉ name.toList) :
    ∀ line ∈ bodyTemplate head body, FixedLine line := by
  have hopen : FixedLine (.text (indented 1 "") :: head ++ [.text " \x7b"]) :=
    fixedLine_append.2 ⟨fixedLine_text.2 ⟨by decide, hhead⟩,
      fixedLine_text.2 ⟨by decide, fixedLine_nil⟩⟩
  have hclose : FixedLine [.text (indented 1 "\x7d")] :=
    fixedLine_text.2 ⟨by decide, fixedLine_nil⟩
  unfold bodyTemplate
  refine List.forall_mem_append.2
    ⟨List.forall_mem_cons.2 ⟨hopen, List.forall_mem_map.2 fun statement hmem => ?_⟩,
      List.forall_mem_singleton.2 hclose⟩
  refine fixedLine_text.2 ⟨?_, fixedLine_nil⟩
  rw [feed_mem_indented]
  exact feed_not_mem_javaLine fun name hname =>
    h name (List.mem_append_right _ (List.mem_flatMap.2 ⟨statement, hmem, hname⟩))

theorem fixedLine_constructor {constructor : Constructor} {simpleName : String}
    (hname : '\n' ∉ simpleName.toList)
    (h : ∀ name ∈ bodyNames constructor.parameters constructor.body, '\n' ∉ name.toList) :
    ∀ line ∈ constructor.template simpleName, FixedLine line := by
  refine fixedLine_bodyTemplate ?_ h
  refine fixedLine_append.2 ⟨fixedLine_text.2 ⟨?_, fixedLine_parameters fun parameter hmem =>
    h _ (List.mem_append_left _ (List.mem_map_of_mem hmem))⟩,
    fixedLine_text.2 ⟨by decide, fixedLine_nil⟩⟩
  cases constructor.modifier <;> simp [Modifier.keyword, hname]

theorem fixedLine_method {method : Method} (hname : '\n' ∉ method.name.toList)
    (h : ∀ name ∈ bodyNames method.parameters method.body, '\n' ∉ name.toList) :
    ∀ line ∈ method.template, FixedLine line := by
  unfold Method.template
  refine List.forall_mem_append.2 ⟨?_, fixedLine_bodyTemplate ?_ h⟩
  · split_ifs
    · exact List.forall_mem_singleton.2 (fixedLine_text.2 ⟨by decide, fixedLine_nil⟩)
    · exact List.forall_mem_nil _
  · have hparameters := fixedLine_parameters fun parameter hmem =>
      h _ (List.mem_append_left _ (List.mem_map_of_mem hmem))
    have hmodifier : '\n' ∉ (method.modifier.keyword ++ " ").toList := by
      cases method.modifier <;> decide
    simp only [List.cons_append, fixedLine_text, fixedLine_append, fixedLine_type, hparameters,
      fixedLine_nil, hmodifier]
    simp [hname]

end FixedLine

/-! ### The lines of a class -/

/-- Lines of fixed text without line feeds have none if the classes they mention have none. -/
theorem noFeeds_spell {write : ClassName → String} {lines : List (List Piece)}
    (hlines : ∀ line ∈ lines, FixedLine line)
    (hwrite : ∀ name ∈ mentions lines, '\n' ∉ (write name).toList) :
    NoFeeds (lines.map (spellLine write)) := by
  refine List.forall_mem_map.2 fun line hline hfeed => ?_
  obtain ⟨piece, hpiece, hmem⟩ : ∃ piece ∈ line, '\n' ∈ (piece.spell write).toList := by
    simpa [spellLine, String.toList_join] using hfeed
  cases piece with
  | text fixed => exact hlines line hline fixed hpiece hmem
  | mention name => exact hwrite name (mem_mentions_iff.2 ⟨line, hline, hpiece⟩) hmem

theorem noFeeds_packageLines {package : String} (h : '\n' ∉ package.toList) :
    NoFeeds (packageLines package) := by
  unfold packageLines
  split_ifs
  · exact noFeeds_nil
  · simp [noFeeds_cons, noFeeds_nil, h]

theorem noFeeds_importLines {scope : Scope} (h : NoFeeds scope.imports) :
    NoFeeds scope.importLines := by
  unfold Scope.importLines
  split_ifs
  · exact noFeeds_nil
  · refine noFeeds_append.2 ⟨List.forall_mem_map.2 fun imported himported => ?_,
      noFeeds_cons.2 ⟨by decide, noFeeds_nil⟩⟩
    simpa using h imported himported

theorem mem_of_mem_trimEnd {line : List Char} {c : Char} (h : c ∈ Text.trimEnd line) :
    c ∈ line := by
  unfold Text.trimEnd at h
  exact List.mem_reverse.1 ((List.dropWhile_sublist _).subset (List.mem_reverse.1 h))

/-- The comment is cut at its line feeds. -/
theorem noFeeds_commentLines (doc : Option String) : NoFeeds (commentLines doc) := by
  cases doc with
  | none => exact noFeeds_nil
  | some text =>
    have hlines : ∀ line ∈ docLines text, '\n' ∉ line := by
      intro line hline hfeed
      have hpiece : line ∈ Text.pieces (· == '\n') text.toList := by
        unfold docLines at hline
        dsimp only at hline
        split_ifs at hline
        · exact (List.dropLast_sublist _).subset hline
        · exact hline
      exact absurd (Text.separator_not_mem_pieces hpiece '\n' hfeed) (by decide)
    refine noFeeds_append.2 ⟨noFeeds_cons.2 ⟨by decide, List.forall_mem_map.2 ?_⟩,
      noFeeds_cons.2 ⟨by decide, noFeeds_nil⟩⟩
    intro line hline hfeed
    rw [commentLine, String.toList_ofList] at hfeed
    rcases List.mem_append.1 (mem_of_mem_trimEnd hfeed) with hmark | hmem
    · exact absurd hmark (by decide)
    · exact hlines line hline hmem

theorem Scope.mem_imports_iff {unit : Forwarder} {imported : String} :
    imported ∈ (Scope.of unit).imports ↔
      ∃ name ∈ unit.references, contested (unit.name :: unit.references) name.simpleName = false ∧
        visible unit.name.package name = false ∧ name.qualified = imported := by
  simp only [Scope.of, mem_ascending, List.mem_map, List.mem_filter, Bool.not_eq_true', and_assoc]

namespace Forwarder

variable {unit : Forwarder}

/-- No line after the imports has fixed text with a line feed. -/
theorem IsFeedless.fixedLine_template (h : unit.IsFeedless) :
    ∀ line ∈ unit.template, FixedLine line := by
  obtain ⟨-, hsimple, -, hfields, hconstructor, hmethods⟩ := isFeedless_iff.1 h
  have hhead : FixedLine [.text (unit.modifier.keyword ++ " class " ++ unit.name.simpleName ++
      " implements "), .mention unit.interface, .text " \x7b"] := by
    refine fixedLine_text.2 ⟨?_, fixedLine_mention.2
      (fixedLine_text.2 ⟨by decide, fixedLine_nil⟩)⟩
    cases unit.modifier <;> simp [Modifier.keyword, hsimple]
  have hfield : ∀ field ∈ unit.fields, FixedLine field.template := by
    intro field hmem
    refine fixedLine_text.2 ⟨?_, fixedLine_mention.2 (fixedLine_text.2 ⟨?_, fixedLine_nil⟩)⟩
    · cases field.modifier <;> decide
    · simpa using hfields field hmem
  have hclose : FixedLine [.text "\x7d"] := fixedLine_text.2 ⟨by decide, fixedLine_nil⟩
  unfold template
  simp only [List.forall_mem_append, List.forall_mem_cons, List.forall_mem_map,
    List.forall_mem_flatMap, List.not_mem_nil, false_implies, implies_true, and_true]
  exact ⟨⟨⟨⟨⟨fun line hline => fixedLine_text.2
    ⟨noFeeds_commentLines unit.doc line hline, fixedLine_nil⟩, hhead⟩, hfield⟩, fixedLine_nil,
    fixedLine_constructor hsimple hconstructor⟩, fun method hmem =>
      ⟨fixedLine_nil, fixedLine_method (hmethods method hmem).1 (hmethods method hmem).2⟩⟩, hclose⟩

/-- A class is written by its simple name or by its qualified one. -/
theorem feed_not_mem_className {scope : Scope} {name : ClassName}
    (h : '\n' ∉ name.qualified.toList) : '\n' ∉ (scope.className name).toList := by
  unfold Scope.className
  split_ifs
  · refine fun hfeed => h ?_
    by_cases hpackage : name.package = ""
    · rwa [ClassName.qualified_of_default hpackage]
    · rw [ClassName.qualified_of_package hpackage, String.toList_append]
      exact List.mem_append_right _ hfeed
  · exact h

theorem IsFeedless.noFeeds_javaLines (h : unit.IsFeedless) : NoFeeds unit.javaLines := by
  obtain ⟨hpackage, -, hreferences, -⟩ := isFeedless_iff.1 h
  have himports : NoFeeds (Scope.of unit).imports := by
    intro imported himported
    obtain ⟨name, hname, -, -, rfl⟩ := Scope.mem_imports_iff.1 himported
    exact hreferences name hname
  rw [javaLines_eq, noFeeds_append, noFeeds_append]
  refine ⟨⟨noFeeds_packageLines hpackage, noFeeds_importLines himports⟩,
    noFeeds_spell h.fixedLine_template fun name hname => ?_⟩
  rw [mentions_template] at hname
  exact feed_not_mem_className (hreferences name hname)

/-- The lines of the text of a class are those that are printed. -/
theorem linesOf_javaSource (h : unit.IsFeedless) : linesOf unit.javaSource = unit.javaLines :=
  linesOf_unlines h.noFeeds_javaLines

end Forwarder

end Forwarding
