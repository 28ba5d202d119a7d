import Forwarding.Crate.ModuleRoot
import Forwarding.Crate.TraitImpl
import Forwarding.Proofs.Pointwise

/-!
# The layout of Rust texts

Tokens are written with a blank between each two, but none on the inner side of a parenthesis.  So
what is written of several parts is laid out from what is written of each.

* `Token.IsSolid`: tokens that have a blank on both sides;
* `Token.spell_append`, `Token.spell_flatten`, `Token.spell_parenthesized`, `spell_braced`,
  `spell_listed`: how parts are joined;
* `CratePath.text`, `RustType.text`, `Binding.text`: paths, types and parameters as texts;
* `FnStatement.spell_call`, `FnItem.spell_headTokens`, `TraitImpl.spell_newTokens`: the parts of a
  function and of an implementation as texts;
* `Declaration.text`, `moduleText`: the declarations of a module root as a text;
* `moduleSource_eq_ok_iff`: the text of a module root is that of the declarations of its entries.
-/

namespace Forwarding

namespace Token

/-! ### Joining tokens -/

/-- The tokens can follow a blank and be followed by one: there are some, the first does not close a
parenthesis and the last does not open one. -/
@[mk_iff]
structure IsSolid (tokens : List Token) : Prop where
  ne_nil : tokens ≠ []
  first : tokens.head? ≠ some .closeParen
  last : tokens.getLast? ≠ some .openParen

theorem isSolid_singleton {token : Token} (hclose : token ≠ .closeParen)
    (hopen : token ≠ .openParen) : IsSolid [token] := by
  simp [isSolid_iff, hclose, hopen]

theorem isSolid_parenthesized (tokens : List Token) : IsSolid (parenthesized tokens) where
  ne_nil := by simp [parenthesized]
  first := by simp [parenthesized]
  last := by rw [parenthesized, List.getLast?_concat]; simp

theorem isSolid_braced (tokens : List Token) : IsSolid (braced tokens) where
  ne_nil := by simp [braced]
  first := by simp [braced]
  last := by rw [braced, List.getLast?_concat]; simp

theorem IsSolid.exists_cons {tokens : List Token} (h : IsSolid tokens) :
    ∃ token rest, tokens = token :: rest ∧ token ≠ .closeParen := by
  obtain ⟨token, rest, rfl⟩ := List.exists_cons_of_ne_nil h.ne_nil
  exact ⟨token, rest, rfl, by simpa using h.first⟩

theorem IsSolid.exists_append {tokens : List Token} (h : IsSolid tokens) :
    ∃ front token, tokens = front ++ [token] ∧ token ≠ .openParen := by
  obtain ⟨front, token, rfl⟩ := (List.eq_nil_or_concat' tokens).resolve_left h.ne_nil
  exact ⟨front, token, rfl, by simpa using h.last⟩

theorem IsSolid.append {first second : List Token} (h : IsSolid first) (h' : IsSolid second) :
    IsSolid (first ++ second) where
  ne_nil := List.append_ne_nil_of_left_ne_nil h.ne_nil _
  first := List.head?_append_of_ne_nil _ h.ne_nil ▸ h.first
  last := List.getLast?_append_of_ne_nil _ h'.ne_nil ▸ h'.last

theorem IsSolid.cons {token : Token} {tokens : List Token} (h : IsSolid tokens)
    (hclose : token ≠ .closeParen) (hopen : token ≠ .openParen) : IsSolid (token :: tokens) :=
  (isSolid_singleton hclose hopen).append h

theorem isSolid_flatten {groups : List (List Token)} (h : ∀ group ∈ groups, IsSolid group)
    (hne : groups ≠ []) : IsSolid groups.flatten := by
  induction groups with
  | nil => contradiction
  | cons group rest ih =>
    obtain ⟨hgroup, hrest⟩ := List.forall_mem_cons.1 h
    rw [List.flatten_cons]
    by_cases hnil : rest = []
    · rwa [hnil, List.flatten_nil, List.append_nil]
    · exact hgroup.append (ih hrest hnil)

/-- Between two tokens that follow each other stands their gap. -/
theorem spell_append_cons (front : List Token) (token next : Token) (rest : List Token) :
    spell (front ++ token :: next :: rest) =
      spell (front ++ [token]) ++ token.gap next ++ spell (next :: rest) := by
  induction front with
  | nil => rfl
  | cons first front ih =>
    cases front with
    | nil => simp [spell, String.append_assoc]
    | cons second front =>
      simp only [List.cons_append, spell] at ih ⊢
      rw [ih]
      simp only [String.append_assoc]

theorem gap_of_solid {token next : Token} (hopen : token ≠ .openParen)
    (hclose : next ≠ .closeParen) : token.gap next = " " := by
  cases token <;> cases next <;> first | rfl | contradiction

theorem spell_append {first second : List Token} (h : IsSolid first) (h' : IsSolid second) :
    spell (first ++ second) = spell first ++ " " ++ spell second := by
  obtain ⟨front, token, rfl, hopen⟩ := h.exists_append
  obtain ⟨next, rest, rfl, hclose⟩ := h'.exists_cons
  rw [List.append_assoc, List.singleton_append, spell_append_cons, gap_of_solid hopen hclose]

theorem spell_cons {token : Token} {tokens : List Token} (hopen : token ≠ .openParen)
    (h : IsSolid tokens) : spell (token :: tokens) = token.text ++ " " ++ spell tokens := by
  obtain ⟨next, rest, rfl, hclose⟩ := h.exists_cons
  rw [spell, gap_of_solid hopen hclose]

/-- Groups that follow each other have a blank between each two. -/
theorem spell_flatten {groups : List (List Token)} (h : ∀ group ∈ groups, IsSolid group) :
    spell groups.flatten = " ".intercalate (groups.map spell) := by
  induction groups with
  | nil => rfl
  | cons group rest ih =>
    obtain ⟨hgroup, hrest⟩ := List.forall_mem_cons.1 h
    cases rest with
    | nil => simp
    | cons next rest =>
      rw [List.flatten_cons, spell_append hgroup (isSolid_flatten hrest (by simp)), ih hrest]
      simp

theorem spell_parenthesized (tokens : List Token) :
    spell (parenthesized tokens) = "(" ++ spell tokens ++ ")" := by
  have hclose : spell (tokens ++ [.closeParen]) = spell tokens ++ ")" := by
    rcases List.eq_nil_or_concat' tokens with rfl | ⟨front, last, rfl⟩
    · rfl
    · have hgap : last.gap .closeParen = "" := by cases last <;> rfl
      rw [List.append_assoc, List.singleton_append, spell_append_cons, hgap, String.append_empty]
      rfl
  have hopen : spell (parenthesized tokens) = "(" ++ "" ++ spell (tokens ++ [.closeParen]) := by
    unfold parenthesized
    rcases tokens with _ | ⟨token, tokens⟩ <;> rfl
  rw [hopen, hclose, String.append_empty, String.append_assoc]

end Token

open Token

/-- Items in braces, with a blank between each two. -/
def inBraces (items : List String) : String := " ".intercalate ("\x7b" :: items ++ ["\x7d"])

theorem spell_braced {groups : List (List Token)} (h : ∀ group ∈ groups, IsSolid group) :
    spell (braced groups.flatten) = inBraces (groups.map spell) := by
  have hbrace : ∀ brace, IsSolid [.mark brace] := fun brace =>
    isSolid_singleton (by simp) (by simp)
  have hgroups : ∀ group ∈ [.mark "\x7b"] :: groups ++ [[.mark "\x7d"]], IsSolid group :=
    List.forall_mem_append.2
      ⟨List.forall_mem_cons.2 ⟨hbrace _, h⟩, List.forall_mem_singleton.2 (hbrace _)⟩
  have hspell := spell_flatten hgroups
  simpa [braced, inBraces, spell, Token.text] using hspell

theorem spell_braced_singleton {group : List Token} (h : IsSolid group) :
    spell (braced group) = inBraces [spell group] := by
  have hspell := spell_braced (List.forall_mem_singleton.2 h)
  rwa [List.flatten_singleton] at hspell

theorem spell_braced_pair {first second : List Token} (h : IsSolid first) (h' : IsSolid second) :
    spell (braced (first ++ second)) = inBraces [spell first, spell second] := by
  have hspell := spell_braced (List.forall_mem_cons.2 ⟨h, List.forall_mem_singleton.2 h'⟩)
  rwa [List.flatten_cons, List.flatten_singleton] at hspell

/-- Items after a comma, with a comma between each two. -/
def listed (items : List String) : String := " ,".intercalate (items.map (" " ++ ·))

theorem separated_singleton (group : List Token) : separated [group] = group :=
  List.intercalate_singleton

theorem separated_cons_cons (group next : List Token) (rest : List (List Token)) :
    separated (group :: next :: rest) = group ++ .mark "," :: separated (next :: rest) :=
  List.intercalate_cons_cons.trans (List.append_assoc _ _ _)

theorem isSolid_listed {groups : List (List Token)} (h : ∀ group ∈ groups, IsSolid group) :
    IsSolid (.mark "," :: separated groups) := by
  induction groups with
  | nil => exact isSolid_singleton (by decide) (by decide)
  | cons group rest ih =>
    obtain ⟨hgroup, hrest⟩ := List.forall_mem_cons.1 h
    refine IsSolid.cons ?_ (by decide) (by decide)
    cases rest with
    | nil => rwa [separated_singleton]
    | cons next rest =>
      rw [separated_cons_cons]
      exact hgroup.append (ih hrest)

theorem spell_listed {groups : List (List Token)} (h : ∀ group ∈ groups, IsSolid group) :
    spell (.mark "," :: separated groups) = "," ++ listed (groups.map spell) := by
  induction groups with
  | nil => rfl
  | cons group rest ih =>
    obtain ⟨hgroup, hrest⟩ := List.forall_mem_cons.1 h
    cases rest with
    | nil =>
      rw [separated_singleton, spell_cons (by decide) hgroup, ← String.toList_inj]
      simp [listed, Token.text]
    | cons next rest =>
      have hlisted := isSolid_listed hrest
      rw [separated_cons_cons, spell_cons (by decide) (hgroup.append hlisted),
        spell_append hgroup hlisted, ih hrest, ← String.toList_inj]
      simp [listed, Token.text]

theorem isSolid_groups {α : Type} {items : List α} {tokens : α → List Token}
    (h : ∀ item, IsSolid (tokens item)) : ∀ group ∈ items.map tokens, IsSolid group :=
  List.forall_mem_map.2 fun item _ => h item

/-- A parenthesis that opens with these tokens and a comma. -/
theorem spell_parenthesized_listed {front : List Token} (hfront : IsSolid front)
    {groups : List (List Token)} (hgroups : ∀ group ∈ groups, IsSolid group) :
    spell (parenthesized (front ++ .mark "," :: separated groups)) =
      "(" ++ spell front ++ " ," ++ listed (groups.map spell) ++ ")" := by
  rw [spell_parenthesized, spell_append hfront (isSolid_listed hgroups), spell_listed hgroups,
    ← String.toList_inj]
  simp

/-! ### Paths, types and parameters -/

/-- A path as it is written. -/
def CratePath.text (path : CratePath) : String :=
  " :: ".intercalate ("crate" :: path.segments.map Ident.text)

/-- A known type as it is written. -/
def KnownType.text : KnownType → String
  | .unit => "()"
  | .bool => "bool"
  | .i8 => "i8"
  | .i16 => "i16"
  | .i32 => "i32"
  | .i64 => "i64"
  | .f32 => "f32"
  | .f64 => "f64"
  | .u16 => "u16"
  | .string => "String"

/-- A base type as it is written. -/
def BaseType.text : BaseType → String
  | .known type => type.text
  | .path place => place.text

/-- A type as it is written. -/
def RustType.text (type : RustType) : String :=
  if type.isVector then "std :: vec :: Vec < " ++ type.base.text ++ " >" else type.base.text

/-- A field or parameter as it is written. -/
def Binding.text (binding : Binding) : String := binding.name.text ++ " : " ++ binding.type.text

namespace CratePath

theorem isSolid_segments {token : Token} (hclose : token ≠ .closeParen) (hopen : token ≠ .openParen)
    (segments : List Ident) :
    IsSolid (token :: segments.flatMap fun segment => [.mark "::", .ident segment]) := by
  induction segments generalizing token with
  | nil => exact isSolid_singleton hclose hopen
  | cons segment rest ih =>
    have hrest := @ih (.ident segment) (by simp) (by simp)
    exact (hrest.cons (by simp) (by simp)).cons hclose hopen

theorem isSolid_tokens (path : CratePath) : IsSolid path.tokens :=
  isSolid_segments (by simp) (by simp) path.segments

/-- Segment by segment, where any token may stand before the first. -/
theorem spell_segments {token : Token} (hopen : token ≠ .openParen) (segments : List Ident) :
    spell (token :: segments.flatMap fun segment => [.mark "::", .ident segment]) =
      " :: ".intercalate (token.text :: segments.map Ident.text) := by
  induction segments generalizing token with
  | nil => simp [spell]
  | cons segment rest ih =>
    have hrest : IsSolid (.ident segment :: rest.flatMap fun segment =>
        [.mark "::", .ident segment]) := isSolid_segments (by simp) (by simp) rest
    have hspell : spell (token :: .mark "::" :: .ident segment ::
        rest.flatMap fun segment => [.mark "::", .ident segment]) =
          token.text ++ " " ++ ("::" ++ " " ++
            " :: ".intercalate (segment.text :: rest.map Ident.text)) := by
      rw [spell_cons hopen (hrest.cons (by simp) (by simp)), spell_cons (by simp) hrest,
        ih (by simp)]
      rfl
    refine hspell.trans ?_
    rw [← String.toList_inj]
    simp

theorem spell_tokens (path : CratePath) : spell path.tokens = path.text :=
  spell_segments (by simp) path.segments

end CratePath

namespace RustType

theorem isSolid_base (base : BaseType) : IsSolid base.tokens := by
  cases base with
  | known known =>
    cases known <;> first
      | exact isSolid_parenthesized []
      | exact isSolid_singleton (by decide) (by decide)
  | path place => exact place.isSolid_tokens

theorem spell_base (base : BaseType) : spell base.tokens = base.text := by
  cases base with
  | known known => cases known <;> rfl
  | path place => exact place.spell_tokens

/-- The words before the elements of a vector. -/
def vectorTokens : List Token :=
  [.keyword "std", .mark "::", .keyword "vec", .mark "::", .keyword "Vec", .mark "<"]

theorem isSolid_vectorTokens : IsSolid vectorTokens := by
  simp [isSolid_iff, vectorTokens]

theorem isSolid_tokens (type : RustType) : IsSolid type.tokens := by
  unfold tokens
  split_ifs
  · exact (isSolid_vectorTokens.append (isSolid_base type.base)).append
      (isSolid_singleton (by decide) (by decide))
  · exact isSolid_base type.base

theorem spell_tokens (type : RustType) : spell type.tokens = type.text := by
  unfold tokens text
  split_ifs
  · have hbase := isSolid_base type.base
    have hopen : spell vectorTokens = "std :: vec :: Vec <" := by decide
    have hspell : spell (vectorTokens ++ type.base.tokens ++ [.mark ">"]) =
        "std :: vec :: Vec <" ++ " " ++ type.base.text ++ " " ++ ">" := by
      rw [spell_append (isSolid_vectorTokens.append hbase)
        (isSolid_singleton (by decide) (by decide)), spell_append isSolid_vectorTokens hbase,
        spell_base, hopen]
      rfl
    refine hspell.trans ?_
    rw [← String.toList_inj]
    simp
  · exact spell_base type.base

end RustType

namespace Binding

theorem isSolid_tokens (binding : Binding) : IsSolid binding.tokens :=
  (binding.type.isSolid_tokens.cons (by simp) (by simp)).cons (by simp) (by simp)

theorem spell_tokens (binding : Binding) : spell binding.tokens = binding.text := by
  have htype := binding.type.isSolid_tokens
  unfold tokens text
  rw [spell_cons (by simp) (htype.cons (by simp) (by simp)), spell_cons (by simp) htype,
    RustType.spell_tokens, ← String.toList_inj]
  simp [Token.text]

end Binding

/-! ### Functions and implementations -/

/-- The type of a result after its arrow, if there is a result. -/
def resultText : Option RustType → String
  | none => ""
  | some type => " -> " ++ type.text

namespace FnStatement

/-- A call without what may follow it. -/
def callTokens (path : CratePath) (function receiver : Ident) (arguments : List Ident) :
    List Token :=
  path.tokens ++ [.mark "::", .ident function] ++
    parenthesized ([.mark "&", .keyword "self", .mark ".", .ident receiver] ++
      .mark "," :: separated (arguments.map fun argument => [.ident argument]))

theorem isSolid_callTokens (path : CratePath) (function receiver : Ident)
    (arguments : List Ident) : IsSolid (callTokens path function receiver arguments) :=
  (path.isSolid_tokens.append (by simp [isSolid_iff])).append (isSolid_parenthesized _)

theorem spell_callTokens (path : CratePath) (function receiver : Ident) (arguments : List Ident) :
    spell (callTokens path function receiver arguments) =
      path.text ++ " :: " ++ function.text ++ " (& self . " ++ receiver.text ++ " ," ++
        listed (arguments.map Ident.text) ++ ")" := by
  have hname : IsSolid [.mark "::", .ident function] := by simp [isSolid_iff]
  have hreceiver : IsSolid [.mark "&", .keyword "self", .mark ".", .ident receiver] := by
    simp [isSolid_iff]
  have harguments : ∀ group ∈ arguments.map fun argument => [Token.ident argument],
      IsSolid group := isSolid_groups fun _ => isSolid_singleton (by simp) (by simp)
  rw [callTokens, spell_append (path.isSolid_tokens.append hname) (isSolid_parenthesized _),
    spell_append path.isSolid_tokens hname, path.spell_tokens,
    spell_parenthesized_listed hreceiver harguments, List.map_map, ← String.toList_inj]
  simp [spell, gap, Token.text, Function.comp_def]

theorem tokens_call (path : CratePath) (function receiver : Ident) (arguments : List Ident)
    (returns : Bool) :
    (call path function receiver arguments returns).tokens =
      callTokens path function receiver arguments ++ if returns then [] else [.mark ";"] := rfl

theorem isSolid_call (path : CratePath) (function receiver : Ident) (arguments : List Ident)
    (returns : Bool) : IsSolid (call path function receiver arguments returns).tokens := by
  have hcall := isSolid_callTokens path function receiver arguments
  rw [tokens_call]
  cases returns with
  | true => exact (List.append_nil _).symm ▸ hcall
  | false => exact hcall.append (isSolid_singleton (by decide) (by decide))

/-- A call, and the semicolon if its result is not returned. -/
theorem spell_call (path : CratePath) (function receiver : Ident) (arguments : List Ident)
    (returns : Bool) :
    spell (call path function receiver arguments returns).tokens =
      path.text ++ " :: " ++ function.text ++ " (& self . " ++ receiver.text ++ " ," ++
        listed (arguments.map Ident.text) ++ ")" ++ if returns then "" else " ;" := by
  rw [tokens_call, ← spell_callTokens]
  cases returns with
  | true => exact (congrArg spell (List.append_nil _)).trans (String.append_empty).symm
  | false =>
    exact (spell_append (isSolid_callTokens path function receiver arguments)
      (isSolid_singleton (by decide) (by decide))).trans (String.append_assoc ..)

end FnStatement

namespace FnItem

/-- The identifier of a function and its parameters. -/
def headTokens (function : FnItem) : List Token :=
  [.keyword "fn", .ident function.name] ++
    parenthesized ([.mark "&", .keyword "self"] ++
      .mark "," :: separated (function.parameters.map Binding.tokens))

theorem isSolid_headTokens (function : FnItem) : IsSolid function.headTokens :=
  IsSolid.append (by simp [isSolid_iff]) (isSolid_parenthesized _)

theorem spell_headTokens (function : FnItem) :
    spell function.headTokens = "fn " ++ function.name.text ++
      " (& self ," ++ listed (function.parameters.map Binding.text) ++ ")" := by
  have hfn : IsSolid [.keyword "fn", .ident function.name] := by simp [isSolid_iff]
  have hself : IsSolid [.mark "&", .keyword "self"] := by simp [isSolid_iff]
  have hparameters : ∀ group ∈ function.parameters.map Binding.tokens, IsSolid group :=
    isSolid_groups Binding.isSolid_tokens
  rw [headTokens, spell_append hfn (isSolid_parenthesized _),
    spell_parenthesized_listed hself hparameters, List.map_map, ← String.toList_inj]
  simp [spell, gap, Token.text, Function.comp_def, Binding.spell_tokens]

/-- A head is followed by the type of the result, if there is one. -/
theorem isSolid_append_resultTokens {head : List Token} (h : IsSolid head)
    (result : Option RustType) : IsSolid (head ++ resultTokens result) := by
  cases result with
  | none => exact (List.append_nil _).symm ▸ h
  | some type => exact h.append (type.isSolid_tokens.cons (by decide) (by decide))

theorem spell_append_resultTokens {head : List Token} (h : IsSolid head)
    (result : Option RustType) :
    spell (head ++ resultTokens result) = spell head ++ resultText result := by
  cases result with
  | none => exact (congrArg spell (List.append_nil _)).trans (String.append_empty).symm
  | some type =>
    have htype := type.isSolid_tokens
    rw [resultTokens, resultText, spell_append h (htype.cons (by decide) (by decide)),
      spell_cons (by decide) htype, type.spell_tokens, ← String.toList_inj]
    simp [Token.text]

theorem isSolid_tokens (function : FnItem) : IsSolid function.tokens :=
  (isSolid_append_resultTokens function.isSolid_headTokens function.result).append
    (isSolid_braced _)

end FnItem

namespace TraitImpl

/-- The head of `new` with its only parameter. -/
def newTokens (parameter : Binding) : List Token :=
  [.keyword "pub", .keyword "fn", .keyword "new"] ++ parenthesized parameter.tokens ++
    [.mark "->", .keyword "Self"]

theorem isSolid_newTokens (parameter : Binding) : IsSolid (newTokens parameter) :=
  (IsSolid.append (by simp [isSolid_iff]) (isSolid_parenthesized _)).append (by simp [isSolid_iff])

theorem spell_newTokens (parameter : Binding) :
    spell (newTokens parameter) = "pub fn new (" ++ parameter.text ++ ") -> Self" := by
  have hnew : IsSolid [.keyword "pub", .keyword "fn", .keyword "new"] := by simp [isSolid_iff]
  have hself : IsSolid [.mark "->", .keyword "Self"] := by simp [isSolid_iff]
  rw [newTokens, spell_append (hnew.append (isSolid_parenthesized _)) hself,
    spell_append hnew (isSolid_parenthesized _), spell_parenthesized, Binding.spell_tokens,
    ← String.toList_inj]
  simp [spell, gap, Token.text]

/-- The body of `new`, which is a struct expression with its only field. -/
theorem spell_structExpression (initializer : Ident × Ident) :
    spell (braced (.keyword "Self" :: braced (initializerTokens initializer))) =
      inBraces ["Self", inBraces [initializer.1.text ++ " : " ++ initializer.2.text]] := by
  have hself : IsSolid [.keyword "Self"] := isSolid_singleton (by decide) (by decide)
  have hinit : IsSolid (initializerTokens initializer) := by
    simp [isSolid_iff, initializerTokens]
  have hfield : spell (initializerTokens initializer) =
      initializer.1.text ++ " : " ++ initializer.2.text := by
    rw [← String.toList_inj]
    simp [spell, gap, Token.text, initializerTokens]
  rw [← List.singleton_append, spell_braced_pair hself (isSolid_braced _),
    spell_braced_singleton hinit, hfield]
  rfl

/-- What the implementation is of. -/
def traitTokens (item : TraitImpl) : List Token :=
  .keyword "impl" :: item.trait.tokens ++ [.keyword "for", .ident item.name]

theorem isSolid_traitTokens (item : TraitImpl) : IsSolid item.traitTokens :=
  (item.trait.isSolid_tokens.cons (by decide) (by decide)).append (by simp [isSolid_iff])

theorem spell_traitTokens (item : TraitImpl) :
    spell item.traitTokens = "impl " ++ item.trait.text ++ " for " ++ item.name.text := by
  have htrait := item.trait.isSolid_tokens
  rw [traitTokens, spell_append (htrait.cons (by decide) (by decide)) (by simp [isSolid_iff]),
    spell_cons (by decide) htrait, item.trait.spell_tokens, ← String.toList_inj]
  simp [spell, gap, Token.text]

end TraitImpl

/-! ### Module roots -/

/-- A declaration as it is written. -/
def Declaration.text (declaration : Declaration) : String :=
  if declaration.isFile then
    "mod " ++ declaration.ident.text ++ " ; pub use " ++ declaration.ident.text ++ " :: * ;"
  else "pub mod " ++ declaration.ident.text ++ " ;"

/-- Declarations as they are written in a module root. -/
def moduleText (declarations : List Declaration) : String :=
  " ".intercalate (declarations.map Declaration.text)

namespace Declaration

theorem isSolid_tokens (declaration : Declaration) : IsSolid declaration.tokens := by
  unfold tokens
  split_ifs <;> simp [isSolid_iff]

theorem spell_tokens (declaration : Declaration) : spell declaration.tokens = declaration.text := by
  unfold tokens text
  rw [← String.toList_inj]
  split_ifs <;> simp [spell, gap, Token.text]

end Declaration

theorem spell_declarations (declarations : List Declaration) :
    spell (declarations.flatMap Declaration.tokens) = moduleText declarations := by
  have hspell := spell_flatten (List.forall_mem_map.2 fun declaration
    (_ : declaration ∈ declarations) => declaration.isSolid_tokens)
  rw [List.flatMap_def, hspell, List.map_map, moduleText]
  exact congrArg _ (List.map_congr_left fun declaration _ => declaration.spell_tokens)

/-- The declaration is that of the entry: it has its identifier and is of the same kind. -/
structure Declaration.IsOf (declaration : Declaration) (entry : Entry) : Prop where
  ident : Ident.ofName entry.name = .ok declaration.ident
  isFile : declaration.isFile = entry.isFile

theorem Declaration.isOf_iff {declaration : Declaration} {entry : Entry} :
    declaration.IsOf entry ↔ Declaration.ofEntry entry = .ok declaration := by
  obtain ⟨ident, isFile⟩ := declaration
  rw [ofEntry, map_eq_ok_iff]
  constructor
  · rintro ⟨hident, rfl⟩
    exact ⟨ident, hident, rfl⟩
  · rintro ⟨_, hident, hsame⟩
    obtain ⟨rfl, rfl⟩ := Declaration.mk.inj hsame
    exact ⟨hident, rfl⟩

/-- The text of a module root is that of the declarations of its entries. -/
theorem moduleSource_eq_ok_iff {entries : List Entry} {text : String} :
    moduleSource entries = .ok text ↔
      ∃ declarations, List.Forall₂ (fun entry declaration => declaration.IsOf entry)
        entries declarations ∧ text = moduleText declarations := by
  rw [moduleSource, map_eq_ok_iff]
  simp only [mapM_eq_ok_iff, spell_declarations, Declaration.isOf_iff]
  exact exists_congr fun _ => and_congr_right fun _ => eq_comm

end Forwarding
