import Forwarding.Text.Blank
import Forwarding.Text.IdentifierChar
import Forwarding.Text.Quoted

/-!
# Identifiers of a Rust crate

How a name becomes an identifier.

* `safeName`: dollar signs become underscores, and the four path keywords get an underscore, for
  they cannot be raw identifiers;
* `soleIdentifier`: the identifier that a text consists of, blanks and comments around it left out;
* `Ident.ofName`: that identifier, or else the raw identifier of the name;
* `NameFault`: why a name has no identifier.
-/

namespace Forwarding

/-- An identifier, possibly a raw one. -/
structure Ident where
  name : String
  raw : Bool := false
  deriving DecidableEq, Repr

/-- The identifier as it is written. -/
def Ident.text (ident : Ident) : String := if ident.raw then "r#" ++ ident.name else ident.name

/-- Why a name cannot be used in a crate. -/
inductive NameFault where
  /-- The name is empty. -/
  | empty
  /-- The name consists of digits. -/
  | number
  /-- The name has a character that does not belong in an identifier at its place. -/
  | notIdentifier (name : String)
  /-- The name is an underscore or a path keyword, which have no raw form. -/
  | noRawForm (name : String)
  /-- The words of the name come apart inside a character. -/
  | cutInsideCharacter
  deriving DecidableEq, Repr

/-- What is said about an unusable name; nothing is said about words that come apart. -/
def NameFault.message? : NameFault → Option String
  | .empty => some "Ident is not allowed to be empty; use Option<Ident>"
  | .number => some "Ident cannot be a number; use Literal instead"
  | .notIdentifier name => some (Text.quoted name ++ " is not a valid Ident")
  | .noRawForm name => some ("`r#" ++ name ++ "` cannot be a raw identifier")
  | .cutInsideCharacter => none

/-- The keywords that begin paths, which cannot be raw identifiers. -/
def pathKeywords : List String := ["self", "Self", "super", "crate"]

/-- A name without dollar signs that is no path keyword. -/
def safeName (name : String) : String :=
  let plain := String.ofList (name.toList.map fun c => if c = '$' then '_' else c)
  if pathKeywords.contains plain then plain ++ "_" else plain

/-- The words that are read as keywords and not as identifiers. -/
def keywords : List String :=
  ["abstract", "as", "become", "box", "break", "const", "continue", "crate", "do", "else", "enum",
    "extern", "false", "final", "fn", "for", "if", "impl", "in", "let", "loop", "macro", "match",
    "mod", "move", "mut", "override", "priv", "pub", "ref", "return", "Self", "self", "static",
    "struct", "super", "trait", "true", "type", "typeof", "unsafe", "unsized", "use", "virtual",
    "where", "while", "yield"]

/-- The identifiers without a raw form. -/
def withoutRawForm : List String := "_" :: pathKeywords

/-- Whether a text is built like an identifier. -/
def isIdentifierText : List Char → Bool
  | [] => false
  | c :: rest => Text.isIdentifierStart c && rest.all Text.isIdentifierPart

/-! ### Blanks and comments -/

/-- White space between tokens: also the two direction marks. -/
def isTokenBlank (c : Char) : Bool :=
  Text.isBlank c || c.toNat == 0x200e || c.toNat == 0x200f

/-- Whether a comment to the end of the line begins here.  Comments that document something do
not count. -/
def opensLineComment : List Char → Bool
  | '/' :: '/' :: '/' :: '/' :: _ => true
  | '/' :: '/' :: '/' :: _ => false
  | '/' :: '/' :: '!' :: _ => false
  | '/' :: '/' :: _ => true
  | _ => false

/-- Whether a bracketed comment begins here.  Comments that document something do not count. -/
def opensBlockComment : List Char → Bool
  | '/' :: '*' :: '*' :: '*' :: _ => true
  | '/' :: '*' :: '*' :: '/' :: _ => true
  | '/' :: '*' :: '*' :: _ => false
  | '/' :: '*' :: '!' :: _ => false
  | '/' :: '*' :: _ => true
  | _ => false

/-- Where one stands between tokens. -/
inductive Gap where
  /-- Outside of comments. -/
  | blank
  /-- In a comment that ends with the line. -/
  | line
  /-- In so many bracketed comments. -/
  | block (depth : Nat)
  /-- Before the second character of a mark that leaves so many bracketed comments open. -/
  | mark (depth : Nat)

/-- What follows the blanks and comments at the start of a text; nothing if a bracketed comment
is not closed. -/
def afterGaps : Gap → List Char → Option (List Char)
  | .blank, [] => some []
  | .line, [] => some []
  | .block _, [] => none
  | .mark _, [] => none
  | .blank, c :: rest =>
      if isTokenBlank c then afterGaps .blank rest
      else if opensLineComment (c :: rest) then afterGaps .line rest
      else if opensBlockComment (c :: rest) then afterGaps (.mark 1) rest
      else some (c :: rest)
  | .line, c :: rest => afterGaps (if c = '\n' then .blank else .line) rest
  | .block depth, c :: rest =>
      if c = '/' ∧ rest.head? = some '*' then afterGaps (.mark (depth + 1)) rest
      else if c = '*' ∧ rest.head? = some '/' then afterGaps (.mark (depth - 1)) rest
      else afterGaps (.block depth) rest
  | .mark depth, _ :: rest => afterGaps (if depth = 0 then .blank else .block depth) rest

/-! ### From name to identifier -/

/-- The identifier at the start of a text, as far as it goes, and the rest. -/
def leadingIdentifier : List Char → Option (List Char × List Char)
  | [] => none
  | c :: rest =>
      if Text.isIdentifierStart c then
        some (c :: rest.takeWhile Text.isIdentifierPart, rest.dropWhile Text.isIdentifierPart)
      else none

/-- The identifier or raw identifier at the start of a text, and the rest. -/
def leadingIdent (text : List Char) : Option (Ident × List Char) :=
  match text with
  | 'r' :: '#' :: rest =>
      match leadingIdentifier rest with
      | some (name, rest) =>
          if withoutRawForm.contains (String.ofList name) then none
          else some (⟨String.ofList name, true⟩, rest)
      | none => none
  | _ =>
      match leadingIdentifier text with
      | some (name, rest) =>
          if ("_" :: keywords).contains (String.ofList name) then none
          else some (⟨String.ofList name, false⟩, rest)
      | none => none

/-- The text without a byte order mark at its start. -/
def withoutByteOrderMark : List Char → List Char
  | [] => []
  | c :: rest => if c.toNat = 0xfeff then rest else c :: rest

/-- The identifier that a text consists of, if it is one that is no keyword. -/
def soleIdentifier (text : List Char) : Option Ident :=
  match afterGaps .blank (withoutByteOrderMark text) with
  | none => none
  | some start =>
      match leadingIdent start with
      | none => none
      | some (ident, rest) => if afterGaps .blank rest = some [] then some ident else none

/-- The raw identifier of a name. -/
def rawIdent (name : String) : Except NameFault Ident :=
  if name = "" then .error .empty
  else if name.toList.all Char.isDigit then .error .number
  else if !isIdentifierText name.toList then .error (.notIdentifier name)
  else if withoutRawForm.contains name then .error (.noRawForm name)
  else .ok ⟨name, true⟩

/-- The identifier for a name: the one that its safe form spells, or else the raw one. -/
def Ident.ofName (name : String) : Except NameFault Ident :=
  match soleIdentifier (safeName name).toList with
  | some ident => .ok ident
  | none => rawIdent (safeName name)

end Forwarding
