import Forwarding.Crate.Ident

/-!
# Tokens of a crate

* `Token`: identifiers, keywords, marks and brackets;
* `Token.spell`: tokens as a text, joined by blanks but for the inner side of parentheses;
* `separated`, `braced`, `parenthesized`: groups of tokens.
-/

namespace Forwarding

/-- A token.  Marks of several characters, such as `::` and `->`, are one token. -/
inductive Token where
  | ident (name : Ident)
  | keyword (word : String)
  | mark (spelling : String)
  | openParen
  | closeParen
  deriving DecidableEq, Repr

namespace Token

/-- A token as it is written. -/
def text : Token → String
  | .ident name => name.text
  | .keyword word => word
  | .mark spelling => spelling
  | .openParen => "("
  | .closeParen => ")"

/-- What stands between two tokens: nothing inside a parenthesis, else a blank. -/
def gap : Token → Token → String
  | .openParen, _ => ""
  | _, .closeParen => ""
  | _, _ => " "

/-- Tokens as a text. -/
def spell : List Token → String
  | [] => ""
  | [token] => token.text
  | token :: next :: rest => token.text ++ token.gap next ++ spell (next :: rest)

end Token

/-- Groups of tokens with a comma between each two. -/
def separated : List (List Token) → List Token := [Token.mark ","].intercalate

/-- Tokens in braces. -/
def braced (tokens : List Token) : List Token :=
  .mark "\x7b" :: tokens ++ [.mark "\x7d"]

/-- Tokens in parentheses. -/
def parenthesized (tokens : List Token) : List Token :=
  .openParen :: tokens ++ [.closeParen]

end Forwarding
