import Forwarding.Crate.Token

/-!
# Module roots

The file `mod.rs`, or `lib.rs` at the root of the crate, declares what its directory holds.  A
file is flattened into the parent module, a directory stays a module of its own.

* `Entry`: a Rust file, by its stem, or a directory;
* `Declaration.ofEntry`: the declaration of an entry;
* `moduleSource`: the text of a module root.
-/

namespace Forwarding

/-- A directory, or a source file by its name without the extension. -/
structure Entry where
  name : String
  isFile : Bool
  deriving DecidableEq, Repr

/-- Entries are ordered by name, a directory before a file of the same name. -/
def Entry.compare (a b : Entry) : Ordering :=
  (Ord.compare a.name b.name).then (Ord.compare a.isFile b.isFile)

/-- The declaration of an entry. -/
structure Declaration where
  ident : Ident
  isFile : Bool
  deriving DecidableEq, Repr

namespace Declaration

/-- The declaration of an entry. -/
def ofEntry (entry : Entry) : Except NameFault Declaration :=
  (Ident.ofName entry.name).map fun ident => ⟨ident, entry.isFile⟩

/-- A declaration as it is written. -/
def tokens (declaration : Declaration) : List Token :=
  if declaration.isFile then
    [.keyword "mod", .ident declaration.ident, .mark ";", .keyword "pub", .keyword "use",
      .ident declaration.ident, .mark "::", .mark "*", .mark ";"]
  else [.keyword "pub", .keyword "mod", .ident declaration.ident, .mark ";"]

end Declaration

/-- The text of the module root that declares the entries. -/
def moduleSource (entries : List Entry) : Except NameFault String :=
  (entries.mapM Declaration.ofEntry).map fun declarations =>
    Token.spell (declarations.flatMap Declaration.tokens)

end Forwarding
