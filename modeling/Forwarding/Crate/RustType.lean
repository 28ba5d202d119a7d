import Forwarding.Crate.Token
import Forwarding.TypeRef

/-!
# Types in a crate

* `KnownType`: the types with a direct counterpart;
* `CratePath`: the place of a class in the module tree, `crate :: com :: example :: Greeter`;
* `RustType`: a known type, a path, or a vector of one of these.
-/

namespace Forwarding

/-- The types with a direct counterpart. -/
inductive KnownType where
  | unit
  | bool
  | i8
  | i16
  | i32
  | i64
  | f32
  | f64
  | u16
  | string
  deriving DecidableEq, Repr

namespace KnownType

/-- The counterpart of a class or primitive.  A primitive and its box have the same. -/
def ofClass? (className : String) : Option KnownType :=
  if className ∈ ["void", "java.lang.Void"] then some .unit
  else if className ∈ ["boolean", "java.lang.Boolean"] then some .bool
  else if className ∈ ["byte", "java.lang.Byte"] then some .i8
  else if className ∈ ["short", "java.lang.Short"] then some .i16
  else if className ∈ ["int", "java.lang.Integer"] then some .i32
  else if className ∈ ["long", "java.lang.Long"] then some .i64
  else if className ∈ ["float", "java.lang.Float"] then some .f32
  else if className ∈ ["double", "java.lang.Double"] then some .f64
  else if className ∈ ["char", "java.lang.Character"] then some .u16
  else if className ∈ ["java.lang.String", "java.lang.CharSequence"] then some .string
  else none

/-- The type as it is written. -/
def tokens : KnownType → List Token
  | .unit => parenthesized []
  | .bool => [.keyword "bool"]
  | .i8 => [.keyword "i8"]
  | .i16 => [.keyword "i16"]
  | .i32 => [.keyword "i32"]
  | .i64 => [.keyword "i64"]
  | .f32 => [.keyword "f32"]
  | .f64 => [.keyword "f64"]
  | .u16 => [.keyword "u16"]
  | .string => [.keyword "String"]

end KnownType

/-- A path from the root of the crate. -/
structure CratePath where
  segments : List Ident
  deriving DecidableEq, Repr

namespace CratePath

/-- The path of a class: one segment for each non-empty segment of the package, and its simple
name. -/
def ofClass (name : ClassName) : Except NameFault CratePath :=
  ((name.packageSegments ++ [name.simpleName]).mapM Ident.ofName).map CratePath.mk

/-- The path as it is written. -/
def tokens (path : CratePath) : List Token :=
  .keyword "crate" :: path.segments.flatMap fun segment => [.mark "::", .ident segment]

end CratePath

/-- A type without the array flag. -/
inductive BaseType where
  | known (type : KnownType)
  | path (path : CratePath)
  deriving DecidableEq, Repr

/-- A base type as it is written. -/
def BaseType.tokens : BaseType → List Token
  | .known type => type.tokens
  | .path place => place.tokens

/-- A base type or a vector of it. -/
structure RustType where
  base : BaseType
  isVector : Bool
  deriving DecidableEq, Repr

namespace RustType

/-- The type for a reference; an array is a vector. -/
def ofRef (type : TypeRef) : Except NameFault RustType :=
  match KnownType.ofClass? type.className with
  | some known => .ok ⟨.known known, type.isArray⟩
  | none =>
      (CratePath.ofClass (ClassName.ofQualified type.className)).map fun path =>
        ⟨.path path, type.isArray⟩

/-- The type as it is written. -/
def tokens (type : RustType) : List Token :=
  if type.isVector then
    [.keyword "std", .mark "::", .keyword "vec", .mark "::", .keyword "Vec", .mark "<"] ++
      type.base.tokens ++ [.mark ">"]
  else type.base.tokens

end RustType

end Forwarding
