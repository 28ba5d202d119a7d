import Forwarding.Crate.Ident
import Forwarding.Text.SnakeCase

/-!
# Names of methods, parameters and fields in a crate

* `crateName`: the safe form of the name in snake case;
* `distinctNames`: such names made distinct by numbers, for there is no overloading in a crate and
  snake case can merge names.
-/

namespace Forwarding

/-- The safe form of a name in snake case. -/
def crateName (name : String) : Except NameFault String :=
  match Text.snakeCase name with
  | some snake => .ok (safeName snake)
  | none => .error .cutInsideCharacter

/-- A name with a number at its end. -/
def numbered (base : String) (number : Nat) : String := base ++ "_" ++ toString number

/-- The name itself if it is not taken, or else with the least number that makes it free.  Among
one more numbers than there are taken names, one is free. -/
def freeName (taken : List String) (base : String) : String :=
  if taken.contains base then
    match (List.range (taken.length + 1)).find? fun number =>
        !taken.contains (numbered base number) with
    | some number => numbered base number
    | none => base
  else base

/-- Names made free one after the other, each given the ones before it. -/
def freeNames (taken : List String) : List String → List String
  | [] => []
  | base :: others =>
      let name := freeName taken base
      name :: freeNames (taken ++ [name]) others

/-- Names in snake case, made distinct. -/
def distinctNames (names : List String) : Except NameFault (List String) :=
  (names.mapM crateName).map (freeNames [])

end Forwarding
