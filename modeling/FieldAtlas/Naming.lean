import FieldAtlas.Text.CaseMap

/-!
# Names in camel case

A name is read as segments between underscores. The first is kept, each later one starts with a
capital and goes on in lower case, and an empty one leaves its underscore.
-/

namespace FieldAtlas.Naming

open FieldAtlas.Text

/-- The stretches between underscores; there is always at least one. -/
def segments : List Char → List (List Char)
  | [] => [[]]
  | c :: cs =>
    if c = '_' then [] :: segments cs
    else
      match segments cs with
      | [] => [[c]]
      | s :: rest => (c :: s) :: rest

/-- A segment after the first. -/
def capitalized : List Char → List Char
  | [] => ['_']
  | c :: cs => CaseMap.upper c ++ CaseMap.lowerAll cs

/-- The camel case of the characters of a name. -/
def camel (cs : List Char) : List Char :=
  match segments cs with
  | [] => []
  | first :: rest => first ++ rest.flatMap capitalized

/-- The camel case of a name: `full_name` becomes `fullName`. -/
def toCamelCase (name : String) : String := String.ofList (camel name.toList)

end FieldAtlas.Naming
