/-!
# Tables of fields

A table is a list of entries in which each name stands once. A new entry takes the seat of the one
it replaces, or a new seat at the end.
-/

namespace FieldAtlas.Table

variable {α : Type}

/-- Puts `x` into the seat of the entry with its name, or at the end. -/
def put (name : α → String) (x : α) : List α → List α
  | [] => [x]
  | y :: ys => if name y = name x then x :: ys else y :: put name x ys

/-- Puts all of `xs`, in order. -/
def putAll (name : α → String) (table xs : List α) : List α :=
  xs.foldl (fun t x => put name x t) table

/-- What can be wrong with one of the fields that a class declares itself. -/
inductive OwnFault where
  | duplicate
  | defaultAndFactory
  deriving DecidableEq

/-- The first own field that repeats a name of `seen` or of one before it, or that has both a
default and a factory. At one field the repeated name counts first. -/
def ownFault? (name : α → String) (both : α → Bool) (seen : List String) :
    List α → Option (OwnFault × String)
  | [] => none
  | x :: xs =>
    if name x ∈ seen then some (.duplicate, name x)
    else if both x then some (.defaultAndFactory, name x)
    else ownFault? name both (seen ++ [name x]) xs

/-- The first entry without a default after one that has a default. -/
def misplaced? (hasDefault : α → Bool) (seenDefault : Bool) : List α → Option α
  | [] => none
  | x :: xs =>
    if hasDefault x then misplaced? hasDefault true xs
    else if seenDefault then some x
    else misplaced? hasDefault seenDefault xs

end FieldAtlas.Table
