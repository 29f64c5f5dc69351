/-!
# Resolution orders

Several orders are merged into one that keeps each of them. A step takes the first head that no
order still has further back, and the merge fails when there is none.
-/

namespace FieldAtlas.Linearization

variable {α κ : Type} [DecidableEq κ] (key : α → κ)

/-- `x` is in no tail. -/
def eligible (rows : List (List α)) (x : α) : Bool :=
  rows.all fun row => row.tail.all fun y => key y ≠ key x

/-- The first head that is in no tail. -/
def choose? (rows : List (List α)) : Option α :=
  (rows.filterMap List.head?).find? (eligible key rows)

/-- Drops `x` from the head of a row. -/
def advanceRow (x : α) : List α → List α
  | [] => []
  | y :: ys => if key y = key x then ys else y :: ys

def advance (x : α) (rows : List (List α)) : List (List α) := rows.map (advanceRow key x)

/-- The merge in at most `steps` steps. -/
def mergeWithin : (steps : Nat) → List (List α) → Option (List α)
  | steps, rows =>
    if rows.all List.isEmpty then some []
    else
      match steps with
      | 0 => none
      | steps + 1 =>
        match choose? key rows with
        | none => none
        | some x => (mergeWithin steps (advance key x rows)).map (x :: ·)

/-- The merge of `rows`. Every step shortens a row, so that there are at most as many steps as
entries. -/
def merge? (rows : List (List α)) : Option (List α) :=
  mergeWithin key rows.flatten.length rows

end FieldAtlas.Linearization
