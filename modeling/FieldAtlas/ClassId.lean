/-!
# Class identities

Each class that is built has a number of its own. Numbers are given out in order and never again.
-/

namespace FieldAtlas

structure ClassId where
  number : Nat
  deriving DecidableEq

namespace ClassId

/-- The number after this one. -/
def next (id : ClassId) : ClassId := ⟨id.number + 1⟩

end ClassId

end FieldAtlas
