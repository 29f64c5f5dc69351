import FieldAtlas.Value.Basic

/-!
# Equality of values

Two values are equal if they are one, or if they have one type and equal contents. Values inside
are compared by the same rule.
-/

namespace FieldAtlas

/-- Equal type and contents. -/
def Scalar.same : Scalar → Scalar → Bool
  | double a, double b => a.same b
  | factory f, factory g => f.same g
  | defaultFactory f, defaultFactory g => f.same g
  | a, b => a == b

namespace Value

mutual

def same : Value → Value → Bool
  | scalar p a, scalar q b => p.same q || a.same b
  | list p as, list q bs => p.same q || sameItems as bs
  | dict p as, dict q bs => p.same q || sameEntries as bs
  | wrapped p a, wrapped q b => p.same q || same a b
  | a, b => a.place.same b.place

def sameItems : List Value → List Value → Bool
  | [], [] => true
  | a :: as, b :: bs => same a b && sameItems as bs
  | _, _ => false

def sameEntries : List (String × Value) → List (String × Value) → Bool
  | [], [] => true
  | (k, a) :: as, (l, b) :: bs => k == l && same a b && sameEntries as bs
  | _, _ => false

end

end Value

end FieldAtlas
