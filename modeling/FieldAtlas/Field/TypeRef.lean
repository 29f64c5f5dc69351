import FieldAtlas.Text.Quoted

/-!
# Declared types

The type of a field is known, or named by a string that is resolved later.
-/

namespace FieldAtlas

inductive TypeRef where
  | resolved (name : String)
  | forward (name : String)
  deriving DecidableEq

namespace TypeRef

def name : TypeRef → String
  | resolved name => name
  | forward name => name

def isResolved : TypeRef → Bool
  | resolved _ => true
  | forward _ => false

/-- The known type of this name. -/
def is (t : TypeRef) (typeName : String) : Bool := t == resolved typeName

/-- A known type is shown by its name, a forward one by its name in quotes. -/
def shown : TypeRef → String
  | resolved name => name
  | forward name => Text.Quoted.string name

end TypeRef

end FieldAtlas
