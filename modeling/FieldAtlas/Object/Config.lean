/-!
# Object settings

What a class says about its object definition.
-/

namespace FieldAtlas

structure ObjectConfig where
  /-- The name of the object, or none for the name of the class. -/
  name : Option String
  description : Option String
  isInput : Bool
  isInterface : Bool
  deriving DecidableEq

namespace ObjectConfig

/-- Only a name. -/
def named (name : String) : ObjectConfig := ⟨some name, none, false, false⟩

end ObjectConfig

end FieldAtlas
