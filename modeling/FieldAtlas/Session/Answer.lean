import FieldAtlas.Error
import FieldAtlas.Object.Definition
import FieldAtlas.Introspector
import FieldAtlas.Session.Step

/-!
# Answers

What a session says to a step.
-/

namespace FieldAtlas

/-- Why a step fails. -/
inductive Failure where
  | unbound (name : String)
  /-- The thing of this name is of no use here. -/
  | unfit (name : String)
  | field (e : FieldError)
  | settings (e : SettingsError)
  | global (e : GlobalError)

/-- A definition with the fields that were looked for in it. -/
structure DefinitionView where
  definition : ObjectDefinition
  byName : Option (List (String × Option ObjectField))
  byPublicName : Option (List (String × Option ObjectField))

inductive Answer where
  | nothing
  | truth (b : Bool)
  | value (v : Value)
  | valueOrNone (v : Option Value)
  /-- The value, and whether it equals another handle on it. -/
  | inspected (v : Value) (selfEqual : Bool)
  | compared (equal reversed samePlace : Bool)
  | produced (f : Factory) (made : Value)
  | descriptor (d : Descriptor)
  | shown (d : Descriptor)
  | start (v : Option Value) (isDefault : Bool)
  | comparedDescriptors (equal sameHash : Bool)
  | descriptorSet (new : List Bool) (size : Nat)
  | classMade (name : String) (id : ClassId)
  | classified (c : ClassObject)
  | recordInfo (c : Option RecordClass)
  | structInfo (c : Option StructClass)
  | settings (s : Settings)
  | fields (number : Nat) (fields : List Descriptor)
  | listNumber (number : Option Nat)
  | definition (d : Option DefinitionView)
  | comparedDefinitions (equal firstThere secondThere : Bool)
  | declared (found : Option (String × ClassId × String))
  | declaredByName (found : Option (String × ClassId))
  | listing (names : List (String × String))

end FieldAtlas
