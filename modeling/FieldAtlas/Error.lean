import FieldAtlas.Field.Descriptor
import FieldAtlas.Record.Basic
import FieldAtlas.Struct.Basic

/-!
# Errors about fields

All that can go wrong between a class and its list of fields.
-/

namespace FieldAtlas

inductive FieldError where
  /-- The class has no fields to speak of. -/
  | classification (owner : String)
  | configuration (e : ConfigurationError)
  | record (e : RecordError)
  | struct (e : StructError)
  /-- The class has no object definition, and one was insisted on. -/
  | notAnObjectType (owner : String)
  deriving DecidableEq

def FieldError.message : FieldError → String
  | classification owner => "`" ++ owner ++ "` is neither a record nor a struct"
  | configuration e => e.message
  | record e => e.message
  | struct e => e.message
  | notAnObjectType owner => "`" ++ owner ++ "` does not have an object definition"

end FieldAtlas
