import FieldAtlas.ClassId
import FieldAtlas.Struct.Layout
import FieldAtlas.Text.Outline

/-!
# Struct classes

A struct class has a flat layout and, on the side, overrides by field name.
-/

namespace FieldAtlas

structure StructClass where
  id : ClassId
  name : String
  bases : List StructClass
  /-- The fields as they were declared here. -/
  own : List StructField
  /-- The overrides as they were given here. -/
  ownOverrides : Dict FieldOverride
  /-- All fields declared here are given by keyword only. -/
  ownKwOnly : Bool
  layout : Layout
  overrides : Dict FieldOverride
  frozen : Bool

/-- What a struct class is built from. -/
structure StructDecl where
  name : String
  bases : List StructClass
  fields : List StructField
  overrides : Dict FieldOverride
  /-- All fields declared here are given by keyword only. -/
  kwOnly : Bool
  frozen : Bool

/-- Why a struct class cannot be built. -/
inductive StructError where
  | duplicateField (owner field : String)
  | defaultAndFactory (owner field : String)
  | requiredAfterOptional (owner field : String)
  deriving DecidableEq

def StructError.message : StructError → String
  | duplicateField owner field =>
    "field `" ++ field ++ "` is declared more than once in struct `" ++ owner ++ "`"
  | defaultAndFactory owner field =>
    "cannot set both `default` and `default_factory` on field `" ++ field ++
      "` of struct `" ++ owner ++ "`"
  | requiredAfterOptional owner field =>
    "required field `" ++ field ++ "` cannot follow optional fields in struct `" ++ owner ++ "`"

namespace StructClass

def override? (c : StructClass) (field : String) : Option FieldOverride := c.overrides.get? field

def infos (c : StructClass) : List FieldInfo := c.layout.infos

def outline (c : StructClass) : Text.Outline :=
  .fields "StructClass" [
    ("name", .plain (Text.Quoted.string c.name)),
    ("struct_fields", .list (c.layout.names.map fun n => .plain (Text.Quoted.string n)))]

end StructClass

end FieldAtlas
