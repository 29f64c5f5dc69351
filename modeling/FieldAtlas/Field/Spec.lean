import FieldAtlas.Dict
import FieldAtlas.Field.TypeRef
import FieldAtlas.Value.Missing

/-!
# Field specifications

A field as it is declared: a slot for its default and one for its factory, each of which may hold
a marker, its flags, and its metadata.
-/

namespace FieldAtlas

/-- Remarks on a field, by key. -/
abbrev Metadata := Dict Value

structure FieldSpec where
  name : String
  type : TypeRef
  default : Value
  factory : Value
  repr : Bool
  hash : Option Bool
  compare : Bool
  init : Bool
  kwOnly : Bool
  metadata : Metadata

namespace FieldSpec

/-- A plain field, both slots holding `absent`. -/
def plain (absent : Value) (name : String) (type : TypeRef) : FieldSpec where
  name := name
  type := type
  default := absent
  factory := absent
  repr := true
  hash := none
  compare := true
  init := true
  kwOnly := false
  metadata := []

/-- Either slot is filled. -/
def hasDefault (f : FieldSpec) : Bool := !f.default.isMissing || !f.factory.isMissing

/-- Both slots are filled. -/
def hasBoth (f : FieldSpec) : Bool := !f.default.isMissing && !f.factory.isMissing

end FieldSpec

end FieldAtlas
