import FieldAtlas.Field.Spec

/-!
# Fields of structs

What a struct class declares of a field, what it may say on the side, and what it reports back.
-/

namespace FieldAtlas

/-- A field as a struct class declares it. -/
structure StructField where
  name : String
  type : TypeRef
  default : Value
  factory : Option Factory
  /-- The name in encoded form, if it is another one. -/
  rename : Option String
  kwOnly : Bool

namespace StructField

def plain (name : String) (type : TypeRef) : StructField :=
  ⟨name, type, .unset, none, none, false⟩

def hasDefault (f : StructField) : Bool := !f.default.isMissing || f.factory.isSome

def hasBoth (f : StructField) : Bool := !f.default.isMissing && f.factory.isSome

def encodeName (f : StructField) : String := f.rename.getD f.name

/-- The entry in the table of defaults. -/
def entry (f : StructField) : Value :=
  match f.factory with
  | some factory => .ofScalar (.defaultFactory factory)
  | none => f.default

end StructField

/-- Flags and metadata for one field, apart from its declaration. A flag that is none keeps its
usual value. -/
structure FieldOverride where
  repr : Option Bool
  compare : Option Bool
  init : Option Bool
  hash : Option Bool
  metadata : Metadata

namespace FieldOverride

/-- Says nothing. -/
def empty : FieldOverride := ⟨none, none, none, none, []⟩

end FieldOverride

/-- A field as a struct class reports it. -/
structure FieldInfo where
  name : String
  encodeName : String
  type : TypeRef
  default : Value
  factory : Value
  kwOnly : Bool

namespace FieldInfo

def required (f : FieldInfo) : Bool := f.default.isMissing && f.factory.isMissing

/-- The declaration that the field was laid out from. -/
def declaration (f : FieldInfo) : StructField where
  name := f.name
  type := f.type
  default := f.default
  factory := f.factory.factory?
  rename := if f.encodeName = f.name then none else some f.encodeName
  kwOnly := f.kwOnly

end FieldInfo

end FieldAtlas
