import FieldAtlas.Class
import FieldAtlas.Field.Descriptor
import FieldAtlas.Naming
import FieldAtlas.Settings

/-!
# Object definitions

The view of a class that a schema shows: its fields without the private ones, each under a public
name.
-/

namespace FieldAtlas

structure ObjectField where
  publicName : String
  descriptor : Descriptor

structure ObjectDefinition where
  name : String
  description : Option String
  isInput : Bool
  isInterface : Bool
  /-- The class that it was made of. -/
  origin : ClassId
  fields : List ObjectField

namespace ObjectField

/-- The name in the class. -/
def name (f : ObjectField) : String := f.descriptor.name

/-- The metadata say `private`, as a truth value. -/
def isPrivate (d : Descriptor) : Bool :=
  ((d.metadataValue? "private").bind Value.bool?).getD false

/-- The text under `graphql_name` in the metadata, else the name of the field, in camel case if
that is asked for. -/
def publicNameOf (autoCamelCase : Bool) (d : Descriptor) : String :=
  match (d.metadataValue? "graphql_name").bind Value.text? with
  | some name => name
  | none => if autoCamelCase then Naming.toCamelCase d.name else d.name

def ofDescriptor (autoCamelCase : Bool) (d : Descriptor) : ObjectField :=
  ⟨publicNameOf autoCamelCase d, d⟩

def same (f g : ObjectField) : Bool :=
  f.publicName == g.publicName && f.descriptor.same g.descriptor

end ObjectField

namespace ObjectDefinition

/-- The definition of `c` over its list of fields. -/
def ofFields (c : ClassObject) (config : ObjectConfig) (autoCamelCase : Bool)
    (fields : List Descriptor) : ObjectDefinition where
  name := config.name.getD c.name
  description := config.description
  isInput := config.isInput
  isInterface := config.isInterface
  origin := c.id
  fields := (fields.filter fun d => !ObjectField.isPrivate d).map (.ofDescriptor autoCamelCase)

/-- The field of this name in the class. -/
def field? (d : ObjectDefinition) (name : String) : Option ObjectField :=
  d.fields.find? fun f => f.name == name

/-- The first field of this public name. -/
def publicField? (d : ObjectDefinition) (publicName : String) : Option ObjectField :=
  d.fields.find? fun f => f.publicName == publicName

def sameFields : List ObjectField → List ObjectField → Bool
  | [], [] => true
  | f :: fs, g :: gs => f.same g && sameFields fs gs
  | _, _ => false

def same (a b : ObjectDefinition) : Bool :=
  a.name == b.name && a.description == b.description && a.isInput == b.isInput &&
  a.isInterface == b.isInterface && a.origin == b.origin && sameFields a.fields b.fields

end ObjectDefinition

end FieldAtlas
