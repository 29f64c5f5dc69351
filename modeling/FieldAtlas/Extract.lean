import FieldAtlas.Class
import FieldAtlas.Error

/-!
# Extracting fields

The list of descriptors of a class, in the order of its table, or the first thing that is wrong.
-/

namespace FieldAtlas

namespace StructClass

/-- The least name in the overrides that is no field. -/
def unknownOverride? (c : StructClass) : Option String :=
  c.overrides.keys.find? fun key => !c.infos.any fun f => f.name == key

/-- The specification of a field, with what the overrides say. The encoded name goes into the
metadata, unless that key is taken. -/
def spec (c : StructClass) (f : FieldInfo) : FieldSpec :=
  let said := (c.override? f.name).getD .empty
  { name := f.name
    type := f.type
    default := f.default.orMissing
    factory := f.factory.orMissing
    repr := said.repr.getD true
    hash := said.hash
    compare := said.compare.getD true
    init := said.init.getD true
    kwOnly := f.kwOnly
    metadata :=
      if f.encodeName = f.name then said.metadata
      else said.metadata.insertNew "encode_name" (.ofScalar (.text .owned f.encodeName)) }

/-- The descriptor of a field. A field that no constructor takes must not be required. -/
def describe (c : StructClass) (f : FieldInfo) : Except ConfigurationError Descriptor :=
  let spec := c.spec f
  if !spec.init && f.required then .error ⟨c.name, f.name, .excludedAndRequired⟩
  else Descriptor.make c.name spec

def extract (c : StructClass) : Except ConfigurationError (List Descriptor) :=
  match c.unknownOverride? with
  | some key => .error ⟨c.name, key, .unknownOverride⟩
  | none => c.infos.mapM c.describe

end StructClass

namespace RecordClass

def describe (c : RecordClass) (f : FieldSpec) : Except ConfigurationError Descriptor :=
  Descriptor.make c.name { f with default := f.default.orMissing, factory := f.factory.orMissing }

def extract (c : RecordClass) : Except ConfigurationError (List Descriptor) :=
  c.fields.mapM c.describe

end RecordClass

/-- The fields of a class. -/
def extractFields (c : ClassObject) : Except FieldError (List Descriptor) :=
  match c.classify with
  | .struct s => s.extract.mapError .configuration
  | .record r => r.extract.mapError .configuration
  | .neither => .error (.classification c.name)

end FieldAtlas
