import FieldAtlas.Field.TypeRef
import FieldAtlas.Object.Config
import FieldAtlas.Settings
import FieldAtlas.Value.Basic

/-!
# Steps

What can be asked of a session. Values, classes, introspectors and descriptors are named by
strings, in four tables that do not mix.
-/

namespace FieldAtlas

mutual

/-- A value as it is written down. -/
inductive ValueForm where
  | scalar (s : Scalar)
  | list (items : List ValueForm)
  | dict (entries : List (String × ValueForm))
  | wrapped (inner : ValueForm)
  /-- The one value that stands for a marker. -/
  | shared (marker : Marker)
  /-- A factory with a closure of its own. -/
  | factory (name : String) (product : ProductForm)
  /-- The same as an entry of a table of defaults. -/
  | defaultFactory (name : String) (product : ProductForm)
  /-- The value of this name, at its place. -/
  | named (name : String)

/-- What a written factory produces. -/
inductive ProductForm where
  | constant (v : ValueForm)
  | counter (first : Int)

end

/-- A field as it is written down. What is none is not said. -/
structure FieldForm where
  name : String
  type : TypeRef
  default : Option ValueForm
  factory : Option ValueForm
  /-- Put into the factory slot as it is. -/
  factorySlot : Option ValueForm
  repr : Option Bool
  hash : Option Bool
  compare : Option Bool
  init : Option Bool
  kwOnly : Option Bool
  metadata : List (String × ValueForm)
  rename : Option String

/-- An override as it is written down. -/
structure OverrideForm where
  field : String
  repr : Option Bool
  compare : Option Bool
  init : Option Bool
  hash : Option Bool
  metadata : List (String × ValueForm)

/-- The fields to look for in a definition, by either name. -/
structure Lookups where
  byName : Option (List String)
  byPublicName : Option (List String)

/-- One thing that is asked of a session: about values, descriptors, classes, their fields, their
object definitions, and the declared classes. -/
inductive Step where
  | bind (var : String) (value : ValueForm)
  | inspect (value : ValueForm)
  | compare (a b : ValueForm)
  | produce (factory : ValueForm)
  | descriptor (var : Option String) (owner : String) (field : FieldForm)
  | show (descriptor : String)
  | defaultValue (descriptor : String)
  | metadataValue (descriptor key : String)
  | compareDescriptors (a b : String)
  | descriptorSet (descriptors : List String)
  | record (var name : String) (bases : List String) (fields : List FieldForm)
      (object : Option ObjectConfig)
  | struct (var name : String) (bases : List String) (fields : List FieldForm)
      (overrides : List OverrideForm) (kwOnly frozen : Bool)
  | plain (var name : String)
  | object (var struct : String) (config : ObjectConfig) (via : Option String)
  | foreign (var name : String) (record struct : Option String) (mixin : Bool)
  | classify (c : String)
  | recordInfo (c : String)
  | structInfo (c : String)
  | isSubclass (c of : String)
  | initGlobal (settings : Settings)
  | introspector (var : String) (toml : Option String) (cacheFields autoCamelCase : Option Bool)
  | getFields (c : String) (via keep : Option String)
  | extractFields (c : String) (keep : Option String)
  | getFieldsOf (typeName : String) (keep : Option String)
  | cached (c : String) (via : Option String)
  | forget (c : String) (via : Option String)
  | clear (via : Option String)
  | definition (c : String) (strict : Bool) (lookups : Lookups)
  | buildDefinition (c : String) (config : ObjectConfig) (via : Option String) (lookups : Lookups)
  | compareDefinitions (a b : String)
  | classOf (typeName : String) (var : Option String)
  | classByName (name : String) (var : Option String)
  | listing

end FieldAtlas
