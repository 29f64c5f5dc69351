import FieldAtlas.ClassId
import FieldAtlas.Field.Spec
import FieldAtlas.Object.Config
import FieldAtlas.Text.Outline

/-!
# Record classes

A record class knows its bases, all its ancestors in resolution order, the fields it declares
itself and the table of all its fields.
-/

namespace FieldAtlas

structure RecordClass where
  id : ClassId
  name : String
  bases : List RecordClass
  /-- All classes above, nearest first. -/
  ancestors : List RecordClass
  /-- The fields as they were declared here. -/
  own : List FieldSpec
  /-- All fields, the inherited ones in front. -/
  fields : List FieldSpec
  object : ObjectConfig

/-- What a record class is built from. -/
structure RecordDecl where
  name : String
  bases : List RecordClass
  fields : List FieldSpec
  /-- Settings of the object definition, or none for the name of the class alone. -/
  object : Option ObjectConfig

/-- Why a record class cannot be built. -/
inductive RecordError where
  | duplicateField (owner field : String)
  | defaultAndFactory (owner field : String)
  | nonDefaultAfterDefault (owner field : String)
  | inconsistentHierarchy (owner : String) (bases : List String)
  deriving DecidableEq

def RecordError.message : RecordError → String
  | duplicateField owner field =>
    "field `" ++ field ++ "` is declared more than once in record `" ++ owner ++ "`"
  | defaultAndFactory owner field =>
    "cannot specify both default and default_factory for field `" ++ field ++
      "` of record `" ++ owner ++ "`"
  | nonDefaultAfterDefault owner field =>
    "non-default argument `" ++ field ++ "` follows default argument in record `" ++ owner ++ "`"
  | inconsistentHierarchy owner bases =>
    "cannot create a consistent resolution order for record `" ++ owner ++ "` (bases: " ++
      (Text.Outline.list (bases.map fun b => .plain (Text.Quoted.string b))).line ++ ")"

namespace RecordClass

/-- The resolution order: the class itself, then its ancestors. -/
def mro (c : RecordClass) : List RecordClass := c :: c.ancestors

def field? (c : RecordClass) (name : String) : Option FieldSpec :=
  c.fields.find? fun f => f.name == name

/-- `b` is the class itself or one of its ancestors. -/
def isSubclassOf (c b : RecordClass) : Bool := c.mro.any fun a => a.id == b.id

def outline (c : RecordClass) : Text.Outline :=
  .fields "RecordClass" [
    ("name", .plain (Text.Quoted.string c.name)),
    ("fields", .list (c.fields.map fun f => .plain (Text.Quoted.string f.name)))]

end RecordClass

end FieldAtlas
