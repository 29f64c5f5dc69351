import FieldAtlas.Record.Basic
import FieldAtlas.Struct.Basic

/-!
# Class objects

What a class is shows in the tables that it exposes. The struct table wins if there are two.
-/

namespace FieldAtlas

/-- A handle on an introspector of the session. -/
structure IntrospectorId where
  index : Nat
  deriving DecidableEq

/-- A struct class that also has an object definition. -/
structure StructObject where
  layout : StructClass
  config : ObjectConfig
  /-- Where its definition is built, or none for the global introspector. -/
  via : Option IntrospectorId

/-- A class made elsewhere, which exposes the tables of others. -/
structure ForeignClass where
  id : ClassId
  name : String
  record : Option RecordClass
  struct : Option StructClass
  /-- It has an object definition, with settings that only name it. -/
  mixin : Bool

inductive ClassObject where
  | record (c : RecordClass)
  | struct (c : StructClass)
  | object (o : StructObject)
  /-- A class without fields. -/
  | plain (id : ClassId) (name : String)
  | foreign (c : ForeignClass)

/-- What a class turns out to be. -/
inductive Classification where
  | struct (c : StructClass)
  | record (c : RecordClass)
  | neither

/-- The name of a classification. -/
inductive ClassKind where
  | record
  | struct
  | neither
  deriving DecidableEq

def Classification.kind : Classification → ClassKind
  | struct _ => .struct
  | record _ => .record
  | neither => .neither

/-- How an object definition is asked for: its settings and the introspector to use. -/
structure ObjectCapability where
  config : ObjectConfig
  via : Option IntrospectorId

namespace ClassObject

def id : ClassObject → ClassId
  | record c => c.id
  | struct c => c.id
  | object o => o.layout.id
  | plain id _ => id
  | foreign c => c.id

def name : ClassObject → String
  | record c => c.name
  | struct c => c.name
  | object o => o.layout.name
  | plain _ name => name
  | foreign c => c.name

def recordTable? : ClassObject → Option RecordClass
  | record c => some c
  | foreign c => c.record
  | _ => none

def structTable? : ClassObject → Option StructClass
  | struct c => some c
  | object o => some o.layout
  | foreign c => c.struct
  | _ => none

/-- Records have an object definition of their own, structs only by an object around them. -/
def capability? : ClassObject → Option ObjectCapability
  | record c => some ⟨c.object, none⟩
  | object o => some ⟨o.config, o.via⟩
  | foreign c => if c.mixin then some ⟨.named c.name, none⟩ else none
  | _ => none

def classify (c : ClassObject) : Classification :=
  match c.structTable? with
  | some s => .struct s
  | none =>
    match c.recordTable? with
    | some r => .record r
    | none => .neither

def kind (c : ClassObject) : ClassKind := c.classify.kind

def isRecord (c : ClassObject) : Bool := c.kind == .record

def isStruct (c : ClassObject) : Bool := c.kind == .struct

def isRecordOrStruct (c : ClassObject) : Bool := c.kind != .neither

def hasDefinition (c : ClassObject) : Bool := c.capability?.isSome

end ClassObject

end FieldAtlas
