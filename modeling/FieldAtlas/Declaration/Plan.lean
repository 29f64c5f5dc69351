import FieldAtlas.Declaration.Basic

/-!
# Plans

A declaration stands for a run of builder calls. The plan is that run as data: it can be written out
as source code, and it can be carried out.
-/

namespace FieldAtlas

open FieldAtlas.Source

/-- One call on the builder of a field or of an override. -/
inductive BuilderCall where
  | default (d : DefaultCode)
  | factory (f : FactoryCode)
  | rename (name : String)
  | repr (b : Bool)
  | compare (b : Bool)
  | init (b : Bool)
  | hash (b : Bool)
  | kwOnly
  | metadata (key : String) (value : Remark)

/-- What a call puts into the metadata. -/
def BuilderCall.remark? : BuilderCall → Option Remark
  | metadata _ r => some r
  | _ => none

structure FieldPlan where
  /-- Which field of the class it is. -/
  index : Nat
  name : String
  type : List Token
  forward : Option ForwardName
  calls : List BuilderCall

structure ClassPlan where
  kind : DeclaredKind
  ident : String
  name : String
  /-- The paths of the bases. -/
  bases : List (List Token)
  fields : List FieldPlan
  /-- Calls on overrides, by field. -/
  overrides : List (String × List BuilderCall)
  kwOnly : Bool
  frozen : Bool
  /-- The settings of the object definition, if there is one. -/
  object : Option ObjectConfig

/-- All that the calls put into metadata. -/
def ClassPlan.remarks (p : ClassPlan) : List Remark :=
  (p.fields.flatMap FieldPlan.calls ++ p.overrides.flatMap Prod.snd).filterMap BuilderCall.remark?

namespace DeclaredField

/-- The calls for the two slots. -/
def slotCalls (f : DeclaredField) : List BuilderCall :=
  (f.default.map .default).toList ++ (f.factory.map .factory).toList

/-- The calls for the flags. -/
def flagCalls (f : DeclaredField) : List BuilderCall :=
  (f.repr.map .repr).toList ++ (f.compare.map .compare).toList ++ (f.init.map .init).toList ++
    (f.hash.map .hash).toList

def keywordCalls (f : DeclaredField) : List BuilderCall := if f.kwOnly then [.kwOnly] else []

def metadataCalls (f : DeclaredField) : List BuilderCall :=
  f.metadata.map fun e => .metadata e.1 e.2

/-- The calls on the field itself: all of them in a record, where there are no overrides. -/
def calls (kind : DeclaredKind) (f : DeclaredField) : List BuilderCall :=
  match kind with
  | .record => f.slotCalls ++ f.flagCalls ++ f.keywordCalls ++ f.metadataCalls
  | .compact => f.slotCalls ++ (f.rename.map .rename).toList ++ f.keywordCalls

/-- The calls on an override, which there is only if it says something. -/
def overrideCalls (f : DeclaredField) : List BuilderCall := f.flagCalls ++ f.metadataCalls

def plan (kind : DeclaredKind) (index : Nat) (f : DeclaredField) : FieldPlan where
  index := index
  name := f.name
  type := f.type
  forward := f.forward
  calls := f.calls kind

end DeclaredField

namespace DeclaredClass

/-- The overrides that say something, in the order of the fields. -/
def overrides (c : DeclaredClass) : List (String × List BuilderCall) :=
  match c.kind with
  | .record => []
  | .compact =>
    (c.fields.map fun f => (f.name, f.overrideCalls)).filter fun o => !o.2.isEmpty

def plan (c : DeclaredClass) : ClassPlan where
  kind := c.kind
  ident := c.ident
  name := c.name
  bases := c.options.bases
  fields := c.fields.mapIdx (DeclaredField.plan c.kind)
  overrides := c.overrides
  kwOnly := c.options.kwOnly
  frozen := c.options.frozen
  object := if c.kind == .record || c.options.object then some c.objectConfig else none

end DeclaredClass

end FieldAtlas
