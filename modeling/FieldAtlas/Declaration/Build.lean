import FieldAtlas.Declaration.Plan
import FieldAtlas.Record.Basic
import FieldAtlas.Struct.Basic

/-!
# Plans carried out

What the calls of a plan make of the builders of fields and classes, once it is known what the
written types, defaults and factories mean.
-/

namespace FieldAtlas

open FieldAtlas.Source

/-- What the code in a declaration means. -/
structure Meaning where
  /-- The full name of a type. -/
  typeName : List Token → String
  default : FieldPlan → DefaultCode → Value
  factory : FieldPlan → FactoryCode → Factory

namespace Remark

/-- The value of a remark. No code stands for a number out of range. -/
def value? : Remark → Option Value
  | text _ s => some (.ofScalar (.text .owned s))
  | bool b => some (.ofScalar (.bool b))
  | int n => if int64.1 ≤ n ∧ n ≤ int64.2 then some (.ofScalar (.int .i64 n)) else none
  | float d => if d.isFinite then some (.ofScalar (.double d)) else none

/-- The metadata with the value of a remark, if it has one. -/
def addTo (r : Remark) (key : String) (d : Metadata) : Metadata :=
  match r.value? with
  | some v => d.insert key v
  | none => d

end Remark

/-- There is code for the plan, and it compiles. -/
def ClassPlan.compiles (p : ClassPlan) : Bool := p.remarks.all fun r => r.value?.isSome

namespace FieldPlan

variable (m : Meaning) (p : FieldPlan)

def typeRef : TypeRef :=
  match p.forward with
  | some f => .forward f.name
  | none => .resolved (m.typeName p.type)

/-- What a call does to the specification of a field. -/
def onSpec (f : FieldSpec) : BuilderCall → FieldSpec
  | .default d => { f with default := m.default p d }
  | .factory c => { f with factory := .ofScalar (.factory (m.factory p c)) }
  | .rename _ => f
  | .repr b => { f with repr := b }
  | .compare b => { f with compare := b }
  | .init b => { f with init := b }
  | .hash b => { f with hash := some b }
  | .kwOnly => { f with kwOnly := true }
  | .metadata key r => { f with metadata := r.addTo key f.metadata }

/-- The field of a record. -/
def spec : FieldSpec := p.calls.foldl (onSpec m p) (.plain .noDefault p.name (p.typeRef m))

/-- What a call does to the field of a struct, on which there are no flags. -/
def onStructField (f : StructField) : BuilderCall → StructField
  | .default d => { f with default := m.default p d }
  | .factory c => { f with factory := some (m.factory p c) }
  | .rename name => { f with rename := some name }
  | .kwOnly => { f with kwOnly := true }
  | _ => f

/-- The field of a struct. -/
def structField : StructField :=
  p.calls.foldl (onStructField m p) (.plain p.name (p.typeRef m))

end FieldPlan

namespace FieldOverride

/-- What a call does to an override, which has no slots. -/
def after (o : FieldOverride) : BuilderCall → FieldOverride
  | .repr b => { o with repr := some b }
  | .compare b => { o with compare := some b }
  | .init b => { o with init := some b }
  | .hash b => { o with hash := some b }
  | .metadata key r => { o with metadata := r.addTo key o.metadata }
  | _ => o

def ofCalls (calls : List BuilderCall) : FieldOverride := calls.foldl after .empty

end FieldOverride

namespace ClassPlan

variable (m : Meaning) (p : ClassPlan)

/-- The record class that the plan asks for. -/
def recordDecl (bases : List RecordClass) : RecordDecl where
  name := p.name
  bases := bases
  fields := p.fields.map (FieldPlan.spec m)
  object := p.object

/-- The struct class that the plan asks for. -/
def structDecl (bases : List StructClass) : StructDecl where
  name := p.name
  bases := bases
  fields := p.fields.map (FieldPlan.structField m)
  overrides := Dict.ofEntries (p.overrides.map fun o => (o.1, .ofCalls o.2))
  kwOnly := p.kwOnly
  frozen := p.frozen

end ClassPlan

end FieldAtlas
