import FieldAtlas.Proofs.Extract
import FieldAtlas.Proofs.Same
import FieldAtlas.Record.Build
import FieldAtlas.Struct.Build

/-!
# Fields in both forms

A shared field can be written as a field of a record class, and as a field of a struct class with an
override beside it. The two forms come to one description.
-/

namespace FieldAtlas

/-! ## Shared fields -/

/-- A field for both forms, by position. Its values are handed to both, and are the same there. -/
structure SharedField where
  name : String
  type : TypeRef
  default : Option Value
  factory : Option Factory
  repr : Option Bool
  compare : Option Bool
  init : Option Bool
  hash : Option Bool
  metadata : Metadata
  held_default : ∀ v ∈ default, v.Held
  /-- No entry of a table of defaults, which would count as a factory. -/
  plain_default : ∀ v ∈ default, v.defaultFactory? = none
  held_metadata : ∀ e ∈ metadata, e.2.Held
  taken : init.getD true = true

namespace SharedField

def record (f : SharedField) : FieldSpec where
  name := f.name
  type := f.type
  default := f.default.getD .noDefault
  factory := (f.factory.map fun g => Value.ofScalar (.factory g)).getD .noDefault
  repr := f.repr.getD true
  hash := f.hash
  compare := f.compare.getD true
  init := f.init.getD true
  kwOnly := false
  metadata := f.metadata

def struct (f : SharedField) : StructField :=
  ⟨f.name, f.type, f.default.getD .unset, f.factory, none, false⟩

def override (f : SharedField) : FieldOverride := ⟨f.repr, f.compare, f.init, f.hash, f.metadata⟩

def hasDefault (f : SharedField) : Bool := f.default.any (fun v => !v.isMissing) || f.factory.isSome

def hasBoth (f : SharedField) : Bool := f.default.any (fun v => !v.isMissing) && f.factory.isSome

/-- What either form comes to. -/
def descriptor (f : SharedField) : Descriptor where
  name := f.name
  type := f.type
  default := (f.default.getD .missing).orMissing
  factorySlot := (f.factory.map fun g => Value.ofScalar (.factory g)).getD .missing
  repr := f.repr.getD true
  hash := f.hash
  compare := f.compare.getD true
  init := true
  kwOnly := false
  metadata := f.metadata

theorem hasDefault_record (f : SharedField) : f.record.hasDefault = f.hasDefault := by
  unfold FieldSpec.hasDefault hasDefault record
  cases f.default <;> cases f.factory <;> simp

theorem hasDefault_struct (f : SharedField) : f.struct.hasDefault = f.hasDefault := by
  unfold StructField.hasDefault hasDefault struct
  cases f.default <;> simp

theorem hasBoth_record (f : SharedField) : f.record.hasBoth = f.hasBoth := by
  unfold FieldSpec.hasBoth hasBoth record
  cases f.default <;> cases f.factory <;> simp

theorem hasBoth_struct (f : SharedField) : f.struct.hasBoth = f.hasBoth := by
  unfold StructField.hasBoth hasBoth struct
  cases f.default <;> simp

theorem isPositional_record (f : SharedField) : RecordDecl.isPositional f.record = true := by
  simp [RecordDecl.isPositional, record, f.taken]

theorem same_descriptor (f : SharedField) : f.descriptor.same f.descriptor = true := by
  have hdefault : (f.default.getD .missing).Held := by
    cases h : f.default with
    | none => exact Value.held_ofMarker .missing
    | some v => exact f.held_default v h
  have hfactory : f.descriptor.factorySlot.same f.descriptor.factorySlot = true := by
    unfold descriptor
    cases f.factory with
    | none => exact Value.same_self (Value.held_ofMarker .missing)
    | some g => exact Value.Lasting.same_self (Or.inr rfl)
  exact Descriptor.same_self (Value.same_self (Value.held_orMissing hdefault)) hfactory
    fun e he => Value.same_self (f.held_metadata e he)

/-! ## Description -/

theorem isMissing_default {f : SharedField} (h : f.hasBoth = false) {g : Factory}
    (hg : f.factory = some g) : (f.default.getD .missing).isMissing = true := by
  unfold hasBoth at h
  cases hd : f.default with
  | none => simp
  | some v => simpa [hd, hg] using h

theorem make_spec {f : SharedField} (h : f.hasBoth = false) (owner : String) :
    Descriptor.make owner f.descriptor.spec = .ok f.descriptor := by
  unfold Descriptor.make Descriptor.checkFactory Descriptor.spec descriptor
  cases hg : f.factory with
  | none => simp [bind, Except.bind]
  | some g =>
    have hfactory : (Value.ofScalar (.factory g)).factory? = some g := rfl
    have hmissing := isMissing_default h hg
    simp [bind, Except.bind, hfactory, Value.isMissing_orMissing, hmissing]

theorem describe_record {f : SharedField} (h : f.hasBoth = false) (c : RecordClass) :
    c.describe f.record = .ok f.descriptor := by
  have hdefault : (f.default.getD .noDefault).orMissing = (f.default.getD .missing).orMissing := by
    cases f.default with
    | none => simp [Value.orMissing]
    | some v => rfl
  have hspec : { f.record with
      default := f.record.default.orMissing
      factory := f.record.factory.orMissing } = f.descriptor.spec := by
    unfold record descriptor Descriptor.spec
    simp only [hdefault, f.taken]
    cases f.factory <;> simp [Value.orMissing]
  rw [RecordClass.describe, hspec, make_spec h]

/-- The layout holds one entry for both slots, which is enough to tell what is in each. -/
theorem slots_struct {f : SharedField} (h : f.hasBoth = false) :
    f.struct.info.default.orMissing = f.descriptor.default ∧
      f.struct.info.factory.orMissing = f.descriptor.factorySlot := by
  unfold StructField.info StructField.entry struct descriptor
  cases hg : f.factory with
  | some g =>
    have hentry : (Value.ofScalar (.defaultFactory g)).defaultFactory? = some g := rfl
    simp [Layout.decode, hentry, Value.orMissing, isMissing_default h hg]
  | none =>
    cases hd : f.default with
    | none =>
      have hunset : Value.unset.defaultFactory? = none := rfl
      simp [Layout.decode, hunset, Value.orMissing]
    | some v => simp [Layout.decode, f.plain_default v hd, Value.orMissing]

theorem spec_struct {f : SharedField} (h : f.hasBoth = false) {c : StructClass}
    (hover : c.override? f.name = some f.override) : c.spec f.struct.info = f.descriptor.spec := by
  have hname : f.struct.info.name = f.name := rfl
  have hencode : f.struct.info.encodeName = f.name := rfl
  unfold StructClass.spec
  simp only [hname, hover, hencode, if_true, Option.getD_some, (slots_struct h).1, (slots_struct h).2]
  unfold override Descriptor.spec
  rw [f.taken]
  rfl

theorem describe_struct {f : SharedField} (h : f.hasBoth = false) {c : StructClass}
    (hover : c.override? f.name = some f.override) :
    c.describe f.struct.info.settled = .ok f.descriptor := by
  have hinit : f.descriptor.spec.init = true := rfl
  rw [StructClass.describe_settled, StructClass.describe, spec_struct h hover, hinit, make_spec h]
  rfl

end SharedField

/-! ## Shared classes -/

/-- A class for both forms. The overrides of the struct class are given for the fields it declares. -/
structure SharedClass where
  name : String
  fields : List SharedField
  object : Option ObjectConfig
  frozen : Bool

namespace SharedClass

def record (c : SharedClass) (base : Option RecordClass) : RecordDecl :=
  ⟨c.name, base.toList, c.fields.map SharedField.record, c.object⟩

def overrides (c : SharedClass) : Dict FieldOverride :=
  .ofEntries (c.fields.map fun f => (f.name, f.override))

def struct (c : SharedClass) (base : Option StructClass) : StructDecl :=
  ⟨c.name, base.toList, c.fields.map SharedField.struct, c.overrides, false, c.frozen⟩

end SharedClass

end FieldAtlas
