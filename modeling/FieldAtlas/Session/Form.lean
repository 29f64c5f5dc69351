import FieldAtlas.Session.Basic

/-!
# Written values and fields

What a written value or field stands for in a session. Each value that is written down gets a place
of its own, and each factory a closure.
-/

namespace FieldAtlas

namespace SessionM

def newPlace : SessionM Place := world World.newPlace

def newFactory (name : String) (product : Product) : SessionM Factory :=
  world fun w => w.newFactory name product

end SessionM

open SessionM

mutual

def ValueForm.eval : ValueForm → SessionM Value
  | .scalar s => return .scalar (← newPlace) s
  | .list items => do
    let items ← evalItems items
    return .list (← newPlace) items
  | .dict entries => do
    let entries ← evalEntries entries
    return .dict (← newPlace) (Dict.ofEntries entries)
  | .wrapped inner => do
    let inner ← inner.eval
    return .wrapped (← newPlace) inner
  | .shared m => return .ofMarker m
  | .factory name product => do
    let f ← newFactory name (← product.eval)
    return .scalar (← newPlace) (.factory f)
  | .defaultFactory name product => do
    let f ← newFactory name (← product.eval)
    return .scalar (← newPlace) (.defaultFactory f)
  | .named name => value name

def ProductForm.eval : ProductForm → SessionM Product
  | .constant v => return .constant (← v.eval)
  | .counter first => return .counter first

def evalItems : List ValueForm → SessionM (List Value)
  | [] => return []
  | v :: vs => return (← v.eval) :: (← evalItems vs)

def evalEntries : List (String × ValueForm) → SessionM (List (String × Value))
  | [] => return []
  | (k, v) :: es => return (k, ← v.eval) :: (← evalEntries es)

end

/-- The value that may be written. -/
def evalOption : Option ValueForm → SessionM (Option Value)
  | none => return none
  | some v => return some (← v.eval)

/-- The factory that a written value has to be. -/
def evalFactory (v : ValueForm) : SessionM Factory := do
  match (← v.eval).factory? with
  | some f => return f
  | none => throw (.unfit "factory")

def evalFactoryOption : Option ValueForm → SessionM (Option Factory)
  | none => return none
  | some v => return some (← evalFactory v)

def evalMetadata (entries : List (String × ValueForm)) : SessionM Metadata :=
  return Dict.ofEntries (← evalEntries entries)

/-- The specification of a field, whose empty slots hold `absent`. -/
def FieldForm.spec (f : FieldForm) (absent : Value) : SessionM FieldSpec := do
  let default ← evalOption f.default
  let factory ← evalFactoryOption f.factory
  let slot ← evalOption f.factorySlot
  let metadata ← evalMetadata f.metadata
  let plain := FieldSpec.plain absent f.name f.type
  let made := (factory.map fun f => Value.ofScalar (.factory f)).getD plain.factory
  return { plain with
    default := default.getD plain.default
    factory := slot.getD made
    repr := f.repr.getD plain.repr
    hash := f.hash
    compare := f.compare.getD plain.compare
    init := f.init.getD plain.init
    kwOnly := f.kwOnly.getD plain.kwOnly
    metadata := metadata }

/-- The field of a struct. -/
def FieldForm.structField (f : FieldForm) : SessionM StructField := do
  let default ← evalOption f.default
  let factory ← evalFactoryOption f.factory
  let plain := StructField.plain f.name f.type
  return { plain with
    default := default.getD plain.default
    factory := factory
    rename := f.rename
    kwOnly := f.kwOnly.getD plain.kwOnly }

def OverrideForm.entry (o : OverrideForm) : SessionM (String × FieldOverride) :=
  return (o.field, ⟨o.repr, o.compare, o.init, o.hash, ← evalMetadata o.metadata⟩)

end FieldAtlas
