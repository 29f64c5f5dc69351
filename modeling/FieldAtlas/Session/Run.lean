import FieldAtlas.Session.Form

/-!
# Running steps

The answer of a session to each step.
-/

namespace FieldAtlas

namespace SessionM

/-- Names a class and says what it is. -/
def made (var : String) (c : ClassObject) : SessionM Answer := do
  bindClass var c
  return .classMade c.name c.id

def recordBase (name : String) : SessionM RecordClass := do
  match (← classNamed name).recordTable? with
  | some c => return c
  | none => throw (.unfit name)

def structBase (name : String) : SessionM StructClass := do
  match (← classNamed name).structTable? with
  | some c => return c
  | none => throw (.unfit name)

def optional {α : Type} (f : String → SessionM α) : Option String → SessionM (Option α)
  | none => return none
  | some name => return some (← f name)

/-- The definition together with what was looked for in it. -/
def view (lookups : Lookups) (d : ObjectDefinition) : DefinitionView where
  definition := d
  byName := lookups.byName.map fun names => names.map fun n => (n, d.field? n)
  byPublicName := lookups.byPublicName.map fun names => names.map fun n => (n, d.publicField? n)

/-- Both definitions are there and equal, or neither is there. -/
def sameDefinition : Option ObjectDefinition → Option ObjectDefinition → Bool
  | none, none => true
  | some a, some b => a.same b
  | _, _ => false

/-- The settings of a new introspector: those of a document, else the standard ones, each with the
switches that are given. -/
def settings (toml : Option String) (cacheFields autoCamelCase : Option Bool) :
    SessionM Settings := do
  match toml with
  | some source =>
    match Settings.ofToml source with
    | .ok s => return s
    | .error e => throw (.settings e)
  | none =>
    return ⟨cacheFields.getD Settings.standard.cacheFields,
      autoCamelCase.getD Settings.standard.autoCamelCase⟩

/-- Does what a step asks. -/
def ofStep : Step → SessionM Answer
  | .bind var form => do
    let v ← form.eval
    modify fun s => { s with values := s.values.insert var v }
    return .value v
  | .inspect form => do
    let v ← form.eval
    return .inspected v (v.same v)
  | .compare a b => do
    let a ← a.eval
    let b ← b.eval
    return .compared (a.same b) (b.same a) (a.samePlace b)
  | .produce form => do
    let f ← evalFactory form
    return .produced f (← world fun w => w.produce f)
  | .descriptor var owner field => do
    let spec ← field.spec .missing
    match Descriptor.make owner spec with
    | .error e => throw (.field (.configuration e))
    | .ok d =>
      match var with
      | none => pure ()
      | some var => bindDescriptor var d
      return .descriptor d
  | .show name => return .shown (← descriptor name)
  | .defaultValue name => do
    let d ← descriptor name
    let v ← world fun w => w.defaultValue d
    return .start v ((v.map d.default.samePlace).getD false)
  | .metadataValue name key => return .valueOrNone ((← descriptor name).metadataValue? key)
  | .compareDescriptors a b => do
    let a ← descriptor a
    let b ← descriptor b
    return .comparedDescriptors (a.same b) (a.hashKey == b.hashKey)
  | .descriptorSet names => do
    let ds ← names.mapM descriptor
    let (new, set) := Descriptor.insertAll [] ds
    return .descriptorSet new set.length
  | .record var name bases fields object => do
    let bases ← bases.mapM recordBase
    let fields ← fields.mapM fun f => f.spec .noDefault
    let c ← tryWorld (fun e => .field (.record e)) fun w =>
      w.buildRecord ⟨name, bases, fields, object⟩
    made var (.record c)
  | .struct var name bases fields overrides kwOnly frozen => do
    let bases ← bases.mapM structBase
    let fields ← fields.mapM FieldForm.structField
    let overrides ← overrides.mapM OverrideForm.entry
    let c ← tryWorld (fun e => .field (.struct e)) fun w =>
      w.buildStruct ⟨name, bases, fields, Dict.ofEntries overrides, kwOnly, frozen⟩
    made var (.struct c)
  | .plain var name => do
    let c ← world fun w => w.newPlain name
    made var c
  | .object var struct config viaName => do
    let layout ← structBase struct
    made var (.object ⟨layout, config, ← via viaName⟩)
  | .foreign var name record struct mixin => do
    let record ← optional recordBase record
    let struct ← optional structBase struct
    let c ← world fun w => w.newForeign name record struct mixin
    made var c
  | .classify c => return .classified (← classNamed c)
  | .recordInfo c => return .recordInfo (← classNamed c).recordTable?
  | .structInfo c => return .structInfo (← classNamed c).structTable?
  | .isSubclass c of => return .truth ((← recordBase c).isSubclassOf (← recordBase of))
  | .initGlobal settings => return .settings (← tryWorld .global fun w => w.initGlobal settings)
  | .introspector var toml cacheFields autoCamelCase => do
    let s ← settings toml cacheFields autoCamelCase
    let id ← world fun w => w.newIntrospector s
    modify fun session => { session with introspectors := session.introspectors.insert var id }
    return .settings s
  | .getFields c viaName keep => do
    let c ← classNamed c
    let i ← via viaName
    showFields keep (← tryWorld .field fun w => w.getFields i c)
  | .extractFields c keep => do
    let c ← classNamed c
    showFields keep (← tryWorld .field fun w => w.extractFields c)
  | .getFieldsOf typeName keep => do
    match (← get).catalogue.ofType? typeName with
    | none => throw (.field (.classification typeName))
    | some entry =>
      match entry.outcome with
      | .error e => throw (.field e)
      | .ok c => showFields keep (← tryWorld .field fun w => w.getFields none c)
  | .cached c viaName => do
    let c ← classNamed c
    let i ← via viaName
    match (← get).world.cached? i c with
    | none => return .listNumber none
    | some list => return .listNumber (some (← sight list))
  | .forget c viaName => do
    let c ← classNamed c
    let i ← via viaName
    return .truth (← world fun w => w.forget i c)
  | .clear viaName => do
    let i ← via viaName
    world fun w => ((), w.clear i)
    return .nothing
  | .definition c strict lookups => do
    let c ← classNamed c
    let d ← tryWorld .field fun w => w.definition c strict
    return .definition (d.map (view lookups))
  | .buildDefinition c config viaName lookups => do
    let c ← classNamed c
    let i ← via viaName
    let d ← tryWorld .field fun w => w.buildDefinition i c config
    return .definition (some (view lookups d))
  | .compareDefinitions a b => do
    let a ← classNamed a
    let b ← classNamed b
    let a ← tryWorld .field fun w => w.definition a false
    let b ← tryWorld .field fun w => w.definition b false
    return .comparedDefinitions (sameDefinition a b) a.isSome b.isSome
  | .classOf typeName var => do
    match (← get).catalogue.ofType? typeName with
    | none => return .declared none
    | some entry =>
      match entry.outcome with
      | .error e => throw (.field e)
      | .ok c =>
        match var with
        | none => pure ()
        | some var => bindClass var c
        return .declared (some (c.name, c.id, entry.className))
  | .classByName name var => do
    match (← get).catalogue.ofName? name with
    | none => return .declaredByName none
    | some entry =>
      match entry.outcome with
      | .error e => throw (.field e)
      | .ok c =>
        match var with
        | none => pure ()
        | some var => bindClass var c
        return .declaredByName (some (c.name, c.id))
  | .listing => return .listing (← get).catalogue.listing

end SessionM

namespace Session

/-- One step: its answer, the events on the way, and the session after it. -/
def step (s : Session) (step : Step) : (Except Failure Answer × List Event) × Session :=
  let quiet := { s with world := { s.world with events := [] } }
  let (answer, s) := (SessionM.ofStep step).run.run quiet
  ((answer, s.world.events), s)

end Session

end FieldAtlas
