import FieldAtlas.Introspector
import FieldAtlas.Object.Definition
import FieldAtlas.Record.Build
import FieldAtlas.Struct.Build
import FieldAtlas.World.Closure
import FieldAtlas.World.Event

/-!
# The world

All that outlives one operation: the next free numbers, the closures with their calls, and the
introspectors with their caches. Each operation gives its result and the world after it.
-/

namespace FieldAtlas

structure World where
  nextClass : ClassId
  nextPlace : Nat
  nextList : Nat
  closures : List Closure
  global : Introspector
  /-- The introspectors apart from the global one. -/
  others : List Introspector
  /-- What has happened, the latest last. -/
  events : List Event

namespace World

/-- A world in which the first class to be built is `firstClass`. -/
def start (firstClass : ClassId) (nextPlace : Nat) (closures : List Closure) : World where
  nextClass := firstClass
  nextPlace := nextPlace
  nextList := 0
  closures := closures
  global := .new .standard
  others := []
  events := []

def note (w : World) (e : Event) : World := { w with events := w.events ++ [e] }

/-! ## Values -/

/-- A place where no value has been yet. -/
def newPlace (w : World) : Place × World :=
  (.numbered w.nextPlace, { w with nextPlace := w.nextPlace + 1 })

/-- A factory with a closure of its own. -/
def newFactory (w : World) (name : String) (product : Product) : Factory × World :=
  (⟨name, w.closures.length⟩, { w with closures := w.closures ++ [.new product] })

/-- Calls the closure of a factory. -/
def produce (w : World) (f : Factory) : Value × World :=
  match w.closures[f.closure]? with
  | none => (.missing, w)
  | some c => (c.next, { w with closures := w.closures.set f.closure c.called })

/-- The declared default of a field, else a product of its factory. -/
def defaultValue (w : World) (d : Descriptor) : Option Value × World :=
  match d.start? with
  | none => (none, w)
  | some (.stored v) => (some v, w)
  | some (.produced f) =>
    let (v, w) := w.produce f
    (some v, w)

/-! ## Classes -/

/-- A class identity that has not been used. -/
def takeClassId (w : World) : ClassId × World :=
  (w.nextClass, { w with nextClass := w.nextClass.next })

/-- Builds a record class. Only success takes an identity. -/
def buildRecord (w : World) (d : RecordDecl) : Except RecordError RecordClass × World :=
  match d.build w.nextClass with
  | .error e => (.error e, w)
  | .ok c =>
    let w := { w with nextClass := w.nextClass.next }
    (.ok c, w.note (.builtRecord c.name c.id c.fields.length))

/-- Builds a struct class. Only success takes an identity. -/
def buildStruct (w : World) (d : StructDecl) : Except StructError StructClass × World :=
  match d.build w.nextClass with
  | .error e => (.error e, w)
  | .ok c =>
    let w := { w with nextClass := w.nextClass.next }
    (.ok c, w.note (.builtStruct c.name c.id c.layout.names))

def newPlain (w : World) (name : String) : ClassObject × World :=
  let (id, w) := w.takeClassId
  (.plain id name, w)

def newForeign (w : World) (name : String) (record : Option RecordClass)
    (struct : Option StructClass) (mixin : Bool) : ClassObject × World :=
  let (id, w) := w.takeClassId
  (.foreign ⟨id, name, record, struct, mixin⟩, w)

/-! ## Introspectors -/

def newIntrospector (w : World) (settings : Settings) : IntrospectorId × World :=
  (⟨w.others.length⟩, { w with others := w.others ++ [.new settings] })

/-- Sets up the global introspector. One is in use from the start, so that this is refused. -/
def initGlobal (w : World) (settings : Settings) : Except GlobalError Settings × World :=
  match Introspector.initGlobal (some w.global) settings with
  | .error e => (.error e, w)
  | .ok i => (.ok i.settings, { w with global := i })

/-- The introspector that is meant; none is the global one. -/
def introspector (w : World) : Option IntrospectorId → Introspector
  | none => w.global
  | some id => w.others.getD id.index w.global

def setIntrospector (w : World) (via : Option IntrospectorId) (i : Introspector) : World :=
  match via with
  | none => { w with global := i }
  | some id => { w with others := w.others.set id.index i }

/-- What an extraction of the fields of `c` leaves in the log. -/
def noteExtraction (w : World) (c : ClassObject) : World :=
  match c.classify with
  | .struct _ => w.note (.extractingStruct c.name)
  | .record _ => w.note (.extractingRecord c.name)
  | .neither => w

/-- The fields of a class without any introspector, as a list of its own. -/
def extractFields (w : World) (c : ClassObject) : Except FieldError FieldList × World :=
  let w := w.noteExtraction c
  match FieldAtlas.extractFields c with
  | .error e => (.error e, w)
  | .ok fields => (.ok ⟨w.nextList, fields⟩, { w with nextList := w.nextList + 1 })

/-- The fields of a class through an introspector. -/
def getFields (w : World) (via : Option IntrospectorId) (c : ClassObject) :
    Except FieldError FieldList × World :=
  let i := w.introspector via
  let w :=
    match i.hit? c.id with
    | some _ => w.note (.cacheHit c.name c.id)
    | none => w.noteExtraction c
  match i.getFields c w.nextList with
  | .error e => (.error e, w)
  | .ok (list, i) => (.ok list, { w with nextList := w.nextList + 1 }.setIntrospector via i)

def cached? (w : World) (via : Option IntrospectorId) (c : ClassObject) : Option FieldList :=
  (w.introspector via).cached? c.id

/-- Drops the list of a class, and says whether there was one. -/
def forget (w : World) (via : Option IntrospectorId) (c : ClassObject) : Bool × World :=
  ((w.cached? via c).isSome, w.setIntrospector via ((w.introspector via).forget c.id))

def clear (w : World) (via : Option IntrospectorId) : World :=
  w.setIntrospector via (w.introspector via).clear

/-! ## Object definitions -/

/-- The definition of a class with these settings, over its fields through an introspector. -/
def buildDefinition (w : World) (via : Option IntrospectorId) (c : ClassObject)
    (config : ObjectConfig) : Except FieldError ObjectDefinition × World :=
  match w.getFields via c with
  | (.error e, w) => (.error e, w)
  | (.ok list, w') =>
    (.ok (.ofFields c config (w.introspector via).settings.autoCamelCase list.fields), w')

/-- The definition that a class offers. Without one there is none, or an error if it is insisted
on. -/
def definition (w : World) (c : ClassObject) (strict : Bool) :
    Except FieldError (Option ObjectDefinition) × World :=
  match c.capability? with
  | none => (if strict then .error (.notAnObjectType c.name) else .ok none, w)
  | some capability =>
    match w.buildDefinition capability.via c capability.config with
    | (.error e, w) => (.error e, w)
    | (.ok d, w) => (.ok (some d), w)

end World

end FieldAtlas
