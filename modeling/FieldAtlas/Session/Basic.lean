import FieldAtlas.Catalogue
import FieldAtlas.Session.Answer
import FieldAtlas.World.Basic

/-!
# Sessions

A session is a world together with what its steps have named, and with the field lists that they
have shown so far.
-/

namespace FieldAtlas

structure Session where
  world : World
  catalogue : Catalogue
  values : Dict Value
  classes : Dict ClassObject
  introspectors : Dict IntrospectorId
  descriptors : Dict Descriptor
  /-- The numbers of the lists shown, in the order in which they were first. -/
  sighted : List Nat

/-- An operation of a session that may fail. What it did before stays done. -/
abbrev SessionM (α : Type) := ExceptT Failure (StateM Session) α

namespace Session

/-- A session in which nothing has happened. -/
def start (catalogue : Catalogue) : Session where
  world := .start catalogue.nextClass catalogue.nextPlace catalogue.closures
  catalogue := catalogue
  values := []
  classes := []
  introspectors := []
  descriptors := []
  sighted := []

/-- Identities are written by their order in the session; the declared classes have none. -/
def idText (s : Session) (id : ClassId) : String :=
  if id.number < s.catalogue.nextClass.number then "class#declared"
  else "class#" ++ toString (id.number - s.catalogue.nextClass.number + 1)

end Session

namespace SessionM

/-- An operation of the world. -/
def world {α : Type} (f : World → α × World) : SessionM α := do
  let s ← get
  let (a, w) := f s.world
  set { s with world := w }
  return a

/-- An operation of the world that may fail. -/
def tryWorld {ε α : Type} (failure : ε → Failure) (f : World → Except ε α × World) :
    SessionM α := do
  match ← world f with
  | .ok a => return a
  | .error e => throw (failure e)

def named {α : Type} (table : Session → Dict α) (name : String) : SessionM α := do
  match (table (← get)).get? name with
  | some a => return a
  | none => throw (.unbound name)

def value (name : String) : SessionM Value := named Session.values name

def classNamed (name : String) : SessionM ClassObject := named Session.classes name

def descriptor (name : String) : SessionM Descriptor := named Session.descriptors name

/-- The introspector that is meant; no name means the global one. -/
def via (name : Option String) : SessionM (Option IntrospectorId) :=
  match name with
  | none => return none
  | some name => return some (← named Session.introspectors name)

def bindClass (var : String) (c : ClassObject) : SessionM Unit :=
  modify fun s => { s with classes := s.classes.insert var c }

def bindDescriptor (var : String) (d : Descriptor) : SessionM Unit :=
  modify fun s => { s with descriptors := s.descriptors.insert var d }

/-- The number under which a list is shown: how many other lists were shown before it. -/
def sight (list : FieldList) : SessionM Nat := do
  let s ← get
  match s.sighted.idxOf? list.number with
  | some n => return n
  | none =>
    set { s with sighted := s.sighted ++ [list.number] }
    return s.sighted.length

/-- Shows a list, and names its descriptors after `keep` and their fields. -/
def showFields (keep : Option String) (list : FieldList) : SessionM Answer := do
  let number ← sight list
  match keep with
  | none => pure ()
  | some keep => list.fields.forM fun d => bindDescriptor (keep ++ "." ++ d.name) d
  return .fields number list.fields

end SessionM

end FieldAtlas
