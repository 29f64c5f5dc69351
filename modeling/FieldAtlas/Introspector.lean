import FieldAtlas.Extract
import FieldAtlas.Settings

/-!
# Introspectors

An introspector hands out the field list of a class. With caching on it keeps the first list of
each class and hands that one out until it is told to forget it. A failure is never kept.
-/

namespace FieldAtlas

/-- A list of descriptors that is shared by all who hold it, told apart by its number. -/
structure FieldList where
  number : Nat
  fields : List Descriptor

structure Introspector where
  settings : Settings
  /-- At most one list for each class. -/
  cache : List (ClassId × FieldList)

/-- Why the global introspector cannot be set up. -/
inductive GlobalError where
  | alreadyInitialised
  deriving DecidableEq

def GlobalError.message : GlobalError → String
  | alreadyInitialised => "the global introspector is already initialised"

namespace Introspector

/-- An introspector that has seen nothing. -/
def new (settings : Settings) : Introspector := ⟨settings, []⟩

/-- Sets up the global introspector, unless one is in use. -/
def initGlobal (used : Option Introspector) (settings : Settings) :
    Except GlobalError Introspector :=
  match used with
  | some _ => .error .alreadyInitialised
  | none => .ok (new settings)

/-- The list that is kept for a class. -/
def cached? (i : Introspector) (id : ClassId) : Option FieldList :=
  (i.cache.find? fun e => e.1 == id).map Prod.snd

/-- Drops the list of one class. -/
def forget (i : Introspector) (id : ClassId) : Introspector :=
  { i with cache := i.cache.filter fun e => e.1 != id }

def clear (i : Introspector) : Introspector := { i with cache := [] }

/-- Keeps a list unless there is one for the class already. -/
def keep (i : Introspector) (id : ClassId) (list : FieldList) : Introspector :=
  match i.cached? id with
  | some _ => i
  | none => { i with cache := (id, list) :: i.cache }

/-- The list that answers without extracting anything. -/
def hit? (i : Introspector) (id : ClassId) : Option FieldList :=
  if i.settings.cacheFields then i.cached? id else none

/-- The fields of a class, and the introspector after it. A list that has to be made gets the given
number. -/
def getFields (i : Introspector) (c : ClassObject) (number : Nat) :
    Except FieldError (FieldList × Introspector) :=
  match i.hit? c.id with
  | some list => .ok (list, i)
  | none =>
    match extractFields c with
    | .error e => .error e
    | .ok fields =>
      let list := ⟨number, fields⟩
      .ok (list, if i.settings.cacheFields then i.keep c.id list else i)

end Introspector

end FieldAtlas
