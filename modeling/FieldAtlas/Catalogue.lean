import FieldAtlas.Class
import FieldAtlas.Error
import FieldAtlas.World.Closure

/-!
# Catalogues

The classes that are declared with types, found by the type or by the name of the class. A class
whose declaration cannot be built answers with the same error each time.
-/

namespace FieldAtlas

structure CatalogueEntry where
  typeName : String
  className : String
  outcome : Except FieldError ClassObject

/-- Declared classes, with the closures of their factories and the numbers they have used up. -/
structure Catalogue where
  entries : List CatalogueEntry
  closures : List Closure
  nextClass : ClassId
  nextPlace : Nat

namespace Catalogue

def empty : Catalogue := ⟨[], [], ⟨1⟩, 0⟩

/-- The class declared with a type, or none. -/
def ofType? (c : Catalogue) (typeName : String) : Option CatalogueEntry :=
  c.entries.find? fun e => e.typeName == typeName

/-- The class declared under a name, or none. -/
def ofName? (c : Catalogue) (className : String) : Option CatalogueEntry :=
  c.entries.find? fun e => e.className == className

/-- Pairs in the order of their texts. -/
def ordered (a b : String × String) : Bool :=
  a.1 < b.1 || (a.1 == b.1 && !(b.2 < a.2))

/-- The names of all classes with those of their types, in order. -/
def listing (c : Catalogue) : List (String × String) :=
  (c.entries.map fun e => (e.className, e.typeName)).mergeSort ordered

end Catalogue

end FieldAtlas
