import FieldAtlas.Field.Table
import FieldAtlas.Record.Basic
import FieldAtlas.Record.Linearization

/-!
# Building record classes

The own fields are checked one by one, then the bases are put in order, the tables of all ancestors
are merged from the furthest to the nearest with the own fields last, and the order of the fields
that a constructor takes by position is checked.
-/

namespace FieldAtlas.RecordDecl

/-- The order of all ancestors: it keeps the order of every base, and that of the bases. -/
def ancestors? (d : RecordDecl) : Option (List RecordClass) :=
  Linearization.merge? RecordClass.id (d.bases.map RecordClass.mro ++ [d.bases])

/-- The tables of the ancestors from the furthest to the nearest, then the own fields. -/
def table (d : RecordDecl) (ancestors : List RecordClass) : List FieldSpec :=
  let inherited := ancestors.reverse.foldl (fun t c => Table.putAll FieldSpec.name t c.fields) []
  Table.putAll FieldSpec.name inherited d.fields

/-- The field is taken by position. -/
def isPositional (f : FieldSpec) : Bool := f.init && !f.kwOnly

def ownError? (d : RecordDecl) : Option RecordError :=
  match Table.ownFault? FieldSpec.name FieldSpec.hasBoth [] d.fields with
  | none => none
  | some (.duplicate, field) => some (.duplicateField d.name field)
  | some (.defaultAndFactory, field) => some (.defaultAndFactory d.name field)

/-- The first required field by position after one with a default. -/
def misplaced? (table : List FieldSpec) : Option FieldSpec :=
  Table.misplaced? FieldSpec.hasDefault false (table.filter isPositional)

/-- The class with the identity `id`, or the first thing that is wrong. -/
def build (d : RecordDecl) (id : ClassId) : Except RecordError RecordClass :=
  match d.ownError? with
  | some e => .error e
  | none =>
    match d.ancestors? with
    | none => .error (.inconsistentHierarchy d.name (d.bases.map RecordClass.name))
    | some ancestors =>
      let fields := d.table ancestors
      match misplaced? fields with
      | some f => .error (.nonDefaultAfterDefault d.name f.name)
      | none =>
        .ok {
          id := id
          name := d.name
          bases := d.bases
          ancestors := ancestors
          own := d.fields
          fields := fields
          object := d.object.getD (.named d.name) }

end FieldAtlas.RecordDecl
