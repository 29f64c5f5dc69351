import FieldAtlas.Field.Table
import FieldAtlas.Struct.Basic

/-!
# Building struct classes

The own fields are checked one by one. The declarations of the bases are merged from the last base
to the first with the own ones last, and so are the overrides, where a field that is declared again
loses the override it inherited. Fields by position come first, in an order that is checked.
-/

namespace FieldAtlas.StructDecl

/-- An own field, by keyword only if the whole class says so. -/
def ownField (d : StructDecl) (f : StructField) : StructField :=
  { f with kwOnly := f.kwOnly || d.kwOnly }

/-- The declarations of all fields, in the order in which their names first came up. -/
def declared (d : StructDecl) : List StructField :=
  let inherited := d.bases.reverse.foldl
    (fun t b => Table.putAll StructField.name t b.layout.declarations) []
  Table.putAll StructField.name inherited (d.fields.map d.ownField)

/-- The overrides of the bases without those of fields declared here, under the own ones. -/
def mergedOverrides (d : StructDecl) : Dict FieldOverride :=
  let inherited := d.bases.reverse.foldl (fun o b => Dict.extend o b.overrides) []
  let kept := d.fields.foldl (fun o f => Dict.erase f.name o) inherited
  Dict.extend kept d.overrides

def ownError? (d : StructDecl) : Option StructError :=
  match Table.ownFault? StructField.name StructField.hasBoth [] d.fields with
  | none => none
  | some (.duplicate, field) => some (.duplicateField d.name field)
  | some (.defaultAndFactory, field) => some (.defaultAndFactory d.name field)

/-- The class with the identity `id`, or the first thing that is wrong. -/
def build (d : StructDecl) (id : ClassId) : Except StructError StructClass :=
  match d.ownError? with
  | some e => .error e
  | none =>
    let positional := d.declared.filter fun f => !f.kwOnly
    let keyword := d.declared.filter fun f => f.kwOnly
    match Table.misplaced? StructField.hasDefault false positional with
    | some f => .error (.requiredAfterOptional d.name f.name)
    | none =>
      .ok {
        id := id
        name := d.name
        bases := d.bases
        own := d.fields
        ownOverrides := d.overrides
        ownKwOnly := d.kwOnly
        layout := .ofFields positional.length (positional ++ keyword)
        overrides := d.mergedOverrides
        frozen := d.frozen }

end FieldAtlas.StructDecl
