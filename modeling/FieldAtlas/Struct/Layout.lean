import FieldAtlas.Struct.Field

/-!
# Struct layouts

A layout keeps its fields in parallel tables. The table of defaults covers the fields from the
first one with a default to the last; a required field behind that point holds a marker there.
-/

namespace FieldAtlas

structure Layout where
  names : List String
  types : List TypeRef
  encodeNames : List String
  /-- Entries for the last fields. -/
  defaults : List Value
  /-- The fields from here on are given by keyword only. -/
  positionalCount : Nat

namespace Layout

/-- The tables of fields that are in order already, `positionalCount` of them by position. -/
def ofFields (positionalCount : Nat) (fields : List StructField) : Layout where
  names := fields.map StructField.name
  types := fields.map StructField.type
  encodeNames := fields.map StructField.encodeName
  defaults := (fields.dropWhile fun f => !f.hasDefault).map StructField.entry
  positionalCount := positionalCount

/-- The entry of each field in the table of defaults, if it has one. -/
def slots (l : Layout) : List (Option Value) :=
  List.replicate (l.names.length - l.defaults.length) none ++ l.defaults.map some

/-- The default and the factory that an entry stands for. -/
def decode : Option Value → Value × Value
  | none => (.unset, .unset)
  | some entry =>
    match entry.defaultFactory? with
    | some f => (.unset, .ofScalar (.factory f))
    | none => (entry, .unset)

def info (l : Layout) (index : Nat) (name : String) (type : TypeRef) (encodeName : String)
    (slot : Option Value) : FieldInfo where
  name := name
  encodeName := encodeName
  type := type
  default := (decode slot).1
  factory := (decode slot).2
  kwOnly := l.positionalCount ≤ index

/-- The fields, read back from the tables. -/
def infos (l : Layout) : List FieldInfo :=
  ((l.names.zip l.types).zip (l.encodeNames.zip l.slots)).mapIdx fun i row =>
    l.info i row.1.1 row.1.2 row.2.1 row.2.2

/-- The declarations that the layout was made from. -/
def declarations (l : Layout) : List StructField := l.infos.map FieldInfo.declaration

end Layout

end FieldAtlas
