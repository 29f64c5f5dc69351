import FieldAtlas.ClassId
import FieldAtlas.Text.Outline

/-!
# Events

What is worth a line in a log.
-/

namespace FieldAtlas

inductive Event where
  | builtRecord (name : String) (id : ClassId) (fieldCount : Nat)
  | builtStruct (name : String) (id : ClassId) (fields : List String)
  | extractingRecord (name : String)
  | extractingStruct (name : String)
  | cacheHit (name : String) (id : ClassId)

namespace Event

def level : Event → String
  | cacheHit .. => "TRACE"
  | _ => "DEBUG"

/-- The text of the event, where `idText` writes identities. -/
def message (idText : ClassId → String) : Event → String
  | builtRecord name id count =>
    "built record class `" ++ name ++ "` (" ++ idText id ++ ") with " ++ toString count ++ " fields"
  | builtStruct name id fields =>
    "built struct class `" ++ name ++ "` (" ++ idText id ++ ") with fields " ++
      (Text.Outline.list (fields.map fun f => .plain (Text.Quoted.string f))).line
  | extractingRecord name => "extracting fields of record `" ++ name ++ "`"
  | extractingStruct name => "extracting fields of struct `" ++ name ++ "`"
  | cacheHit name id => "field cache hit for `" ++ name ++ "` (" ++ idText id ++ ")"

def line (idText : ClassId → String) (e : Event) : String := e.level ++ " " ++ e.message idText

end Event

end FieldAtlas
