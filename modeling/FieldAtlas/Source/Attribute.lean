import FieldAtlas.Source.Token

/-!
# Attributes

An attribute as it stands in front of an item or a field.
-/

namespace FieldAtlas.Source

/-- Names with `::` between them. -/
structure NamePath where
  /-- There is a `::` in front. -/
  leading : Bool
  /-- The names with their places; there is at least one. -/
  segments : List (Pos × String)

namespace NamePath

/-- The path is this one name and nothing else. -/
def isName (p : NamePath) (name : String) : Bool :=
  !p.leading && p.segments.map Prod.snd == [name]

/-- The name that the path is. -/
def name? (p : NamePath) : Option String :=
  match p.leading, p.segments with
  | false, [(_, name)] => some name
  | _, _ => none

/-- Where the first name starts. -/
def pos (p : NamePath) : Pos := (p.segments.head?.map Prod.fst).getD .start

end NamePath

inductive AttributeBody where
  /-- Only a path. -/
  | bare
  /-- Tokens in brackets of any kind, up to the closing one. -/
  | list (content : List Token) (closed : Pos)
  /-- A value behind an equals sign. -/
  | value (equals : Pos)

structure Attribute where
  path : NamePath
  body : AttributeBody

end FieldAtlas.Source
