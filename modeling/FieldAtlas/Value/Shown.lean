import FieldAtlas.Decimal.Written
import FieldAtlas.Text.Outline
import FieldAtlas.Value.Basic

/-!
# Shown values

The outline of a value. A wrapped value looks like the one inside.
-/

namespace FieldAtlas

open FieldAtlas.Text

def Marker.text : Marker → String
  | missing => "MISSING"
  | noDefault => "<record no default>"
  | unset => "UNSET"

def Factory.outline (f : Factory) : Outline := .plain ("<factory " ++ f.name ++ ">")

namespace Scalar

def ofInt (n : Int) : Outline := .plain (toString n)

def ofText (s : String) : Outline := .plain (Quoted.string s)

def ofOption : Option Outline → Outline
  | none => .plain "None"
  | some o => .tuple "Some" [o]

def outline : Scalar → Outline
  | int _ n => ofInt n
  | double d => .plain (Decimal.text .shown d)
  | bool b => .plain (if b then "true" else "false")
  | char c => .plain (Quoted.char c)
  | text _ s => ofText s
  | unit => .plain "()"
  | ints ns => .list (ns.map ofInt)
  | texts ss => .list (ss.map ofText)
  | optInt n => ofOption (n.map ofInt)
  | optText s => ofOption (s.map ofText)
  | marker m => .plain m.text
  | factory f => f.outline
  | defaultFactory f => .tuple "DefaultFactory" [f.outline]

end Scalar

namespace Value

mutual

def outline : Value → Outline
  | scalar _ s => s.outline
  | list _ items => .list (outlineItems items)
  | dict _ entries => .dict (outlineEntries entries)
  | wrapped _ inner => outline inner

def outlineItems : List Value → List Outline
  | [] => []
  | v :: vs => outline v :: outlineItems vs

def outlineEntries : List (String × Value) → List (String × Outline)
  | [] => []
  | (k, v) :: es => (k, outline v) :: outlineEntries es

end

/-- The value on one line. -/
def shown (v : Value) : String := v.outline.line

end Value

end FieldAtlas
