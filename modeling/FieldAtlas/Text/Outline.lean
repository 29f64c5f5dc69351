import FieldAtlas.Text.Quoted

/-!
# Outlines

The shape of a value to be shown, and its two forms: on one line, and one entry a line with four
spaces for each level.
-/

namespace FieldAtlas.Text

inductive Outline where
  | plain (text : String)
  | list (items : List Outline)
  | dict (entries : List (String × Outline))
  | tuple (name : String) (items : List Outline)
  | fields (name : String) (entries : List (String × Outline))

namespace Outline

/-- Every line but the first moves in by one level. -/
def indented (s : String) : String :=
  String.join (s.toList.map fun c => if c = '\n' then "\n    " else c.toString)

/-- Entries in brackets on one line. -/
def inLine (opening closing : String) (entries : List String) : String :=
  opening ++ ", ".intercalate entries ++ closing

/-- Entries in brackets, one a line; no entries stay on one line. -/
def stacked (opening closing : String) (entries : List String) : String :=
  if entries.isEmpty then opening ++ closing
  else
    opening ++ "\n" ++ String.join (entries.map fun e => "    " ++ indented e ++ ",\n") ++ closing

mutual

/-- The form on one line. -/
def line : Outline → String
  | plain text => text
  | list items => inLine "[" "]" (lineAll items)
  | dict entries => inLine "\x7b" "\x7d" (lineEntries Quoted.string entries)
  | tuple name items => inLine (name ++ "(") ")" (lineAll items)
  | fields name entries => inLine (name ++ " \x7b ") " \x7d" (lineEntries id entries)

def lineAll : List Outline → List String
  | [] => []
  | o :: os => line o :: lineAll os

def lineEntries (key : String → String) : List (String × Outline) → List String
  | [] => []
  | (k, o) :: es => (key k ++ ": " ++ line o) :: lineEntries key es

end

mutual

/-- The form with one entry a line. -/
def block : Outline → String
  | plain text => text
  | list items => stacked "[" "]" (blockAll items)
  | dict entries => stacked "\x7b" "\x7d" (blockEntries Quoted.string entries)
  | tuple name items => stacked (name ++ "(") ")" (blockAll items)
  | fields name entries => stacked (name ++ " \x7b") "\x7d" (blockEntries id entries)

def blockAll : List Outline → List String
  | [] => []
  | o :: os => block o :: blockAll os

def blockEntries (key : String → String) : List (String × Outline) → List String
  | [] => []
  | (k, o) :: es => (key k ++ ": " ++ block o) :: blockEntries key es

end

end Outline

end FieldAtlas.Text
