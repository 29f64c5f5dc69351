import FieldAtlas.Text.Quoted
import FieldAtlas.Toml.Reader

/-!
# Introspection settings

Two switches, which a TOML document may set. It may hold no other key.
-/

namespace FieldAtlas

structure Settings where
  /-- Lists of fields are kept for each class. -/
  cacheFields : Bool
  /-- Names of object fields are put in camel case. -/
  autoCamelCase : Bool
  deriving DecidableEq

/-- Why a text says nothing about settings. -/
inductive SettingsError where
  /-- The text is no TOML document. -/
  | malformed
  | unknownField (name : String)
  /-- A switch is set to something else than a truth value. -/
  | invalidType (found : String)
  deriving DecidableEq

namespace SettingsError

/-- What is wrong with the keys and values of a document. -/
def message? : SettingsError → Option String
  | malformed => none
  | unknownField name =>
    some ("unknown field `" ++ name ++ "`, expected `cache_fields` or `auto_camel_case`")
  | invalidType found => some ("invalid type: " ++ found ++ ", expected a boolean")

end SettingsError

namespace Settings

/-- Both are on unless something else is said. -/
def standard : Settings := ⟨true, true⟩

/-- A number with its point, and never an exponent. -/
def pointed : Decimal.Style := ⟨1, fun _ => true⟩

/-- What a node is, in words. -/
def found : Toml.Node → String
  | .text s => "string " ++ Text.Quoted.string s
  | .integer n => "integer `" ++ toString n ++ "`"
  | .double d => "floating point `" ++ Decimal.text pointed d ++ "`"
  | .bool b => "boolean `" ++ (if b then "true" else "false") ++ "`"
  | .array _ => "sequence"
  | .tables _ => "sequence"
  | .datetime => "map"
  | .inlined _ => "map"
  | .table .. => "map"

def switch (set : Bool → Settings) : Toml.Node → Except SettingsError Settings
  | .bool b => .ok (set b)
  | node => .error (.invalidType (found node))

/-- Follows one entry of a document. -/
def put (s : Settings) (e : String × Toml.Node) : Except SettingsError Settings :=
  if e.1 = "cache_fields" then switch (fun b => { s with cacheFields := b }) e.2
  else if e.1 = "auto_camel_case" then switch (fun b => { s with autoCamelCase := b }) e.2
  else .error (.unknownField e.1)

/-- The settings that a document asks for. Of several faults the first entry's is reported. -/
def ofToml (source : String) : Except SettingsError Settings :=
  match Toml.document? source with
  | none => .error .malformed
  | some entries => entries.foldlM put standard

end Settings

end FieldAtlas
