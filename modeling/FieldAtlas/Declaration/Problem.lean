import FieldAtlas.Source.Reading

/-!
# Problems with declarations

The two kinds of declared classes, and all that can be wrong with a declaration whose text reads
well.
-/

namespace FieldAtlas

inductive DeclaredKind where
  | record
  | compact
  deriving DecidableEq

namespace DeclaredKind

/-- The attribute that speaks to this kind. -/
def helper : DeclaredKind → String
  | record => "record"
  | compact => "compact"

/-- What deriving this kind is called. -/
def deriveName : DeclaredKind → String
  | record => "Record"
  | compact => "CompactStruct"

end DeclaredKind

inductive DeclarationProblem where
  | generic (kind : DeclaredKind)
  | unknownKey (kind : DeclaredKind)
  | unknownFieldKey (kind : DeclaredKind)
  /-- Something is said about an object that there is not. -/
  | objectRequired
  | unnamedFields (kind : DeclaredKind)
  | notAStruct (kind : DeclaredKind)
  | defaultAndFactory (field : String)
  | requiredAfterDefault (field : String)
  | metadataKey
  | metadataValue
  /-- A helper attribute without arguments. -/
  | bareHelper (kind : DeclaredKind)
  /-- A helper attribute with a value in place of arguments. -/
  | valuedHelper (kind : DeclaredKind)
  deriving DecidableEq

namespace DeclarationProblem

def helperForm (kind : DeclaredKind) : String := "#[" ++ kind.helper ++ "(...)]"

/-- The keys of a class attribute, in words. -/
def keys : DeclaredKind → String
  | .record => "extends, name, description, input, or interface"
  | .compact => "extends, kw_only, frozen, object, name, description, input, or interface"

/-- The keys of a field attribute, in words. -/
def fieldKeys : DeclaredKind → String
  | .record =>
    "default, default_factory, repr, compare, init, hash, kw_only, forward, or metadata"
  | .compact =>
    "default, default_factory, rename, repr, compare, init, hash, kw_only, forward, or metadata"

def message : DeclarationProblem → String
  | generic kind => kind.deriveName ++ " cannot be derived for generic structs"
  | unknownKey kind => "unknown " ++ kind.helper ++ " attribute, expected " ++ keys kind
  | unknownFieldKey kind =>
    "unknown " ++ kind.helper ++ " field attribute, expected " ++ fieldKeys kind
  | objectRequired =>
    "name, description, input and interface require `object` on a compact struct"
  | unnamedFields kind => kind.deriveName ++ " requires named fields"
  | notAStruct kind => kind.deriveName ++ " can only be derived for structs"
  | defaultAndFactory field =>
    "cannot specify both default and default_factory for field `" ++ field ++ "`"
  | requiredAfterDefault field =>
    "required field `" ++ field ++ "` cannot follow a field with a default; " ++
      "give it a default or mark it kw_only"
  | metadataKey => "metadata keys must be plain identifiers"
  | metadataValue => "metadata values must be string, bool, integer or float literals"
  | bareHelper kind => "expected attribute arguments in parentheses: " ++ helperForm kind
  | valuedHelper kind => "expected parentheses: " ++ helperForm kind

/-- The problem at a place. -/
def fault (p : DeclarationProblem) (pos : Source.Pos) : Source.Fault := ⟨pos, p.message⟩

end DeclarationProblem

end FieldAtlas
