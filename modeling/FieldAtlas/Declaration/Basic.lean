import FieldAtlas.Declaration.Problem
import FieldAtlas.Object.Config
import FieldAtlas.Source.Literal
import FieldAtlas.Source.Token

/-!
# Declared classes

What a declaration says about a class and about each of its fields.
-/

namespace FieldAtlas

open FieldAtlas.Source

/-- A default as it is written. -/
inductive DefaultCode where
  /-- A single literal for text. -/
  | text (literal : String)
  | code (tokens : List Token)

/-- The function that makes defaults, by its path. -/
structure FactoryCode where
  name : String
  path : List Token

/-- The name of a type that is resolved later, with the literal that gives it. -/
structure ForwardName where
  literal : String
  name : String

/-- The value of an entry of the metadata. -/
inductive Remark where
  /-- Text, with the literal that gives it. -/
  | text (literal value : String)
  | bool (b : Bool)
  | int (n : Int)
  | float (d : Double)

/-- The least and the greatest number of 64 bits. -/
def Remark.int64 : Int × Int := (-Int.pow 2 63, Int.pow 2 63 - 1)

structure DeclaredField where
  pos : Pos
  /-- The name as it is written, perhaps raw. -/
  ident : String
  type : List Token
  default : Option DefaultCode
  factory : Option FactoryCode
  repr : Option Bool
  compare : Option Bool
  init : Option Bool
  hash : Option Bool
  kwOnly : Bool
  rename : Option String
  forward : Option ForwardName
  /-- Remarks in the order in which they were made. -/
  metadata : List (String × Remark)

namespace DeclaredField

/-- A field about which nothing is said. -/
def plain (pos : Pos) (ident : String) (type : List Token) : DeclaredField where
  pos := pos
  ident := ident
  type := type
  default := none
  factory := none
  repr := none
  compare := none
  init := none
  hash := none
  kwOnly := false
  rename := none
  forward := none
  metadata := []

def name (f : DeclaredField) : String := unraw f.ident

def hasDefault (f : DeclaredField) : Bool := f.default.isSome || f.factory.isSome

/-- Constructors take the field. Only a record leaves out fields with `init = false`. -/
def inConstructor (kind : DeclaredKind) (f : DeclaredField) : Bool :=
  kind == .compact || f.init.getD true

end DeclaredField

/-- What the attributes of a class say. -/
structure ClassOptions where
  /-- The paths of the bases. -/
  bases : List (List Token)
  name : Option String
  description : Option String
  input : Bool
  interface : Bool
  kwOnly : Bool
  frozen : Bool
  object : Bool

namespace ClassOptions

def plain : ClassOptions := ⟨[], none, none, false, false, false, false, false⟩

/-- Something is said about an object definition. -/
def describesObject (o : ClassOptions) : Bool :=
  o.name.isSome || o.description.isSome || o.input || o.interface

end ClassOptions

structure DeclaredClass where
  kind : DeclaredKind
  pos : Pos
  /-- The name as it is written, perhaps raw. -/
  ident : String
  options : ClassOptions
  fields : List DeclaredField

namespace DeclaredClass

def name (c : DeclaredClass) : String := unraw c.ident

/-- The settings of the object definition. -/
def objectConfig (c : DeclaredClass) : ObjectConfig where
  name := some (c.options.name.getD c.name)
  description := c.options.description
  isInput := c.options.input
  isInterface := c.options.interface

end DeclaredClass

end FieldAtlas
