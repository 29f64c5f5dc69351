import FieldAtlas.Field.Spec
import FieldAtlas.Value.Same
import FieldAtlas.Value.Shown

/-!
# Field descriptors

The uniform description of one field. Whatever marker a class uses for an empty slot, the
descriptor holds the shared missing value there, and at most one of the two slots is filled.
-/

namespace FieldAtlas

open FieldAtlas.Text

/-- Why a field cannot be described. -/
inductive FieldFault where
  | notAFactory (shown : String)
  | defaultAndFactory
  | unknownOverride
  | excludedAndRequired
  deriving DecidableEq

def FieldFault.message : FieldFault → String
  | notAFactory shown => "default_factory must be a factory, got " ++ shown
  | defaultAndFactory => "cannot specify both default and default_factory"
  | unknownOverride => "override names a field the struct does not declare"
  | excludedAndRequired => "a field excluded from init needs a default or default_factory"

/-- A field of a class that cannot be described. -/
structure ConfigurationError where
  owner : String
  field : String
  fault : FieldFault
  deriving DecidableEq

def ConfigurationError.message (e : ConfigurationError) : String :=
  "invalid field `" ++ e.field ++ "` on `" ++ e.owner ++ "`: " ++ e.fault.message

structure Descriptor where
  name : String
  type : TypeRef
  default : Value
  factorySlot : Value
  repr : Bool
  hash : Option Bool
  compare : Bool
  init : Bool
  kwOnly : Bool
  metadata : Metadata

namespace Descriptor

/-- The factory slot, with the shared missing value for any marker; anything else has to be a
factory. -/
def checkFactory (owner name : String) (slot : Value) : Except ConfigurationError Value :=
  if slot.isMissing then .ok .missing
  else if slot.factory?.isSome then .ok slot
  else .error ⟨owner, name, .notAFactory slot.shown⟩

/-- The descriptor of a field of `owner`. A wrong factory slot is reported before two filled
slots. -/
def make (owner : String) (spec : FieldSpec) : Except ConfigurationError Descriptor := do
  let slot ← checkFactory owner spec.name spec.factory
  if !spec.default.isMissing && !slot.isMissing then
    .error ⟨owner, spec.name, .defaultAndFactory⟩
  else
    .ok {
      name := spec.name
      type := spec.type
      default := spec.default.orMissing
      factorySlot := slot
      repr := spec.repr
      hash := spec.hash
      compare := spec.compare
      init := spec.init
      kwOnly := spec.kwOnly
      metadata := spec.metadata }

/-- The specification that a descriptor is made from again. -/
def spec (d : Descriptor) : FieldSpec where
  name := d.name
  type := d.type
  default := d.default
  factory := d.factorySlot
  repr := d.repr
  hash := d.hash
  compare := d.compare
  init := d.init
  kwOnly := d.kwOnly
  metadata := d.metadata

def factory? (d : Descriptor) : Option Factory := d.factorySlot.factory?

def hasDefault (d : Descriptor) : Bool := !d.default.isMissing || !d.factorySlot.isMissing

/-- What a field starts with. -/
inductive Start where
  /-- The declared value itself. -/
  | stored (v : Value)
  /-- A new product of the factory. -/
  | produced (f : Factory)

/-- The declared default, else the factory to ask. -/
def start? (d : Descriptor) : Option Start :=
  if d.default.isMissing then d.factory?.map .produced else some (.stored d.default)

def metadataValue? (d : Descriptor) (key : String) : Option Value := d.metadata.get? key

/-- Descriptors are equal if all their attributes are. -/
def same (a b : Descriptor) : Bool :=
  a.name == b.name && a.type == b.type && a.default.same b.default &&
  a.factorySlot.same b.factorySlot && a.repr == b.repr && a.hash == b.hash &&
  a.compare == b.compare && a.init == b.init && a.kwOnly == b.kwOnly &&
  Value.sameEntries a.metadata b.metadata

/-- What goes into a hash: the name, the name of the type and the flags. -/
structure HashKey where
  name : String
  typeName : String
  repr : Bool
  hash : Option Bool
  compare : Bool
  init : Bool
  kwOnly : Bool
  deriving DecidableEq

def hashKey (d : Descriptor) : HashKey :=
  ⟨d.name, d.type.name, d.repr, d.hash, d.compare, d.init, d.kwOnly⟩

/-- Both the hash and the attributes agree, which is what a hash set goes by. -/
def collides (a b : Descriptor) : Bool := a.hashKey == b.hashKey && a.same b

/-- Inserts into a hash set, and says whether the descriptor was new. -/
def insertInto (set : List Descriptor) (d : Descriptor) : Bool × List Descriptor :=
  if set.any (·.collides d) then (false, set) else (true, set ++ [d])

/-- Inserts all in turn. -/
def insertAll (set : List Descriptor) : List Descriptor → List Bool × List Descriptor
  | [] => ([], set)
  | d :: ds =>
    let (new, set) := insertInto set d
    let (news, set) := insertAll set ds
    (new :: news, set)

/-! ## Shown descriptors -/

def boolText (b : Bool) : Outline := .plain (if b then "true" else "false")

def outline (d : Descriptor) : Outline :=
  .fields "FieldDescriptor" [
    ("name", .plain (Quoted.string d.name)),
    ("type", .plain d.type.shown),
    ("default", d.default.outline),
    ("default_factory", d.factorySlot.outline),
    ("repr", boolText d.repr),
    ("hash", Scalar.ofOption (d.hash.map boolText)),
    ("compare", boolText d.compare),
    ("init", boolText d.init),
    ("kw_only", boolText d.kwOnly),
    ("metadata", .dict (Value.outlineEntries d.metadata))]

/-- The short form of a descriptor. -/
def text (d : Descriptor) : String :=
  "FieldDescriptor(name=" ++ Quoted.string d.name ++ ", type=" ++ d.type.shown ++
    ", default=" ++ d.default.shown ++ ", default_factory=" ++ d.factorySlot.shown ++ ")"

end Descriptor

end FieldAtlas
