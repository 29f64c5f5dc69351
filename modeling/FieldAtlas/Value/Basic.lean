import FieldAtlas.Decimal.Double

/-!
# Values

A value is something of one concrete type together with its place. Handles on one value share its
place, and two values made apart never do, however alike they are.
-/

namespace FieldAtlas

/-- The three ways to say that there is no value. -/
inductive Marker where
  | missing
  | noDefault
  | unset
  deriving DecidableEq

/-- Where a value lives. -/
inductive Place where
  /-- The one value that stands for a marker. -/
  | shared (marker : Marker)
  | numbered (n : Nat)
  /-- Of a value made in passing, which no second handle ever meets. -/
  | passing
  deriving DecidableEq

/-- The same place holds the same value. -/
def Place.same : Place → Place → Bool
  | passing, _ => false
  | p, q => p == q

inductive IntKind where
  | i64
  | i32
  | u8
  | u64
  deriving DecidableEq

/-- Text that is owned and text that lives for the whole run are different types. -/
inductive TextKind where
  | owned
  | static
  deriving DecidableEq

/-- A producer of values, told apart by its closure. -/
structure Factory where
  name : String
  closure : Nat
  deriving DecidableEq

/-- Two factories are the same if they share the closure. -/
def Factory.same (f g : Factory) : Bool := f.closure == g.closure

/-- Contents that hold no further values. -/
inductive Scalar where
  | int (kind : IntKind) (n : Int)
  | double (d : Double)
  | bool (b : Bool)
  | char (c : Char)
  | text (kind : TextKind) (s : String)
  | unit
  | ints (ns : List Int)
  | texts (ss : List String)
  | optInt (n : Option Int)
  | optText (s : Option String)
  | marker (m : Marker)
  | factory (f : Factory)
  /-- A factory in a table of defaults, told apart from a default that is one. -/
  | defaultFactory (f : Factory)
  deriving DecidableEq

inductive Value where
  | scalar (place : Place) (contents : Scalar)
  | list (place : Place) (items : List Value)
  | dict (place : Place) (entries : List (String × Value))
  /-- A value whose contents are a value. -/
  | wrapped (place : Place) (inner : Value)

namespace Value

def place : Value → Place
  | scalar p _ => p
  | list p _ => p
  | dict p _ => p
  | wrapped p _ => p

/-- The one value that stands for a marker. -/
def ofMarker (m : Marker) : Value := scalar (.shared m) (.marker m)

/-- The shared value for "no value supplied". -/
def missing : Value := ofMarker .missing

def noDefault : Value := ofMarker .noDefault

def unset : Value := ofMarker .unset

/-- A value made in passing. -/
def ofScalar (s : Scalar) : Value := scalar .passing s

/-- Both handles are on one value. -/
def samePlace (a b : Value) : Bool := a.place.same b.place

/-- The marker that the contents are. -/
def marker? : Value → Option Marker
  | scalar _ (.marker m) => some m
  | _ => none

def factory? : Value → Option Factory
  | scalar _ (.factory f) => some f
  | _ => none

def defaultFactory? : Value → Option Factory
  | scalar _ (.defaultFactory f) => some f
  | _ => none

def bool? : Value → Option Bool
  | scalar _ (.bool b) => some b
  | _ => none

/-- The text of either kind. -/
def text? : Value → Option String
  | scalar _ (.text _ s) => some s
  | _ => none

end Value

end FieldAtlas
