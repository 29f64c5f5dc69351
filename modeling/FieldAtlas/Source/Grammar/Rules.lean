import FieldAtlas.Source.Attribute
import FieldAtlas.Source.Reading

/-!
# Rules

The rules of the grammar call each other. A rule is written over the record of all rules, so that
each is an ordinary function, and the record is closed up later.
-/

namespace FieldAtlas.Source.Grammar

/-- How tightly an operator binds, the loosest first. -/
inductive Precedence where
  | jump
  | assign
  | range
  | or
  | and
  | compare
  | bitOr
  | bitXor
  | bitAnd
  | shift
  | sum
  | product
  | cast
  deriving DecidableEq

namespace Precedence

def rank : Precedence → Nat
  | jump => 0
  | assign => 1
  | range => 2
  | or => 3
  | and => 4
  | compare => 5
  | bitOr => 6
  | bitXor => 7
  | bitAnd => 8
  | shift => 9
  | sum => 10
  | product => 11
  | cast => 12

end Precedence

/-- What later rules have to know of something that was read. -/
inductive Shape where
  | plain
  /-- A literal that is text, as it is written. -/
  | text (literal : String)
  /-- A comparison that is not in brackets. -/
  | comparison
  | range
  /-- An expression that ends with a block and needs nothing behind it. -/
  | block
  /-- The call of a macro, with braces or not. -/
  | call (braces : Bool)
  /-- A type that is one name, perhaps with arguments between angles. -/
  | name
  /-- Any other type that is a path. -/
  | path
  /-- A single bound that stands for a type. -/
  | bound
  /-- A type in brackets. -/
  | bracketed
  /-- The pattern for all that is left. -/
  | rest
  /-- A range with one side left out, which starts at a place. -/
  | openRange (pos : Pos)
  deriving DecidableEq

/-- All rules that are reached from another one by way of a third. -/
structure Rules where
  /-- A type; `plus` allows several bounds. -/
  type : (plus : Bool) → Reading Shape
  /-- One bound of a type, and whether it is a trait; `capturing` allows `use<…>`. -/
  bound : (capturing : Bool) → Reading Bool
  /-- An expression; `struct` allows a struct literal. -/
  expr : (struct : Bool) → Reading Shape
  /-- An expression without binary operators. -/
  unary : (struct : Bool) → Reading Shape
  /-- An expression at the start of a statement or of the body of a match arm. -/
  early : Reading Shape
  /-- What binds at least as tightly as `base` behind something of a shape. -/
  climb : (struct : Bool) → (base : Precedence) → Shape → Reading Shape
  /-- A pattern without alternatives. -/
  pattern : Reading Shape
  /-- The content of a block. -/
  statements : Reading Unit

namespace Rules

/-- The rules of a grammar in which nothing can be read. -/
def none : Rules where
  type _ := Reading.failExpected ["type"]
  bound _ := Reading.failExpected ["bound"]
  expr _ := Reading.fail "expected an expression"
  unary _ := Reading.fail "expected an expression"
  early := Reading.fail "expected an expression"
  climb _ _ s := return s
  pattern := Reading.failExpected ["pattern"]
  statements := Reading.failExpected ["statement"]

end Rules

end FieldAtlas.Source.Grammar
