import FieldAtlas.Value.Basic

/-!
# Closures

What a factory produces at each call.
-/

namespace FieldAtlas

/-- What is produced at each call, by its number from 0 on. -/
def Product : Type := Nat → Value

structure Closure where
  product : Product
  calls : Nat

/-- A value of its own with the same contents. -/
def Value.copied : Value → Value
  | scalar _ s => scalar .passing s
  | list _ items => list .passing items
  | dict _ entries => dict .passing entries
  | wrapped _ inner => wrapped .passing inner

namespace Product

/-- The number within 64 bits. -/
def wrapped (n : Int) : Int := n.bmod (Nat.pow 2 64)

/-- Alike at each call. -/
def constant (v : Value) : Product := fun _ => v

/-- The first number, then one more at each call. -/
def counter (first : Int) : Product := fun calls =>
  .ofScalar (.int .i64 (wrapped (first + calls)))

end Product

namespace Closure

def new (product : Product) : Closure := ⟨product, 0⟩

/-- What the next call produces, which is a value of its own each time. -/
def next (c : Closure) : Value := (c.product c.calls).copied

/-- The closure after one more call. -/
def called (c : Closure) : Closure := { c with calls := c.calls + 1 }

end Closure

end FieldAtlas
