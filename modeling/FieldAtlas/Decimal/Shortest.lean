import FieldAtlas.Decimal.Double

/-!
# Shortest decimals

The fewest digits that read back as the same number, and of those the nearest to it. All tests are
exact: the number and the two ends of the stretch that rounds to it are fractions over one
denominator.
-/

namespace FieldAtlas.Decimal

/-- A number between the ends of the stretch that rounds to it, over one denominator. -/
structure Stretch where
  low : Nat
  value : Nat
  high : Nat
  den : Nat
  /-- The ends themselves round to the number. -/
  closed : Bool

/-- The stretch of a finite number other than zero. Below a power of two the gap is half as wide. -/
def Stretch.ofDouble (d : Double) : Stretch :=
  let (m, q) := d.parts
  let narrow := d.fractionField == 0 && decide (1 < d.exponentField)
  let up := Nat.pow 2 (q - 2).toNat
  let below := if narrow then 4 * m - 1 else 4 * m - 2
  ⟨below * up, 4 * m * up, (4 * m + 2) * up, Nat.pow 2 (2 - q).toNat, m % 2 == 0⟩

/-- `a / den` is a grid point `n * 10 ^ e` scaled the same way. -/
def Stretch.point (s : Stretch) (n : Nat) (e : Int) : Nat × Nat :=
  (n * Nat.pow 10 e.toNat * s.den, Nat.pow 10 (-e).toNat)

/-- `n * 10 ^ e` rounds to the number. -/
def Stretch.holds (s : Stretch) (n : Nat) (e : Int) : Bool :=
  let (x, scale) := s.point n e
  if s.closed then s.low * scale ≤ x && x ≤ s.high * scale
  else s.low * scale < x && x < s.high * scale

/-- The grid point below the number in steps of `10 ^ e`. -/
def Stretch.floor (s : Stretch) (e : Int) : Nat :=
  (s.value * Nat.pow 10 (-e).toNat) / (s.den * Nat.pow 10 e.toNat)

/-- The grid point above is at least as near as the one below: an exact tie goes up. -/
def Stretch.nearerAbove (s : Stretch) (n : Nat) (e : Int) : Bool :=
  let (below, scale) := s.point n e
  let (above, _) := s.point (n + 1) e
  above - s.value * scale ≤ s.value * scale - below

/-- The grid point of step `10 ^ e` that reads back as the number, the nearer one of two. -/
def Stretch.pick? (s : Stretch) (e : Int) : Option Nat :=
  let n := s.floor e
  match s.holds n e, s.holds (n + 1) e with
  | true, true => some (if s.nearerAbove n e then n + 1 else n)
  | true, false => some n
  | false, true => some (n + 1)
  | false, false => none

/-- The exponent of the highest decimal digit of `num / den`, where `tries` bounds the search below
one. -/
def highDigit (tries num den : Nat) : Int :=
  if den ≤ num then (Double.digitCount (num / den) : Int) - 1
  else
    match tries with
    | 0 => 0
    | tries + 1 => highDigit tries (num * 10) den - 1

/-- The first of the grids with 1, 2, … `count` more digits that has a point. -/
def search (s : Stretch) (top : Int) : (count digits : Nat) → Nat × Int
  | 0, digits => (s.floor (top - digits), top - digits)
  | count + 1, digits =>
    match s.pick? (top - digits) with
    | some n => (n, top - digits)
    | none => search s top count (digits + 1)

/-- The shortest decimal `n * 10 ^ e` of a finite number other than zero. -/
def shortest (d : Double) : Nat × Int :=
  let s := Stretch.ofDouble d
  search s (highDigit 400 s.value s.den) 17 0

end FieldAtlas.Decimal
