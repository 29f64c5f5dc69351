/-!
# Double precision numbers

A number is kept as its 64 bits. Comparison, reading from a decimal and taking apart are exact
arithmetic on natural numbers.
-/

namespace FieldAtlas

/-- A binary64 number, by its bits. -/
structure Double where
  bits : UInt64
  deriving DecidableEq, Inhabited

namespace Double

/-- The sign bit is set. -/
def isNegative (d : Double) : Bool := Nat.pow 2 63 ≤ d.bits.toNat

/-- The bits without the sign. -/
def magnitude (d : Double) : Nat := d.bits.toNat % Nat.pow 2 63

/-- The exponent field. -/
def exponentField (d : Double) : Nat := d.magnitude / Nat.pow 2 52

/-- The fraction field. -/
def fractionField (d : Double) : Nat := d.magnitude % Nat.pow 2 52

def isNaN (d : Double) : Bool := 2047 * Nat.pow 2 52 < d.magnitude

def isInfinite (d : Double) : Bool := d.magnitude == 2047 * Nat.pow 2 52

def isFinite (d : Double) : Bool := d.magnitude < 2047 * Nat.pow 2 52

def isZero (d : Double) : Bool := d.magnitude == 0

/-- Numeric equality: a NaN equals nothing, and the two zeros are equal. -/
def same (a b : Double) : Bool :=
  !a.isNaN && !b.isNaN && (a.bits == b.bits || (a.isZero && b.isZero))

/-- A number from its sign and the bits below it. -/
def ofMagnitude (negative : Bool) (magnitude : Nat) : Double :=
  ⟨UInt64.ofNat (if negative then Nat.pow 2 63 + magnitude else magnitude)⟩

def zero (negative : Bool) : Double := ofMagnitude negative 0

def infinity (negative : Bool) : Double := ofMagnitude negative (2047 * Nat.pow 2 52)

def nan : Double := ofMagnitude false (2047 * Nat.pow 2 52 + Nat.pow 2 51)

/-- The whole number `m` and the exponent `q` with magnitude `m * 2 ^ q`, for a finite number. -/
def parts (d : Double) : Nat × Int :=
  if d.exponentField = 0 then (d.fractionField, -1074)
  else (Nat.pow 2 52 + d.fractionField, (d.exponentField : Int) - 1075)

/-- `num / den` to the nearest whole number, a half to the even one. -/
def roundHalfEven (num den : Nat) : Nat :=
  let q := num / den
  let twice := 2 * (num % den)
  if twice < den then q
  else if den < twice then q + 1
  else if q % 2 = 0 then q else q + 1

/-- `num * 2 ^ up / (den * 2 ^ down)`, where one of the two exponents is zero. -/
def scaled (num den : Nat) (shift : Int) : Nat × Nat :=
  (num * Nat.pow 2 shift.toNat, den * Nat.pow 2 (-shift).toNat)

/-- The exponent of the highest bit of `num / den`. -/
def highBit (num den : Nat) : Int :=
  let guess : Int := (num.log2 : Int) - (den.log2 : Int)
  let (n, d) := scaled num den (-guess)
  if n < d then guess - 1 else guess

/-- The magnitude bits of the number nearest to `num / den`. A carry out of the fraction runs into
the exponent field, which is then right as it stands. -/
def nearestMagnitude (num den : Nat) : Nat :=
  if num = 0 then 0
  else
    let q := max (highBit num den - 52) (-1074)
    let (n, d) := scaled num den (-q)
    let bits := (q + 1074).toNat * Nat.pow 2 52 + roundHalfEven n d
    min bits (2047 * Nat.pow 2 52)

/-- How many decimal digits a whole number has. -/
def digitCount (n : Nat) : Nat := (Nat.toDigits 10 n).length

/-- The number nearest to `m * 10 ^ e`. Magnitudes outside `10 ^ -330` to `10 ^ 310` need no
arithmetic. -/
def ofDecimal (negative : Bool) (m : Nat) (e : Int) : Double :=
  let size := (digitCount m : Int) + e
  if m = 0 || size < -330 then zero negative
  else if 310 < size then infinity negative
  else ofMagnitude negative (nearestMagnitude (m * Nat.pow 10 e.toNat) (Nat.pow 10 (-e).toNat))

end Double

end FieldAtlas
