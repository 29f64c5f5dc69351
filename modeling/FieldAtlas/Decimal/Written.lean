import FieldAtlas.Decimal.Shortest

/-!
# Written numbers

The text of a number from its shortest digits, and a number from its text.
-/

namespace FieldAtlas.Decimal

/-- What a way of writing numbers decides. -/
structure Style where
  /-- Digits that always stand behind the point. -/
  leastPlaces : Nat
  /-- The highest digits, by exponent, that are written without an exponent of their own. -/
  positional : Int → Bool

/-- Numbers in shown values: one place at least; an exponent below `0.0001` and from `1e16` on. -/
def Style.shown : Style := ⟨1, fun high => -4 ≤ high && high < 16⟩

/-- Numbers in generated source text: never an exponent, and no point that is not needed. -/
def Style.source : Style := ⟨0, fun _ => true⟩

/-- The digits of a number without those zeros at its end, and how many these are. -/
def dropZeros : List Char → List Char × Nat
  | [] => ([], 0)
  | c :: cs =>
    match dropZeros cs with
    | ([], n) => if c = '0' then ([], n + 1) else ([c], n)
    | (kept, n) => (c :: kept, n)

def zeros (n : Nat) : List Char := List.replicate n '0'

/-- Digits with a point after the first `places`. -/
def pointed (leastPlaces : Nat) (whole fraction : List Char) : List Char :=
  let fraction := fraction ++ zeros (leastPlaces - fraction.length)
  if fraction.isEmpty then whole else whole ++ '.' :: fraction

/-- Digits whose highest one has exponent `high`, without an exponent. -/
def positional (style : Style) (digits : List Char) (high : Int) : List Char :=
  if high < 0 then pointed style.leastPlaces ['0'] (zeros (-high - 1).toNat ++ digits)
  else
    let count := high.toNat + 1
    pointed style.leastPlaces (digits.take count ++ zeros (count - digits.length))
      (digits.drop count)

/-- Digits whose highest one has exponent `high`, with an exponent. -/
def scientific (digits : List Char) (high : Int) : List Char :=
  pointed 0 (digits.take 1) (digits.drop 1) ++ 'e' :: (toString high).toList

/-- The text of a finite magnitude. -/
def magnitudeText (style : Style) (d : Double) : List Char :=
  if d.isZero then positional style ['0'] 0
  else
    let (n, e) := shortest d
    let digits := (Nat.toDigits 10 n)
    let high := e + digits.length - 1
    let kept := (dropZeros digits).1
    if style.positional high then positional style kept high else scientific kept high

/-- The text of a number. -/
def text (style : Style) (d : Double) : String :=
  if d.isNaN then "NaN"
  else
    let sign := if d.isNegative then "-" else ""
    sign ++ (if d.isInfinite then "inf" else String.ofList (magnitudeText style d))

/-! ## Reading -/

def digitValue (c : Char) : Nat := c.toNat - '0'.toNat

def digitsValue (cs : List Char) : Nat := cs.foldl (fun n c => 10 * n + digitValue c) 0

/-- A whole number with an optional sign. -/
def readInt (cs : List Char) : Int :=
  match cs with
  | '-' :: ds => -(digitsValue ds : Int)
  | '+' :: ds => digitsValue ds
  | ds => digitsValue ds

/-- The number written as digits, an optional fraction and an optional exponent. -/
def read (negative : Bool) (cs : List Char) : Double :=
  let whole := cs.takeWhile Char.isDigit
  let rest := cs.dropWhile Char.isDigit
  let (fraction, rest) :=
    match rest with
    | '.' :: r => (r.takeWhile Char.isDigit, r.dropWhile Char.isDigit)
    | r => ([], r)
  let exponent :=
    match rest with
    | _ :: r => readInt r
    | [] => 0
  Double.ofDecimal negative (digitsValue (whole ++ fraction)) (exponent - fraction.length)

end FieldAtlas.Decimal
