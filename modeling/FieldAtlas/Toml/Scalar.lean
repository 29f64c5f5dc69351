import FieldAtlas.Decimal.Written
import FieldAtlas.Toml.Node

/-!
# Words of TOML

Numbers, truth values and times: everything that is written in one piece without quotes.
-/

namespace FieldAtlas.Toml

/-- Digits with single underscores between them, as they stand without these. -/
def digitsOf? (isDigit : Char → Bool) : List Char → Option (List Char)
  | [] => none
  | [c] => if isDigit c then some [c] else none
  | c :: '_' :: cs => if isDigit c then (digitsOf? isDigit cs).map (c :: ·) else none
  | c :: cs => if isDigit c then (digitsOf? isDigit cs).map (c :: ·) else none

/-- Digits without a zero in front of others. -/
def plainDigits? (cs : List Char) : Option (List Char) :=
  match cs with
  | '0' :: _ :: _ => none
  | _ => digitsOf? Char.isDigit cs

def splitSign : List Char → Bool × List Char
  | '-' :: cs => (true, cs)
  | '+' :: cs => (false, cs)
  | cs => (false, cs)

/-- A number that 64 bits can hold. -/
def inRange? (n : Int) : Option Node :=
  if -(Int.pow 2 63) ≤ n && n < Int.pow 2 63 then some (.integer n) else none

def valueIn (base : Nat) (digit : Char → Nat) (cs : List Char) : Nat :=
  cs.foldl (fun n c => base * n + digit c) 0

def hexDigit (c : Char) : Nat :=
  if c.isDigit then c.toNat - '0'.toNat
  else if c.isLower then c.toNat - 'a'.toNat + 10
  else c.toNat - 'A'.toNat + 10

def isHexDigit (c : Char) : Bool :=
  c.isDigit || ('a' ≤ c && c ≤ 'f') || ('A' ≤ c && c ≤ 'F')

def integer? : List Char → Option Node
  | '0' :: 'x' :: cs => (digitsOf? isHexDigit cs).bind fun ds => inRange? (valueIn 16 hexDigit ds)
  | '0' :: 'o' :: cs =>
    (digitsOf? (fun c => '0' ≤ c && c ≤ '7') cs).bind fun ds => inRange? (valueIn 8 hexDigit ds)
  | '0' :: 'b' :: cs =>
    (digitsOf? (fun c => c = '0' || c = '1') cs).bind fun ds => inRange? (valueIn 2 hexDigit ds)
  | cs =>
    let (negative, ds) := splitSign cs
    (plainDigits? ds).bind fun ds =>
      let n : Int := Decimal.digitsValue ds
      inRange? (if negative then -n else n)

/-- The exponent after its letter. -/
def exponent? (cs : List Char) : Option (List Char) :=
  let (negative, ds) := splitSign cs
  (digitsOf? Char.isDigit ds).map fun ds => 'e' :: if negative then '-' :: ds else ds

def isExponentMark (c : Char) : Bool := c = 'e' || c = 'E'

/-- What stands after the whole part: a fraction, an exponent or both. -/
def tail? (cs : List Char) : Option (List Char) :=
  match cs with
  | '.' :: r =>
    let fraction := r.takeWhile fun c => !isExponentMark c
    (digitsOf? Char.isDigit fraction).bind fun fraction =>
      match r.dropWhile fun c => !isExponentMark c with
      | [] => some ('.' :: fraction)
      | _ :: e => (exponent? e).map fun e => '.' :: fraction ++ e
  | c :: e => if isExponentMark c then exponent? e else none
  | [] => none

/-- A number with a fraction or an exponent. Only positive numbers can be too large. -/
def double? (cs : List Char) : Option Node :=
  let (negative, body) := splitSign cs
  if body = "inf".toList then some (.double (.infinity negative))
  else if body = "nan".toList then some (.double .nan)
  else
    let isWhole := fun c => !(c = '.' || isExponentMark c)
    (plainDigits? (body.takeWhile isWhole)).bind fun whole =>
      (tail? (body.dropWhile isWhole)).bind fun tail =>
        let d := Decimal.read negative (whole ++ tail)
        if d.isInfinite && !negative then none else some (.double d)

/-! ## Times -/

/-- A number of exactly `count` digits. -/
def fixed? (count : Nat) (cs : List Char) : Option Nat :=
  if cs.length = count && cs.all Char.isDigit then some (Decimal.digitsValue cs) else none

def daysIn (year month : Nat) : Nat :=
  let leap := year % 4 == 0 && (year % 100 != 0 || year % 400 == 0)
  if month = 2 then (if leap then 29 else 28)
  else if month = 4 || month = 6 || month = 9 || month = 11 then 30
  else 31

def isDate (cs : List Char) : Bool :=
  match fixed? 4 (cs.take 4), fixed? 2 ((cs.drop 5).take 2), fixed? 2 (cs.drop 8) with
  | some year, some month, some day =>
    cs[4]? == some '-' && cs[7]? == some '-' && 1 ≤ month && month ≤ 12 && 1 ≤ day &&
      day ≤ daysIn year month
  | _, _, _ => false

/-- Hours and minutes. -/
def isClock (cs : List Char) : Bool :=
  match fixed? 2 (cs.take 2), fixed? 2 (cs.drop 3) with
  | some hour, some minute => cs[2]? == some ':' && hour ≤ 23 && minute ≤ 59
  | _, _ => false

def isTime (cs : List Char) : Bool :=
  isClock (cs.take 5) && cs[5]? == some ':' &&
    (match fixed? 2 ((cs.drop 6).take 2) with
      | some second => second ≤ 60
      | none => false) &&
    (match cs.drop 8 with
      | [] => true
      | '.' :: ds => !ds.isEmpty && ds.all Char.isDigit
      | _ => false)

/-- A time with or without an offset from universal time. -/
def isOffsetTime (cs : List Char) : Bool :=
  let isMark := fun c => c = 'Z' || c = 'z' || c = '+' || c = '-'
  let time := cs.takeWhile fun c => !isMark c
  isTime time &&
    match cs.dropWhile fun c => !isMark c with
    | [] => true
    | c :: offset => if c = 'Z' || c = 'z' then offset.isEmpty else isClock offset

def isDatetime (cs : List Char) : Bool :=
  isTime cs || isDate cs ||
    (isDate (cs.take 10) && (cs[10]? == some 'T' || cs[10]? == some 't' || cs[10]? == some ' ') &&
      isOffsetTime (cs.drop 11))

/-- The node that a word stands for. -/
def word? (cs : List Char) : Option Node :=
  if cs = "true".toList then some (.bool true)
  else if cs = "false".toList then some (.bool false)
  else if isDatetime cs then some .datetime
  else (integer? cs).or (double? cs)

end FieldAtlas.Toml
