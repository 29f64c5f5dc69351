import FieldAtlas.Decimal.Written
import FieldAtlas.Source.Lexeme

/-!
# What literals stand for

The value of a literal, by its text.
-/

namespace FieldAtlas.Source

inductive Literal where
  | text (value : String)
  | char (value : Char)
  /-- Bytes, a single byte, or text ended by a zero. -/
  | bytes
  | int (value : Int) (suffixed : Bool)
  | float (value : Double)
  | bool (b : Bool)
  deriving DecidableEq

namespace Literal

open Scanner

/-! ## Text -/

/-- What stands for one character after a backslash, with what follows it. At the end of a line it
is nothing, together with the blanks that follow. -/
def unescape : List Char → Option Char × List Char
  | 'x' :: a :: b :: cs => (some (Char.ofNat (16 * hexValue a + hexValue b)), cs)
  | 'u' :: '\x7b' :: cs =>
    match codePoint? cs with
    | some (n, rest) => (some (Char.ofNat n), rest)
    | none => (none, cs)
  | 'n' :: cs => (some '\n', cs)
  | 'r' :: cs => (some '\r', cs)
  | 't' :: cs => (some '\t', cs)
  | '0' :: cs => (some '\x00', cs)
  | '\n' :: cs => (none, many skipped cs)
  | '\r' :: cs => (none, many skipped cs)
  | c :: cs => (some c, cs)
  | [] => (none, [])

/-- The characters up to the closing quote. A line break is a line feed, however it is written. -/
def quotedValue (cs : List Char) : List Char :=
  match cs with
  | [] => []
  | '"' :: _ => []
  | '\r' :: '\n' :: rest => '\n' :: quotedValue rest
  | '\\' :: rest =>
    let (c, after) := unescape rest
    if after.length ≤ rest.length then c.toList ++ quotedValue after else []
  | c :: rest => c :: quotedValue rest
termination_by cs.length

/-- The characters up to a quote with the given hash signs. -/
def rawValue (hashes : List Char) : List Char → List Char
  | [] => []
  | c :: cs => if c = '"' && hashes.isPrefixOf cs then [] else c :: rawValue hashes cs

/-- The characters of raw text after its `r`. -/
def rawText (cs : List Char) : List Char :=
  let hashes := cs.takeWhile (· = '#')
  rawValue hashes (cs.drop (hashes.length + 1))

/-- The character after an opening quote. -/
def charValue : List Char → Char
  | '\\' :: cs => ((unescape cs).1).getD '\x00'
  | c :: _ => c
  | [] => '\x00'

/-! ## Numbers -/

/-- The characters form an exponent with a value, or start like one. -/
def startsExponent : List Char → Bool
  | c :: cs =>
    (c = 'e' || c = 'E') &&
      match cs.find? (· ≠ '_') with
      | some d => d.isDigit || d = '+' || d = '-'
      | none => false
  | [] => false

/-- The exponent after its letter. -/
def exponentValue (cs : List Char) : Int :=
  match cs.filter (· ≠ '_') with
  | '-' :: ds => -(Decimal.digitsValue (ds.takeWhile Char.isDigit) : Int)
  | '+' :: ds => Decimal.digitsValue (ds.takeWhile Char.isDigit)
  | ds => Decimal.digitsValue (ds.takeWhile Char.isDigit)

/-- The value of a number with a point or an exponent. -/
def floatValue (negative : Bool) (cs : List Char) : Double :=
  let whole := (cs.takeWhile isDigitOrGap).filter (· ≠ '_')
  let rest := cs.dropWhile isDigitOrGap
  let places :=
    match rest with
    | '.' :: r => r.takeWhile isDigitOrGap
    | _ => []
  let fraction := places.filter (· ≠ '_')
  let rest :=
    match rest with
    | '.' :: r => r.dropWhile isDigitOrGap
    | r => r
  let exponent := if startsExponent rest then exponentValue (rest.drop 1) else 0
  Double.ofDecimal negative (Decimal.digitsValue (whole ++ fraction)) (exponent - fraction.length)

/-- The number has a point or an exponent. -/
def isFloat (cs : List Char) : Bool :=
  match cs.dropWhile isDigitOrGap with
  | '.' :: _ => true
  | rest => startsExponent rest

/-- The value of a number, `negative` if there is a minus sign in front of it. -/
def ofNumber (negative : Bool) (cs : List Char) : Literal :=
  let (b, digits) := base cs
  if b = 10 && isFloat cs then float (floatValue negative cs)
  else
    let run := digits.takeWhile fun c => isDigitOrGap c || (b = 16 && isHex c)
    let n : Int := valueOf b (run.filter (· ≠ '_'))
    int (if negative then -n else n) (run.length < digits.length)

/-- The value of a literal. -/
def ofText (text : String) : Literal :=
  match text.toList with
  | '"' :: cs => .text (String.ofList (quotedValue cs))
  | 'r' :: cs => .text (String.ofList (rawText cs))
  | 'b' :: _ => bytes
  | 'c' :: _ => bytes
  | '\'' :: cs => char (charValue cs)
  | '-' :: cs => ofNumber true cs
  | cs => ofNumber false cs

def isNumber : Literal → Bool
  | int .. => true
  | float _ => true
  | _ => false

def text? : Literal → Option String
  | text s => some s
  | _ => none

end Literal

end FieldAtlas.Source
