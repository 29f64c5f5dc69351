import FieldAtlas.Text.Identifier

/-!
# Lexemes

The shapes of the smallest parts of source text. A scanner takes one part off the front and gives
what is left, or finds that there is no such part.
-/

namespace FieldAtlas.Source

/-- What is left after the part in front, or none if the part is not there. -/
abbrev Scanner := List Char → Option (List Char)

namespace Scanner

open FieldAtlas.Text

/-- Scans as often as it works and takes something off. -/
def many (item : Scanner) (cs : List Char) : List Char :=
  match item cs with
  | none => cs
  | some rest => if rest.length < cs.length then many item rest else rest
termination_by cs.length

def exactly (text : String) : Scanner := fun cs =>
  if text.toList.isPrefixOf cs then some (cs.drop text.length) else none

/-- The first of the alternatives that is there. -/
def anyOf (alternatives : List Scanner) : Scanner := fun cs =>
  alternatives.findSome? fun s => s cs

/-! ## Names -/

/-- A letter or underscore and what goes on with it. -/
def plainName : Scanner
  | [] => none
  | c :: cs => if Identifier.isStart c then some (cs.dropWhile Identifier.isContinue) else none

/-- Names that are never written raw. -/
def neverRaw : List String := ["_", "super", "self", "Self", "crate"]

/-- A name, raw or not. -/
def name : Scanner := fun cs =>
  match exactly "r#" cs with
  | none => plainName cs
  | some rest =>
    match plainName rest with
    | none => none
    | some after =>
      if neverRaw.contains (String.ofList (rest.take (rest.length - after.length))) then none
      else some after

/-- Beginnings of quoted text, which are never names. -/
def quotedBeginnings : List String :=
  ["r\"", "r#\"", "r##", "b\"", "b'", "br\"", "br#", "c\"", "cr\"", "cr#"]

/-- A name that is not the beginning of quoted text. -/
def word : Scanner := fun cs =>
  if quotedBeginnings.any fun b => b.toList.isPrefixOf cs then none else name cs

/-- Letters right after a literal belong to it. -/
def suffix (cs : List Char) : List Char := (plainName cs).getD cs

/-! ## Blanks and comments -/

/-- White space, with the marks of writing direction. -/
def isBlank (c : Char) : Bool :=
  let n := c.toNat
  (9 ≤ n && n ≤ 13) || n = 0x20 || n = 0x85 || n = 0xA0 || n = 0x1680 ||
  (0x2000 ≤ n && n ≤ 0x200A) || n = 0x200E || n = 0x200F || n = 0x2028 || n = 0x2029 ||
  n = 0x202F || n = 0x205F || n = 0x3000

/-- The rest of a comment between `/*` and `*/`, which may hold others. -/
def blockRest (depth : Nat) : Scanner
  | '/' :: '*' :: cs => blockRest (depth + 1) cs
  | '*' :: '/' :: cs => if depth = 0 then some cs else blockRest (depth - 1) cs
  | _ :: cs => blockRest depth cs
  | [] => none

def toLineEnd (cs : List Char) : List Char := cs.dropWhile (· ≠ '\n')

/-- One blank or one comment that says nothing about the code. -/
def gap : Scanner
  | '/' :: '/' :: '/' :: '/' :: cs => some (toLineEnd cs)
  | '/' :: '/' :: '/' :: _ => none
  | '/' :: '/' :: '!' :: _ => none
  | '/' :: '/' :: cs => some (toLineEnd cs)
  | '/' :: '*' :: '*' :: '/' :: cs => some cs
  | '/' :: '*' :: '*' :: '*' :: cs => blockRest 0 ('*' :: '*' :: cs)
  | '/' :: '*' :: '*' :: _ => none
  | '/' :: '*' :: '!' :: _ => none
  | '/' :: '*' :: cs => blockRest 0 cs
  | c :: cs => if isBlank c then some cs else none
  | [] => none

def gaps : List Char → List Char := many gap

/-! ## Quoted text -/

/-- The three forms of quoted text: of characters, of bytes, and ended by a zero. -/
inductive Form where
  | chars
  | bytes
  | zeroEnded
  deriving DecidableEq

def isHex (c : Char) : Bool := c.isDigit || ('a' ≤ c && c ≤ 'f') || ('A' ≤ c && c ≤ 'F')

def hexValue (c : Char) : Nat :=
  if c.isDigit then c.toNat - '0'.toNat
  else if c ≤ 'F' then c.toNat - 'A'.toNat + 10
  else c.toNat - 'a'.toNat + 10

def valueOf (base : Nat) (digits : List Char) : Nat :=
  digits.foldl (fun n c => base * n + hexValue c) 0

/-- The digits of a code point between braces, and what is left behind them. -/
def codePoint? (cs : List Char) : Option (Nat × List Char) :=
  let run := cs.takeWhile fun c => isHex c || c = '_'
  let digits := run.filter (· ≠ '_')
  let n := valueOf 16 digits
  match cs.drop run.length with
  | '\x7d' :: rest =>
    if run.head? = some '_' || digits.isEmpty || 6 < digits.length || !n.isValidChar then none
    else some (n, rest)
  | _ => none

def newline : Scanner
  | '\n' :: cs => some cs
  | '\r' :: '\n' :: cs => some cs
  | _ => none

/-- A blank in the text that a backslash at the end of a line skips. -/
def skipped : Scanner
  | ' ' :: cs => some cs
  | '\t' :: cs => some cs
  | cs => newline cs

/-- What follows a backslash. -/
def escape (form : Form) : Scanner
  | 'x' :: a :: b :: cs =>
    let allowed :=
      match form with
      | .chars => '0' ≤ a && a ≤ '7'
      | .bytes => true
      | .zeroEnded => !(a = '0' && b = '0')
    if isHex a && isHex b && allowed then some cs else none
  | 'u' :: '\x7b' :: cs =>
    match form, codePoint? cs with
    | .bytes, _ => none
    | _, none => none
    | .chars, some (_, rest) => some rest
    | .zeroEnded, some (n, rest) => if n = 0 then none else some rest
  | '0' :: cs => if form = .zeroEnded then none else some cs
  | c :: cs =>
    if ['n', 'r', 't', '\\', '\'', '"'].contains c then some cs
    else (newline (c :: cs)).map (many skipped)
  | [] => none

def isAscii (c : Char) : Bool := c.toNat < 128

/-- The character may stand unescaped. -/
def allowed (form : Form) (c : Char) : Bool :=
  match form with
  | .chars => true
  | .bytes => isAscii c
  | .zeroEnded => c ≠ '\x00'

/-- One character between double quotes. A carriage return has to be followed by a line feed. -/
def quotedChar (form : Form) : Scanner
  | '"' :: _ => none
  | '\r' :: cs => newline ('\r' :: cs)
  | '\\' :: cs => escape form cs
  | c :: cs => if allowed form c then some cs else none
  | [] => none

/-- Text after its opening quote. -/
def quoted (form : Form) : Scanner := fun cs =>
  match many (quotedChar form) cs with
  | '"' :: rest => some (suffix rest)
  | _ => none

/-- Raw text after its opening quote, up to a quote with as many hash signs as in front. -/
def rawRest (form : Form) (hashes : List Char) : Scanner
  | [] => none
  | '\r' :: '\n' :: cs => rawRest form hashes cs
  | '\r' :: _ => none
  | c :: cs =>
    if c = '"' && hashes.isPrefixOf cs then some (suffix (cs.drop hashes.length))
    else if allowed form c then rawRest form hashes cs
    else none

/-- Raw text after its `r`. -/
def raw (form : Form) : Scanner := fun cs =>
  let hashes := cs.takeWhile (· = '#')
  match cs.drop hashes.length with
  | '"' :: rest => if 255 < hashes.length then none else rawRest form hashes rest
  | _ => none

/-- A character after its opening quote. -/
def charRest (form : Form) : Scanner
  | '\\' :: '\n' :: _ => none
  | '\\' :: '\r' :: _ => none
  | '\\' :: cs =>
    match escape form cs with
    | some ('\'' :: rest) => some (suffix rest)
    | _ => none
  | c :: '\'' :: cs => if allowed form c then some (suffix cs) else none
  | _ => none

/-- Any literal between quotes. -/
def text : Scanner
  | '"' :: cs => quoted .chars cs
  | 'r' :: cs => raw .chars cs
  | 'b' :: '"' :: cs => quoted .bytes cs
  | 'b' :: 'r' :: cs => raw .bytes cs
  | 'c' :: '"' :: cs => quoted .zeroEnded cs
  | 'c' :: 'r' :: cs => raw .zeroEnded cs
  | 'b' :: '\'' :: cs => charRest .bytes cs
  | '\'' :: cs => charRest .chars cs
  | _ => none

/-! ## Numbers -/

def isDigitOrGap (c : Char) : Bool := c.isDigit || c = '_'

/-- No name may go on right here. -/
def wordEnd : Scanner
  | [] => some []
  | c :: cs => if Identifier.isContinue c then none else some (c :: cs)

/-- An exponent after its `e`. -/
def exponentRest : Scanner := fun cs =>
  let unsigned :=
    match cs.dropWhile (· = '_') with
    | '+' :: r => r
    | '-' :: r => r
    | r => r
  match unsigned.dropWhile (· = '_') with
  | c :: r => if c.isDigit then some (r.dropWhile isDigitOrGap) else none
  | [] => none

/-- What may follow the digits of a number with a point: an exponent. If it has no value its letter
is left for the suffix. -/
def exponent (cs : List Char) : List Char :=
  match cs with
  | c :: r => if c = 'e' || c = 'E' then (exponentRest r).getD cs else cs
  | [] => []

/-- Digits with a point, an exponent or both. A point before another one or before a name is no
part of a number. -/
def floatDigits : Scanner
  | [] => none
  | c :: cs =>
    if c.isDigit then
      match cs.dropWhile isDigitOrGap with
      | '.' :: r =>
        match r with
        | [] => some []
        | d :: _ =>
          if d = '.' || Identifier.isStart d then none
          else some (exponent (r.dropWhile isDigitOrGap))
      | e :: r => if e = 'e' || e = 'E' then exponentRest r else none
      | [] => none
    else none

/-- The base that a number says it is in, and its digits. -/
def base : List Char → Nat × List Char
  | '0' :: 'x' :: cs => (16, cs)
  | '0' :: 'o' :: cs => (8, cs)
  | '0' :: 'b' :: cs => (2, cs)
  | cs => (10, cs)

/-- The digits of a whole number. -/
def intDigits : Scanner := fun cs =>
  let (b, cs) := base cs
  let run := cs.takeWhile fun c => isDigitOrGap c || (b = 16 && isHex c)
  let digits := run.filter (· ≠ '_')
  if digits.isEmpty || (b = 10 && run.head? = some '_') || digits.any (fun c => b ≤ hexValue c) then
    none
  else some (cs.drop run.length)

/-- A number with letters after it. -/
def number : Scanner := fun cs =>
  match (floatDigits cs).bind fun r => wordEnd (suffix r) with
  | some rest => some rest
  | none => (intDigits cs).bind fun r => wordEnd (suffix r)

def literal : Scanner := anyOf [text, number]

end Scanner

end FieldAtlas.Source
