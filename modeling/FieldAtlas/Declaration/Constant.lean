import FieldAtlas.Declaration.Basic
import FieldAtlas.Field.KnownType
import FieldAtlas.Value.Basic

/-!
# Constants

The values of simple defaults: literals, with a minus sign or in `Some`, and `None`. What a literal
is depends on the type that is expected.
-/

namespace FieldAtlas

open FieldAtlas.Source

namespace KnownType

/-- The types of one word. -/
def ofWord? : String → Option KnownType
  | "i64" => some .i64
  | "i32" => some .i32
  | "u8" => some .u8
  | "u64" => some .u64
  | "f64" => some .f64
  | "bool" => some .bool
  | "char" => some .char
  | "String" => some .string
  | _ => none

/-- The type that the tokens of some code name. -/
def ofCode? : List String → Option KnownType
  | ["(", ")"] => some .unit
  | ["&", "'", "static", "str"] => some .staticStr
  | [w] => ofWord? w
  | [outer, "<", inner, ">"] =>
    match outer, ofWord? inner with
    | "Vec", some t => some (.vec t)
    | "Option", some t => some (.option t)
    | _, _ => none
  | _ => none

def intKind? : KnownType → Option IntKind
  | .i64 => some .i64
  | .i32 => some .i32
  | .u8 => some .u8
  | .u64 => some .u64
  | _ => none

end KnownType

namespace Constant

/-- What a literal is in a type. -/
def ofLiteral? (t : KnownType) : Literal → Option Scalar
  | .int n _ => t.intKind?.map fun kind => .int kind n
  | .float d => if t = .f64 then some (.double d) else none
  | .bool b => if t = .bool then some (.bool b) else none
  | .char c => if t = .char then some (.char c) else none
  | .text s =>
    match t with
    | .string => some (.text .owned s)
    | .staticStr => some (.text .static s)
    | _ => none
  | .bytes => none

/-- The literal that some tokens are. -/
def literal? : List String → Option Literal
  | ["true"] => some (.bool true)
  | ["false"] => some (.bool false)
  | ["-", w] => some (.ofText ("-" ++ w))
  | [w] => some (.ofText w)
  | _ => none

/-- A number or text that may be missing. -/
def some? (t : KnownType) (l : Literal) : Option Scalar :=
  match t, l with
  | .i64, .int n _ => some (.optInt (some n))
  | .string, .text s => some (.optText (some s))
  | _, _ => none

/-- The value of code in a type. -/
def ofCode? (t : KnownType) (words : List String) : Option Scalar :=
  match t, words with
  | .option .i64, ["None"] => some (.optInt none)
  | .option .string, ["None"] => some (.optText none)
  | .option inner, ["Some", "(", w, ")"] => (literal? [w]).bind (some? inner)
  | .option inner, ["Some", "(", "-", w, ")"] => (literal? ["-", w]).bind (some? inner)
  | t, words => (literal? words).bind (ofLiteral? t)

/-- The value of a default. -/
def ofDefault? (t : KnownType) : DefaultCode → Option Scalar
  | .text literal => ofLiteral? t (.ofText literal)
  | .code tokens => ofCode? t (Token.textsOf tokens)

/-- What a factory named `new` makes: something empty. -/
def empty? : KnownType → Option Scalar
  | .string => some (.text .owned "")
  | .vec .i64 => some (.ints [])
  | .vec .string => some (.texts [])
  | _ => none

end Constant

end FieldAtlas
