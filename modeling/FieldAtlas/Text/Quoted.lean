import FieldAtlas.Text.Printable

/-!
# Quoted text

How strings and single characters are written between quotes: line breaks, tabs, backslashes and
the quote itself by a backslash, anything that has no printed form of its own by its code point.
-/

namespace FieldAtlas.Text.Quoted

/-- A number in lower case base 16. -/
def hex (n : Nat) : String := String.ofList (Nat.toDigits 16 n)

/-- The character by its code point. -/
def codePoint (c : Char) : String := "\\u\x7b" ++ hex c.toNat ++ "\x7d"

/-- One character as it stands between quotes; `quotes` are those that need a backslash. -/
def escape (quotes : List Char) (c : Char) : String :=
  if c = '\x00' then "\\0"
  else if c = '\t' then "\\t"
  else if c = '\r' then "\\r"
  else if c = '\n' then "\\n"
  else if c = '\\' || quotes.contains c then "\\" ++ c.toString
  else if Printable.isExtender c || !Printable.isPrintable c then codePoint c
  else c.toString

/-- A string between double quotes. -/
def string (s : String) : String :=
  "\"" ++ String.join (s.toList.map (escape ['"'])) ++ "\""

/-- A character between single quotes. -/
def char (c : Char) : String := "'" ++ escape ['\''] c ++ "'"

/-- The characters of a string written in source code. A NUL before an octal digit is spelled in
full, so that the digit is not read as part of it. -/
def sourceChars : List Char → String
  | [] => ""
  | c :: cs =>
    let shown :=
      if c = '\x00' then
        match cs with
        | d :: _ => if '0' ≤ d && d ≤ '7' then "\\x00" else "\\0"
        | [] => "\\0"
      else escape ['"'] c
    shown ++ sourceChars cs

/-- A string as a literal of source code. -/
def source (s : String) : String := "\"" ++ sourceChars s.toList ++ "\""

end FieldAtlas.Text.Quoted
