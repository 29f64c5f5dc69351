import FieldAtlas.Toml.Scalar

/-!
# Reading TOML

A reader takes something off the front of the text, or finds that it is not there. What is wrong
with a text that is no document is not said.
-/

namespace FieldAtlas.Toml

/-- What was read and what is left. -/
abbrev Reader (α : Type) := List Char → Option (α × List Char)

/-- Reads with `item` as often as it works and takes something off. -/
def many {α : Type} (item : Reader α) (cs : List Char) : List α × List Char :=
  match item cs with
  | none => ([], cs)
  | some (a, rest) =>
    if rest.length < cs.length then
      let (more, rest) := many item rest
      (a :: more, rest)
    else ([a], rest)
termination_by cs.length

def exactly (text : List Char) : Reader Unit := fun cs =>
  if text.isPrefixOf cs then some ((), cs.drop text.length) else none

def isBlank (c : Char) : Bool := c = ' ' || c = '\t'

def skipBlanks (cs : List Char) : List Char := cs.dropWhile isBlank

def newline : Reader Unit
  | '\n' :: cs => some ((), cs)
  | '\r' :: '\n' :: cs => some ((), cs)
  | _ => none

/-- No control character but the tab. -/
def isVisible (c : Char) : Bool := c = '\t' || (' ' ≤ c && c ≠ '\x7f')

/-- A comment up to the end of its line. -/
def skipComment : List Char → List Char
  | '#' :: cs => cs.dropWhile isVisible
  | cs => cs

/-- Blanks, a comment, and the end of the line or of the text. -/
def lineEnd : Reader Unit := fun cs =>
  match skipComment (skipBlanks cs) with
  | [] => some ((), [])
  | cs => newline cs

/-- One blank, line break or commented line end inside an array. -/
def filler : Reader Unit
  | '#' :: cs =>
    newline (skipComment ('#' :: cs))
  | c :: cs => if isBlank c then some ((), cs) else newline (c :: cs)
  | [] => none

def skipFiller (cs : List Char) : List Char := (many filler cs).2

/-! ## Text -/

/-- The character that a number of hexadecimal digits stands for. -/
def codePoint (count : Nat) : Reader Char := fun cs =>
  let digits := cs.take count
  let n := valueIn 16 hexDigit digits
  if digits.length = count && digits.all isHexDigit && n.isValidChar then
    some (Char.ofNat n, cs.drop count)
  else none

/-- What follows a backslash. -/
def escaped : Reader Char
  | 'b' :: cs => some ('\x08', cs)
  | 't' :: cs => some ('\t', cs)
  | 'n' :: cs => some ('\n', cs)
  | 'f' :: cs => some ('\x0c', cs)
  | 'r' :: cs => some ('\r', cs)
  | '"' :: cs => some ('"', cs)
  | '\\' :: cs => some ('\\', cs)
  | 'u' :: cs => codePoint 4 cs
  | 'U' :: cs => codePoint 8 cs
  | _ => none

/-- A character between double quotes. -/
def basicChar : Reader Char
  | '\\' :: cs => escaped cs
  | '"' :: _ => none
  | c :: cs => if isVisible c then some (c, cs) else none
  | [] => none

/-- A character between single quotes. -/
def literalChar : Reader Char
  | '\'' :: _ => none
  | c :: cs => if isVisible c then some (c, cs) else none
  | [] => none

/-- Text on one line, after its opening quote. -/
def lineText (char : Reader Char) (quote : Char) : Reader String := fun cs =>
  let (chars, rest) := many char cs
  match rest with
  | c :: rest => if c = quote then some (String.ofList chars, rest) else none
  | [] => none

/-- A quote that does not end a text of several lines. Up to two may stand anywhere, also in front
of the closing three. -/
def looseQuote (quote : Char) : Reader (List Char) := fun cs =>
  let count := (cs.takeWhile (· = quote)).length
  if [1, 2, 4, 5].contains count then some ([quote], cs.drop 1) else none

/-- A backslash at the end of a line, with all blanks and line breaks after it. -/
def continuation : Reader (List Char)
  | '\\' :: cs =>
    (newline (skipBlanks cs)).map fun (_, rest) =>
      ([], (many (fun cs => match cs with
        | c :: r => if isBlank c then some ((), r) else newline (c :: r)
        | [] => none) rest).2)
  | _ => none

def breakText : Reader (List Char) := fun cs => (newline cs).map fun (_, rest) => (['\n'], rest)

/-- A piece of text over several lines. -/
def blockPiece (char : Reader Char) (continued : Bool) (quote : Char) : Reader (List Char) :=
  fun cs =>
    (if continued then continuation cs else none).or
      ((breakText cs).or
        (((char cs).map fun (c, rest) => ([c], rest)).or (looseQuote quote cs)))

/-- Text over several lines, after its three opening quotes. A line break right behind these is
dropped. -/
def blockText (char : Reader Char) (continued : Bool) (quote : Char) : Reader String := fun cs =>
  let body := match newline cs with
    | some (_, rest) => rest
    | none => cs
  let (pieces, rest) := many (blockPiece char continued quote) body
  (exactly [quote, quote, quote] rest).map fun (_, rest) => (String.ofList pieces.flatten, rest)

def text : Reader String
  | '"' :: '"' :: '"' :: cs => blockText basicChar true '"' cs
  | '"' :: cs => lineText basicChar '"' cs
  | '\'' :: '\'' :: '\'' :: cs => blockText literalChar false '\'' cs
  | '\'' :: cs => lineText literalChar '\'' cs
  | _ => none

/-! ## Keys -/

def isBare (c : Char) : Bool := c.isAlphanum || c = '_' || c = '-'

/-- A name that is bare or in quotes, on one line. -/
def keyName : Reader String
  | '"' :: cs => lineText basicChar '"' cs
  | '\'' :: cs => lineText literalChar '\'' cs
  | cs =>
    let name := cs.takeWhile isBare
    if name.isEmpty then none else some (String.ofList name, cs.dropWhile isBare)

/-- A name after a dot. -/
def dottedName : Reader String := fun cs =>
  match skipBlanks cs with
  | '.' :: cs => keyName (skipBlanks cs)
  | _ => none

/-- How deep arrays and tables, and how long keys, may be. -/
def depthLimit : Nat := 80

def key : Reader Key := fun cs =>
  (keyName (skipBlanks cs)).bind fun (first, rest) =>
    let (more, rest) := many dottedName rest
    let names := first :: more
    if depthLimit ≤ names.length then none
    else some (⟨names.dropLast, names.getLastD first⟩, skipBlanks rest)

/-! ## Values -/

def isWordChar (c : Char) : Bool :=
  c.isAlphanum || c = '+' || c = '-' || c = '_' || c = '.' || c = ':'

/-- A value in one piece. A date may have its time after a blank. -/
def word : Reader Node := fun cs =>
  let first := cs.takeWhile isWordChar
  let rest := cs.dropWhile isWordChar
  let second :=
    match rest with
    | ' ' :: r => if isDate first && isClock (r.take 5) then ' ' :: r.takeWhile isWordChar else []
    | _ => []
  (word? (first ++ second)).map fun node => (node, rest.drop second.length)

/-- An entry `key = value`, where `value` reads values. -/
def entry (value : Reader Node) : Reader (Key × Node) := fun cs =>
  (key cs).bind fun (k, rest) =>
    match rest with
    | '=' :: rest => (value (skipBlanks rest)).map fun (node, rest) => ((k, node), rest)
    | _ => none

/-- Something after a comma. -/
def afterComma {α : Type} (skip : List Char → List Char) (item : Reader α) : Reader α := fun cs =>
  match skip cs with
  | ',' :: cs => item (skip cs)
  | _ => none

/-- The items of an array, after its bracket. A comma may stand at the end. -/
def arrayItems (value : Reader Node) : Reader Node := fun cs =>
  match skipFiller cs with
  | ']' :: rest => some (.array [], rest)
  | cs =>
    (value cs).bind fun (first, rest) =>
      let (more, rest) := many (afterComma skipFiller value) rest
      let rest := skipFiller rest
      let rest := match rest with
        | ',' :: r => skipFiller r
        | r => r
      match rest with
      | ']' :: rest => some (.array (first :: more), rest)
      | _ => none

/-- The entries of a table in braces, after the opening one. -/
def tableEntries (value : Reader Node) : Reader Node := fun cs =>
  match skipBlanks cs with
  | '}' :: rest => some (.inlined [], rest)
  | cs =>
    (entry value cs).bind fun (first, rest) =>
      let (more, rest) := many (afterComma skipBlanks (entry value)) rest
      match skipBlanks rest with
      | '}' :: rest =>
        ((first :: more).foldlM (fun es e => Entries.addAt? e.1.path e.1.name e.2 es) []).map
          fun es => (.inlined es, rest)
      | _ => none

/-- A value in which arrays and tables go at most `depth` deep. -/
def value : (depth : Nat) → Reader Node
  | depth, cs =>
    match cs with
    | '"' :: _ => (text cs).map fun (s, rest) => (.text s, rest)
    | '\'' :: _ => (text cs).map fun (s, rest) => (.text s, rest)
    | '[' :: rest =>
      match depth with
      | 0 => none
      | depth + 1 => arrayItems (value depth) rest
    | '{' :: rest =>
      match depth with
      | 0 => none
      | depth + 1 => tableEntries (value depth) rest
    | cs => word cs

/-! ## Documents -/

/-- One line of a document, or none for an empty one. -/
def statement : Reader (Option Statement) := fun cs =>
  match skipBlanks cs with
  | [] => none
  | '[' :: '[' :: rest =>
    (key rest).bind fun (k, rest) =>
      (exactly [']', ']'] rest).bind fun (_, rest) =>
        (lineEnd rest).map fun (_, rest) => (some (.repeatedHeader k), rest)
  | '[' :: rest =>
    (key rest).bind fun (k, rest) =>
      (exactly [']'] rest).bind fun (_, rest) =>
        (lineEnd rest).map fun (_, rest) => (some (.header k), rest)
  | '#' :: rest => (lineEnd ('#' :: rest)).map fun (_, rest) => (none, rest)
  | c :: rest =>
    if c = '\n' || c = '\r' then (newline (c :: rest)).map fun (_, rest) => (none, rest)
    else
      (entry (value (depthLimit - 1)) (c :: rest)).bind fun (e, rest) =>
        (lineEnd rest).map fun (_, rest) => (some (.entry e.1 e.2), rest)

/-- The document that a text holds, if it is one. A byte order mark in front is dropped. -/
def document? (source : String) : Option Entries :=
  let cs := match source.toList with
    | '\ufeff' :: cs => cs
    | cs => cs
  let (statements, rest) := many statement cs
  if (skipBlanks rest).isEmpty then assemble (statements.filterMap id) else none

end FieldAtlas.Toml
