import FieldAtlas.Source.Lexeme
import FieldAtlas.Source.Token
import FieldAtlas.Text.Quoted

/-!
# From text to tokens

The text is cut into leaves and brackets, and the brackets are then matched. A comment that
documents something becomes an attribute, as if it had been written as one.
-/

namespace FieldAtlas.Source

/-- A leaf or one side of a group. -/
inductive Piece where
  | leaf (t : Token)
  | opened (d : Delimiter) (pos : Pos)
  | closed (d : Delimiter) (pos : Pos)

namespace Piece

def delimiter? : Char → Option (Delimiter × Bool)
  | '(' => some (.parens, true)
  | ')' => some (.parens, false)
  | '[' => some (.brackets, true)
  | ']' => some (.brackets, false)
  | '\x7b' => some (.braces, true)
  | '\x7d' => some (.braces, false)
  | _ => none

/-! ## Documenting comments -/

/-- A carriage return on its own, which no documenting comment may hold. -/
def hasBareReturn : List Char → Bool
  | '\r' :: '\n' :: cs => hasBareReturn cs
  | '\r' :: _ => true
  | _ :: cs => hasBareReturn cs
  | [] => false

/-- The rest of the line without its end, and what follows it. -/
def lineRest : List Char → List Char × List Char
  | [] => ([], [])
  | '\n' :: cs => ([], '\n' :: cs)
  | '\r' :: '\n' :: cs => ([], '\n' :: cs)
  | c :: cs =>
    let (line, rest) := lineRest cs
    (c :: line, rest)

/-- The text of a comment between marks, and what follows it. -/
def blockText (cs : List Char) : Option (List Char × List Char) :=
  (Scanner.blockRest 0 cs).map fun rest => (cs.take (cs.length - rest.length - 2), rest)

/-- The text of a documenting comment, whether it is about what it stands in, and what follows. -/
def documentation? : List Char → Option (List Char × Bool × List Char)
  | '/' :: '/' :: '!' :: cs =>
    let (line, rest) := lineRest cs
    some (line, true, rest)
  | '/' :: '/' :: '/' :: '/' :: _ => none
  | '/' :: '/' :: '/' :: cs =>
    let (line, rest) := lineRest cs
    some (line, false, rest)
  | '/' :: '*' :: '!' :: cs => (blockText cs).map fun (text, rest) => (text, true, rest)
  | '/' :: '*' :: '*' :: '*' :: _ => none
  | '/' :: '*' :: '*' :: cs => (blockText cs).map fun (text, rest) => (text, false, rest)
  | _ => none

/-- The attribute that a documenting comment stands for. -/
def remark (pos : Pos) (text : List Char) (inner : Bool) : List Token :=
  .punct pos '#' false :: ((if inner then [.punct pos '!' false] else []) ++
    [.group .brackets pos [
      .word pos "doc", .punct pos '=' false,
      .literal pos (Text.Quoted.source (String.ofList text))] pos])

/-! ## Leaves -/

def isPunct (c : Char) : Bool := "~!@#$%^&*-=+|;:,<.>/?'".toList.contains c

/-- Punctuation in front, which is not the beginning of a comment. -/
def startsPunct : List Char → Bool
  | '/' :: '/' :: _ => false
  | '/' :: '*' :: _ => false
  | c :: _ => isPunct c
  | [] => false

/-- A quote in front is that of a lifetime. -/
def startsLifetime (cs : List Char) : Bool :=
  match Scanner.name cs with
  | none => false
  | some ('\'' :: _) => false
  | some ('#' :: _) => "r#".toList.isPrefixOf cs
  | some _ => true

/-- The leaf in front, and what follows it. -/
def leaf? (pos : Pos) (cs : List Char) : Option (Token × List Char) :=
  match Scanner.literal cs with
  | some rest => some (.literal pos (String.ofList (cs.take (cs.length - rest.length))), rest)
  | none =>
    match cs with
    | [] => none
    | c :: rest =>
      if startsPunct cs then
        if c = '\'' then if startsLifetime rest then some (.punct pos c true, rest) else none
        else some (.punct pos c (startsPunct rest), rest)
      else
        (Scanner.word cs).map fun rest =>
          (.word pos (String.ofList (cs.take (cs.length - rest.length))), rest)

/-- The pieces of what is in front, and what follows. A documenting comment has several. -/
def next? (pos : Pos) (cs : List Char) : Option (List Piece × List Char) :=
  match documentation? cs with
  | some (text, inner, rest) =>
    if hasBareReturn text then none else some ((remark pos text inner).map .leaf, rest)
  | none =>
    match cs with
    | [] => none
    | c :: rest =>
      match delimiter? c with
      | some (d, true) => some ([.opened d pos], rest)
      | some (d, false) => some ([.closed d pos], rest)
      | none => (leaf? pos cs).map fun (t, rest) => ([.leaf t], rest)

/-- All pieces of a text that starts at `pos`, or none if something in it is no piece. -/
def scan? (pos : Pos) (cs : List Char) : Option (List Piece) :=
  let bare := Scanner.gaps cs
  let pos := pos.afterAll (cs.take (cs.length - bare.length))
  if bare.isEmpty then some []
  else
    match next? pos bare with
    | none => none
    | some (pieces, rest) =>
      if rest.length < cs.length then
        (scan? (pos.afterAll (bare.take (bare.length - rest.length))) rest).map (pieces ++ ·)
      else none
termination_by cs.length

end Piece

namespace Token

/-- A group that is still open, and the tokens in front of it, the last one first. -/
structure Opening where
  delimiter : Delimiter
  pos : Pos
  before : List Token

/-- Matches brackets. `done` are the tokens of the innermost open group, the last one first. -/
def nest (done : List Token) (stack : List Opening) : List Piece → Option (List Token)
  | [] => if stack.isEmpty then some done.reverse else none
  | .leaf t :: pieces => nest (t :: done) stack pieces
  | .opened d pos :: pieces => nest [] (⟨d, pos, done⟩ :: stack) pieces
  | .closed d pos :: pieces =>
    match stack with
    | [] => none
    | o :: stack =>
      if o.delimiter = d then nest (.group d o.pos done.reverse pos :: o.before) stack pieces
      else none

/-- The tokens of a source text. A byte order mark in front is no token, but takes up a column. -/
def ofText? (source : String) : Option (List Token) :=
  let pieces :=
    match source.toList with
    | '\ufeff' :: cs => Piece.scan? (Pos.start.after '\ufeff') cs
    | cs => Piece.scan? .start cs
  pieces.bind (nest [] [])

end Token

end FieldAtlas.Source
