/-!
# Tokens

Source text as a tree: words, punctuation characters and literals, and groups of tokens between
brackets. Each token knows where it starts.
-/

namespace FieldAtlas.Source

/-- A place in a text: the line from 1 on, the column in characters from 0 on. -/
structure Pos where
  line : Nat
  column : Nat
  deriving DecidableEq

namespace Pos

def start : Pos := ⟨1, 0⟩

/-- The place after a character. -/
def after (p : Pos) (c : Char) : Pos :=
  if c = '\n' then ⟨p.line + 1, 0⟩ else ⟨p.line, p.column + 1⟩

def afterAll (p : Pos) (cs : List Char) : Pos := cs.foldl after p

end Pos

inductive Delimiter where
  | parens
  | brackets
  | braces
  deriving DecidableEq

namespace Delimiter

def opening : Delimiter → String
  | parens => "("
  | brackets => "["
  | braces => "\x7b"

def closing : Delimiter → String
  | parens => ")"
  | brackets => "]"
  | braces => "\x7d"

end Delimiter

inductive Token where
  /-- A name or keyword. A raw name has its `r#` in front. -/
  | word (pos : Pos) (name : String)
  /-- One punctuation character; a joint one stands right before another. -/
  | punct (pos : Pos) (c : Char) (joint : Bool)
  | literal (pos : Pos) (text : String)
  | group (d : Delimiter) (opened : Pos) (content : List Token) (closed : Pos)

namespace Token

/-- Where the token starts. -/
def pos : Token → Pos
  | word p _ => p
  | punct p _ _ => p
  | literal p _ => p
  | group _ p _ _ => p

/-- The text of a literal, whose minus sign is on its own. -/
def literalTexts (text : String) : List String :=
  match text.toList with
  | '-' :: cs => ["-", String.ofList cs]
  | _ => [text]

mutual

/-- The texts of a token and of all in it, in order. -/
def texts : Token → List String
  | word _ name => [name]
  | punct _ c _ => [c.toString]
  | literal _ text => literalTexts text
  | group d _ content _ => d.opening :: (textsOf content ++ [d.closing])

def textsOf : List Token → List String
  | [] => []
  | t :: ts => texts t ++ textsOf ts

end

mutual

/-- How many tokens there are, those in groups included. -/
def size : Token → Nat
  | word .. => 1
  | punct .. => 1
  | literal .. => 1
  | group _ _ content _ => 1 + sizeOf content

def sizeOf : List Token → Nat
  | [] => 0
  | t :: ts => size t + sizeOf ts

end

end Token

/-- A raw name without its `r#`. -/
def unraw (name : String) : String :=
  match name.toList with
  | 'r' :: '#' :: cs => String.ofList cs
  | _ => name

end FieldAtlas.Source
