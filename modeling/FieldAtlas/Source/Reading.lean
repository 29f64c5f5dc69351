import FieldAtlas.Source.Literal
import FieldAtlas.Source.Token

/-!
# Reading tokens

A reading goes through a list of tokens from left to right. It keeps what it has read as that will
be written again, and gives up at the first token that does not fit.
-/

namespace FieldAtlas.Source

/-- What is wrong, and where. -/
structure Fault where
  pos : Pos
  message : String
  deriving DecidableEq

structure Cursor where
  rest : List Token
  /-- The place that stands for the end of the tokens: the bracket behind them. -/
  stop : Pos
  /-- What has been read, the last token first. -/
  taken : List Token
  /-- The first token that was left over at the end of a group. -/
  stray : Option Fault

namespace Cursor

def ofTokens (rest : List Token) (stop : Pos) : Cursor := ⟨rest, stop, [], none⟩

/-- Where the next token starts. -/
def pos (c : Cursor) : Pos :=
  match c.rest with
  | [] => c.stop
  | t :: _ => t.pos

def atEnd (c : Cursor) : Bool := c.rest.isEmpty

/-! ## What comes next -/

/-- The punctuation in front begins with these characters, with nothing between them. -/
def startsWith : List Char → List Token → Bool
  | [], _ => true
  | [c], .punct _ d _ :: _ => c == d
  | c :: cs, .punct _ d joint :: ts => c == d && joint && startsWith cs ts
  | _, _ => false

def atPunct (c : Cursor) (text : String) : Bool := startsWith text.toList c.rest

/-- One of several marks comes next. -/
def atAny (c : Cursor) (texts : List String) : Bool := texts.any c.atPunct

def atWord (c : Cursor) (name : String) : Bool :=
  match c.rest with
  | .word _ w :: _ => w == name
  | _ => false

def atAnyWord (c : Cursor) : Bool :=
  match c.rest with
  | .word .. :: _ => true
  | _ => false

/-- Words that are no names. -/
def keywords : List String := [
  "_", "abstract", "as", "async", "await", "become", "box", "break", "const", "continue", "crate",
  "do", "dyn", "else", "enum", "extern", "false", "final", "fn", "for", "if", "impl", "in", "let",
  "loop", "macro", "match", "mod", "move", "mut", "override", "priv", "pub", "ref", "return",
  "Self", "self", "static", "struct", "super", "trait", "true", "try", "type", "typeof", "unsafe",
  "unsized", "use", "virtual", "where", "while", "yield"]

def atName (c : Cursor) : Bool :=
  match c.rest with
  | .word _ w :: _ => !keywords.contains w
  | _ => false

/-- Words that a path may start with although they are no names. -/
def atPathKeyword (c : Cursor) : Bool := ["super", "self", "Self", "crate"].any c.atWord

def atGroup (c : Cursor) (d : Delimiter) : Bool :=
  match c.rest with
  | .group e _ _ _ :: _ => d == e
  | _ => false

def atLifetime (c : Cursor) : Bool :=
  match c.rest with
  | .punct _ '\'' _ :: .word .. :: _ => true
  | _ => false

/-- The literal in front, and what follows it. Numbers may have a minus sign, and truth values are
literals too. -/
def literal? (c : Cursor) : Option (Literal × List Token) :=
  match c.rest with
  | .literal _ text :: ts => some (.ofText text, ts)
  | .word _ "true" :: ts => some (.bool true, ts)
  | .word _ "false" :: ts => some (.bool false, ts)
  | .punct _ '-' _ :: .literal _ text :: ts =>
    let l := Literal.ofText ("-" ++ text)
    if (Literal.ofText text).isNumber then some (l, ts) else none
  | _ => none

def atLiteral (c : Cursor) : Bool := c.literal?.isSome

/-- The cursor behind the next token; a lifetime counts as one. -/
def next (c : Cursor) : Cursor :=
  match c.rest with
  | .punct _ '\'' _ :: .word .. :: ts => { c with rest := ts }
  | _ :: ts => { c with rest := ts }
  | [] => c

/-- Moves over `count` tokens. -/
def advance (c : Cursor) (count : Nat) : Cursor :=
  { c with rest := c.rest.drop count, taken := (c.rest.take count).reverse ++ c.taken }

end Cursor

/-- A reading step: a result and the cursor behind it, or what is wrong. -/
abbrev Reading (α : Type) := StateT Cursor (Except Fault) α

namespace Reading

open Cursor

/-- Gives up at a place. -/
def failAt {α : Type} (pos : Pos) (message : String) : Reading α := throw ⟨pos, message⟩

/-- Gives up here. At the end of the tokens the message says so. -/
def fail {α : Type} (message : String) : Reading α := do
  let c ← get
  failAt c.pos (if c.atEnd then "unexpected end of input, " ++ message else message)

/-- Gives up because none of several things is here. -/
def failExpected {α : Type} (what : List String) : Reading α :=
  match what with
  | [a] => fail ("expected " ++ a)
  | [a, b] => fail ("expected " ++ a ++ " or " ++ b)
  | _ => fail ("expected one of: " ++ ", ".intercalate what)

/-- A mark or keyword as messages show it. -/
def shown (text : String) : String := "`" ++ text ++ "`"

/-- Reads `count` tokens as they are. -/
def take (count : Nat) : Reading Unit := modify fun c => c.advance count

/-- Puts a token into what is written that was not read. -/
def write (t : Token) : Reading Unit := modify fun c => { c with taken := t :: c.taken }

/-- Reads a mark. -/
def punct (text : String) : Reading Unit := do
  let c ← get
  if c.atPunct text then take text.length else failAt c.pos ("expected " ++ shown text)

/-- Reads a mark if it is here, and says whether it was. -/
def punct? (text : String) : Reading Bool := do
  if (← get).atPunct text then
    take text.length
    return true
  else return false

def word (name : String) : Reading Unit := do
  if (← get).atWord name then take 1 else failExpected [shown name]

def word? (name : String) : Reading Bool := do
  if (← get).atWord name then
    take 1
    return true
  else return false

/-- A word with its place, be it a name or a keyword. -/
def anyWord : Reading (Pos × String) := do
  match (← get).rest with
  | .word pos w :: _ =>
    take 1
    return (pos, w)
  | _ => failExpected ["ident"]

/-- A name with its place. -/
def name : Reading (Pos × String) := do
  let c ← get
  match c.rest with
  | .word _ w :: _ =>
    if keywords.contains w then fail ("expected identifier, found keyword " ++ shown w) else anyWord
  | _ => failExpected ["identifier"]

def lifetime : Reading Unit := do
  if (← get).atLifetime then take 2 else failExpected ["lifetime"]

/-- A literal of a kind that `accept` knows, which messages call `what`. -/
def literal {α : Type} (what : String) (accept : Literal → Option α) : Reading α := do
  let c ← get
  match c.literal? with
  | none => failExpected [what]
  | some (l, rest) =>
    match accept l with
    | none => failExpected [what]
    | some a =>
      take (c.rest.length - rest.length)
      return a

/-- A literal that stands for text: how it is written, and the text. -/
def textLiteral : Reading (String × String) := do
  match (← get).rest with
  | .literal _ written :: _ =>
    match Literal.ofText written with
    | .text value =>
      take 1
      return (written, value)
    | _ => failExpected ["string literal"]
  | _ => failExpected ["string literal"]

/-! ## Groups -/

def groupName : Delimiter → String
  | .parens => "parentheses"
  | .brackets => "square brackets"
  | .braces => "curly braces"

/-- What is wrong with a token that nothing has read before the end of its group. -/
def strayFault (d : Delimiter) (t : Token) : Fault :=
  ⟨t.pos, "unexpected token, expected " ++ shown d.closing⟩

/-- Reads a group, and its content by `content`. Tokens that are left over are remembered. -/
def group {α : Type} (d : Delimiter) (content : Reading α) : Reading α := do
  let c ← get
  match c.rest with
  | .group e opened inner closed :: rest =>
    if d = e then
      let (a, i) ← content.run ⟨inner, closed, [], c.stray⟩
      let stray := i.stray.or (i.rest.head?.map (strayFault d))
      set { c with
        rest := rest
        taken := .group d opened i.taken.reverse closed :: c.taken
        stray := stray }
      return a
    else failExpected [groupName d]
  | _ => failExpected [groupName d]

/-- The content of a group as it is. -/
def anything : Reading Unit := do take (← get).rest.length

/-! ## Repetition -/

/-- Reads items with separators between them until `stop`, in at most `limit` rounds. -/
def separatedWithin {α : Type} (stop : Cursor → Bool) (separator : Reading Unit)
    (item : Reading α) : Nat → Reading (List α)
  | 0 => return []
  | limit + 1 => do
    if stop (← get) then return []
    let a ← item
    if stop (← get) then return [a]
    separator
    return a :: (← separatedWithin stop separator item limit)

/-- Reads items with separators between them until `stop`. A separator may be the last thing. -/
def separated {α : Type} (stop : Cursor → Bool) (separator : Reading Unit) (item : Reading α) :
    Reading (List α) := do
  separatedWithin stop separator item ((← get).rest.length + 1)

/-- Items with commas between them up to the end. -/
def commaList {α : Type} (item : Reading α) : Reading (List α) :=
  separated atEnd (punct ",") item

/-- Reads items as long as `more` holds, in at most `limit` rounds. -/
def repeatWithin {α : Type} (more : Cursor → Bool) (item : Reading α) : Nat → Reading (List α)
  | 0 => return []
  | limit + 1 => do
    if more (← get) then
      let a ← item
      return a :: (← repeatWithin more item limit)
    else return []

/-- Reads items as long as `more` holds. -/
def repeatWhile {α : Type} (more : Cursor → Bool) (item : Reading α) : Reading (List α) := do
  repeatWithin more item ((← get).rest.length + 1)

/-- Reads items with `+` between them, and stops where there is none or where `stop` holds. -/
def sumWithin {α : Type} (stop : Cursor → Bool) (item : Reading α) : Nat → Reading (List α)
  | 0 => return []
  | limit + 1 => do
    if stop (← get) then return []
    let a ← item
    if ← punct? "+" then return a :: (← sumWithin stop item limit)
    return [a]

/-- Items with `+` between them and perhaps behind them. -/
def sum {α : Type} (stop : Cursor → Bool) (item : Reading α) : Reading (List α) := do
  sumWithin stop item ((← get).rest.length + 1)

/-- Reads with `r` if that goes well, and stays here otherwise. -/
def attempt {α : Type} (r : Reading α) : Reading (Option α) := do
  match r.run (← get) with
  | .ok (a, c) =>
    set c
    return some a
  | .error _ => return none

/-- Reads with `r`, and takes what it wrote out of what is written. -/
def written {α : Type} (r : Reading α) : Reading (α × List Token) := do
  let before := (← get).taken
  modify fun c => { c with taken := [] }
  let a ← r
  let tokens := (← get).taken.reverse
  modify fun c => { c with taken := before }
  return (a, tokens)

/-- Puts tokens into what is written. -/
def writeAll (ts : List Token) : Reading Unit :=
  modify fun c => { c with taken := ts.reverse ++ c.taken }

/-- Reads all of some tokens that end at `stop`. -/
def runAll {α : Type} (r : Reading α) (tokens : List Token) (stop : Pos) : Except Fault α := do
  let (a, c) ← r.run (.ofTokens tokens stop)
  match c.stray, c.rest with
  | some f, _ => throw f
  | none, [] => return a
  | none, t :: _ => throw ⟨t.pos, "unexpected token"⟩

end Reading

end FieldAtlas.Source
