import FieldAtlas.Source.Grammar.Pattern
import FieldAtlas.Source.Grammar.Type

/-!
# Expressions

Expressions with their operators, read by precedence.
-/

namespace FieldAtlas.Source.Grammar

open Reading

/-! ## Operators -/

/-- Binary operators with their precedence, the longer ones before those that they start with. -/
def operators : List (String × Precedence) := [
  ("+=", .assign), ("-=", .assign), ("*=", .assign), ("/=", .assign), ("%=", .assign),
  ("^=", .assign), ("&=", .assign), ("|=", .assign), ("<<=", .assign), (">>=", .assign),
  ("&&", .and), ("||", .or), ("<<", .shift), (">>", .shift), ("==", .compare), ("<=", .compare),
  ("!=", .compare), (">=", .compare), ("+", .sum), ("-", .sum), ("*", .product), ("/", .product),
  ("%", .product), ("^", .bitXor), ("&", .bitAnd), ("|", .bitOr), ("<", .compare), (">", .compare)]

/-- The binary operator that comes next. -/
def operator? (c : Cursor) : Option (String × Precedence) :=
  operators.find? fun o => c.atPunct o.1

def atAssignment (c : Cursor) : Bool := c.atPunct "=" && !c.atPunct "=>"

/-- The precedence of what comes next. -/
def nextPrecedence (c : Cursor) : Precedence :=
  match operator? c with
  | some (_, p) => p
  | none =>
    if atAssignment c then .assign
    else if c.atPunct ".." then .range
    else if c.atWord "as" then .cast
    else .jump

variable (rules : Rules)

/-- An operand goes on as long as what follows binds more tightly than the operator in front. -/
def operandWithin (struct : Bool) (base : Precedence) : (limit : Nat) → Shape → Reading Shape
  | 0, shape => return shape
  | limit + 1, shape => do
    let c ← get
    let next := nextPrecedence c
    if base.rank < next.rank || (next == base && base == .assign) then
      let shape ← rules.climb struct next shape
      if (← get).rest.length = c.rest.length then return shape
      operandWithin struct base limit shape
    else return shape

/-- The right side of an operator. -/
def operand (struct : Bool) (base : Precedence) : Reading Unit := do
  let shape ← rules.unary struct
  discard (operandWithin rules struct base ((← get).rest.length + 1) shape)

/-- What comes next, if it binds more tightly than a cast. -/
def behindCast? (c : Cursor) : Option String :=
  if c.atPunct "." && !c.atPunct ".." then
    if c.next.atWord "await" then some "`.await`"
    else if c.next.atName && (c.next.next.atGroup .parens || c.next.next.atPunct "::") then
      some "a method call"
    else some "a field access"
  else if c.atPunct "?" then some "`?`"
  else if c.atGroup .brackets then some "indexing"
  else if c.atGroup .parens then some "a function call"
  else none

/-- A cast may not be followed by anything that binds more tightly. -/
def checkCast : Reading Unit := do
  match behindCast? (← get) with
  | some found => fail ("casts cannot be followed by " ++ found)
  | none => return

/-- Nothing can be the end of a range here. -/
def endsRange (struct : Bool) (c : Cursor) : Bool :=
  c.atEnd || (c.atPunct "." && !c.atPunct "..") || (!struct && c.atGroup .braces) ||
  c.atWord "as" ||
  c.atAny [",", ";", "?", "=>", "=", "+", "/", "%", "^", ">", "<=", "!=", "-=", "*=", "&=", "|=",
    "<<="]

/-- A range behind its lower side. -/
def rangeTail (struct : Bool) : Reading Unit := do
  let closed ← dots
  if closed || !endsRange struct (← get) then operand rules struct .range

def climbWithin (struct : Bool) (base : Precedence) : (limit : Nat) → Shape → Reading Shape
  | 0, shape => return shape
  | limit + 1, shape => do
    if shape = .range then return shape
    let c ← get
    match operator? c with
    | some (text, precedence) =>
      if precedence.rank < base.rank then return shape
      if precedence == .compare && shape == .comparison then
        fail "comparison operators cannot be chained"
      punct text
      operand rules struct precedence
      climbWithin struct base limit (if precedence == .compare then .comparison else .plain)
    | none =>
      if base.rank ≤ Precedence.assign.rank && atAssignment c then
        punct "="
        operand rules struct .assign
        climbWithin struct base limit .plain
      else if base.rank ≤ Precedence.range.rank && c.atPunct ".." then
        rangeTail rules struct
        climbWithin struct base limit .range
      else if c.atWord "as" then
        word "as"
        discard (rules.type false)
        checkCast
        climbWithin struct base limit .plain
      else return shape

/-- What binds at least as tightly as `base` behind something of a shape. -/
def climb (struct : Bool) (base : Precedence) (shape : Shape) : Reading Shape := do
  climbWithin rules struct base ((← get).rest.length + 1) shape

/-- An expression. -/
def expr (struct : Bool) : Reading Shape := do
  let shape ← rules.unary struct
  rules.climb struct .jump shape

/-- A token that an expression may start with. -/
def startsExpr (c : Cursor) : Bool :=
  (c.atAnyWord && !c.atWord "as") || c.atGroup .parens || c.atGroup .brackets ||
  c.atGroup .braces || c.atLiteral || (c.atPunct "!" && !c.atPunct "!=") ||
  (c.atPunct "-" && !c.atPunct "-=" && !c.atPunct "->") ||
  (c.atPunct "*" && !c.atPunct "*=") || (c.atPunct "|" && !c.atPunct "|=") ||
  (c.atPunct "&" && !c.atPunct "&=") || c.atPunct ".." ||
  (c.atPunct "<" && !c.atPunct "<=" && !c.atPunct "<<=") || c.atPunct "::" || c.atLifetime ||
  c.atPunct "#"

/-! ## Behind an expression -/

/-- Expressions with commas between them in parentheses. -/
def callList : Reading Unit := discard (group .parens (commaList (rules.expr true)))

/-- Parts of a decimal literal between its points. -/
def pointParts (cs : List Char) : List (List Char) :=
  match cs.span (· ≠ '.') with
  | (part, '.' :: rest) =>
    match rest.span (· ≠ '.') with
    | (last, []) => [part, last]
    | (middle, _) => [part, middle]
  | (part, _) => [part]

/-- The number of a tuple field. -/
def tupleIndex (pos : Pos) (digits : List Char) : Reading Unit := do
  match Literal.ofText (String.ofList digits) with
  | .int n false => write (.literal pos (toString n))
  | .int _ true => failAt pos "expected unsuffixed integer"
  | _ => failAt pos "expected integer literal"

/-- Two numbers of tuple fields with a point between them look like one number. Gives whether a
name has to follow. -/
def tupleIndices (pos : Pos) (text : String) : Reading Bool := do
  match pointParts text.toList with
  | [first, []] =>
    tupleIndex pos first
    write (.punct pos '.' false)
    return true
  | [first, second] =>
    tupleIndex pos first
    write (.punct pos '.' false)
    tupleIndex pos second
    return false
  | parts =>
    tupleIndex pos parts.flatten
    return false

/-- A field, a call of a method, or a wait, behind a point. -/
def afterPoint : Reading Unit := do
  if (← get).atWord "await" then take 1
  else
    let c ← get
    match c.rest with
    | .literal pos text :: _ =>
      match Literal.ofText text with
      | .int .. =>
        discard (written (take 1))
        tupleIndex pos text.toList
      | _ => discard member
    | _ =>
      discard member
      let turbofish := (← get).atPunct "::"
      if turbofish then
        punct "::"
        arguments rules
      if turbofish || (← get).atGroup .parens then callList rules

/-- What follows a point. -/
def behindPoint : Reading Unit := do
  match (← get).rest with
  | .literal pos text :: _ =>
    match Literal.ofText text with
    | .float _ =>
      discard (written (take 1))
      if ← tupleIndices pos text then afterPoint rules
    | _ => afterPoint rules
  | _ => afterPoint rules

/-- A point and what follows it. -/
def pointTail : Reading Unit := do
  punct "."
  behindPoint rules

def tailsWithin : (limit : Nat) → Shape → Reading Shape
  | 0, shape => return shape
  | limit + 1, shape => do
    let c ← get
    if c.atGroup .parens then
      callList rules
      tailsWithin limit .plain
    else if c.atPunct "." && !c.atPunct ".." && shape != .range then
      pointTail rules
      tailsWithin limit .plain
    else if c.atGroup .brackets then
      discard (group .brackets (rules.expr true))
      tailsWithin limit .plain
    else if c.atPunct "?" && shape != .range then
      punct "?"
      tailsWithin limit .plain
    else return shape

/-- Calls, fields, indices and question marks behind an expression. -/
def tails (shape : Shape) : Reading Shape := do
  tailsWithin rules ((← get).rest.length + 1) shape

/-! ## Blocks -/

/-- A block that may start with attributes of its own. -/
def attributedBlock : Reading Unit :=
  group .braces do
    innerAttributes rules
    rules.statements

def ifClause : Reading Unit := do
  word "if"
  discard (rules.expr false)
  block rules

def elseWithin : (limit : Nat) → Reading Unit
  | 0 => return
  | limit + 1 => do
    if ← word? "else" then
      let c ← get
      if c.atWord "if" then
        ifClause rules
        elseWithin limit
      else if c.atGroup .braces then block rules
      else failExpected [shown "if", "curly braces"]

def ifExpr : Reading Unit := do
  ifClause rules
  elseWithin rules ((← get).rest.length + 1)

def whileExpr : Reading Unit := do
  word "while"
  discard (rules.expr false)
  attributedBlock rules

def forExpr : Reading Unit := do
  word "for"
  discard (alternatives rules)
  word "in"
  discard (rules.expr false)
  attributedBlock rules

def loopExpr : Reading Unit := do
  word "loop"
  attributedBlock rules

/-- A loop or block behind its label. -/
def labelled : Reading Unit := do
  lifetime
  punct ":"
  let c ← get
  if c.atWord "while" then whileExpr rules
  else if c.atWord "for" then forExpr rules
  else if c.atWord "loop" then loopExpr rules
  else if c.atGroup .braces then attributedBlock rules
  else fail "expected loop or block expression"

/-- A `for` in front of parameters between angles, as closures have it. -/
def startsBinder (c : Cursor) : Bool :=
  let inner := c.next.next
  let behind := inner.next
  c.atWord "for" && c.next.atPunct "<" &&
    (inner.atPunct ">" || inner.atPunct "#" || inner.atWord "const" ||
      ((inner.atLifetime || inner.atName) &&
        (behind.atAny [">", ",", "="] || (behind.atPunct ":" && !behind.atPunct "::"))))

/-! ## Matches and closures -/

def arm : Reading Unit := do
  discard (outerAttributes rules)
  discard (alternatives rules)
  if ← word? "if" then discard (rules.expr true)
  punct "=>"
  let shape ← rules.early
  if shape != .block && !(← get).atEnd then punct "," else discard (punct? ",")

def matchExpr : Reading Unit := do
  word "match"
  discard (rules.expr false)
  group .braces do
    innerAttributes rules
    discard (repeatWhile (fun c => !c.atEnd) (arm rules))

def closureParameter : Reading Unit := do
  discard (outerAttributes rules)
  discard rules.pattern
  if ← punct? ":" then discard (rules.type true)

def closure (struct : Bool) : Reading Unit := do
  if (← get).atWord "for" then binder rules
  discard (word? "const")
  discard (word? "static")
  discard (word? "async")
  discard (word? "move")
  punct "|"
  discard (separated (fun c => c.atPunct "|") (punct ",") (closureParameter rules))
  punct "|"
  if ← punct? "->" then
    discard (rules.type true)
    block rules
  else discard (rules.expr struct)

/-! ## Paths, structs, tuples and arrays -/

def fieldValue : Reading Unit := do
  discard (outerAttributes rules)
  let named ← member
  if (← get).atPunct ":" || !named then
    punct ":"
    discard (rules.expr true)

def structFieldsWithin : (limit : Nat) → Reading Unit
  | 0 => return
  | limit + 1 => do
    let c ← get
    if c.atEnd then return
    if c.atPunct ".." then
      punct ".."
      if !(← get).atEnd then discard (rules.expr true)
    else
      fieldValue rules
      if !(← get).atEnd then
        punct ","
        structFieldsWithin limit

def structFields : Reading Unit :=
  group .braces do
    structFieldsWithin rules ((← get).rest.length + 1)

def pathExpr (struct : Bool) : Reading Shape := do
  let p ← qualifiedPath rules true
  let c ← get
  if c.atPunct "!" && !c.atPunct "!=" && (p.map PathShape.isPlain).getD false then
    punct "!"
    return .call (← macroBrackets)
  else if struct && c.atGroup .braces then
    structFields rules
    return .plain
  else return .plain

def tupleExpr : Reading Unit := discard (group .parens (commaList (rules.expr true)))

def arrayExpr : Reading Unit :=
  group .brackets do
    if !(← get).atEnd then
      discard (rules.expr true)
      let c ← get
      if c.atPunct "," then
        punct ","
        discard (commaList (rules.expr true))
      else if c.atPunct ";" then
        punct ";"
        discard (rules.expr true)
      else if !c.atEnd then failAt c.pos "expected `,` or `;`"

/-! ## Jumps and bindings -/

def breakExpr (struct : Bool) : Reading Unit := do
  word "break"
  let c ← get
  if c.atLifetime && c.next.atPunct ":" then
    discard (rules.expr true)
    failAt c.pos "parentheses required"
  if c.atLifetime then lifetime
  let c ← get
  if startsExpr c && (struct || !c.atGroup .braces) then discard (rules.expr true)

/-- A word with an expression behind it, if one starts there. -/
def jumpExpr (keyword : String) : Reading Unit := do
  word keyword
  if startsExpr (← get) then discard (rules.expr true)

def letExpr (struct : Bool) : Reading Unit := do
  word "let"
  discard (alternatives rules)
  punct "="
  let shape ← rules.unary struct
  discard (rules.climb struct .compare shape)

/-! ## Simple expressions -/

def startsAsyncBlock (c : Cursor) : Bool :=
  c.atWord "async" && (c.next.atGroup .braces ||
    (c.next.atWord "move" && c.next.next.atGroup .braces))

def startsClosure (c : Cursor) : Bool :=
  c.atPunct "|" || c.atWord "move" || startsBinder c ||
  (c.atWord "const" && !c.next.atGroup .braces) || c.atWord "static" ||
  (c.atWord "async" && (c.next.atPunct "|" || c.next.atWord "move"))

def startsPathExpr (c : Cursor) : Bool :=
  startsSegment c || c.atPunct "::" || c.atPunct "<" ||
  (c.atWord "try" && (c.next.atPunct "!" || c.next.atPunct "::"))

/-- A literal, with its text if it stands for text. -/
def literalExpr (l : Literal) (rest : List Token) : Reading Shape := do
  let c ← get
  take (c.rest.length - rest.length)
  match l, c.rest with
  | .text _, .literal _ text :: _ => return .text text
  | _, _ => return .plain

/-- The read of a form that ends with a block. -/
def blocky (r : Reading Unit) : Reading Shape := do
  r
  return .block

/-- The read of any other form. -/
def plainly (r : Reading Unit) : Reading Shape := do
  r
  return .plain

def asyncBlock : Reading Unit := do
  word "async"
  discard (word? "move")
  block rules

/-- A word with a block behind it. -/
def wordBlock (keyword : String) (content : Reading Unit) : Reading Shape := blocky do
  word keyword
  content

def builtin : Reading Unit := do
  word "builtin"
  punct "#"
  discard name
  group .parens anything

/-- An expression without operators and without anything behind it. -/
def atom (struct : Bool) : Reading Shape := do
  let c ← get
  match c.literal? with
  | some (l, rest) => literalExpr l rest
  | none =>
    if startsAsyncBlock c then plainly (asyncBlock rules)
    else if c.atWord "try" && c.next.atGroup .braces then wordBlock "try" (block rules)
    else if startsClosure c then plainly (closure rules struct)
    else if c.atWord "builtin" && c.next.atPunct "#" then plainly builtin
    else if startsPathExpr c then pathExpr rules struct
    else if c.atGroup .parens then plainly (tupleExpr rules)
    else if c.atWord "break" then plainly (breakExpr rules struct)
    else if c.atWord "continue" then plainly do
      word "continue"
      if (← get).atLifetime then lifetime
    else if c.atWord "return" then plainly (jumpExpr rules "return")
    else if c.atWord "become" then plainly do
      word "become"
      discard (rules.expr true)
    else if c.atGroup .brackets then plainly (arrayExpr rules)
    else if c.atWord "let" then plainly (letExpr rules struct)
    else if c.atWord "if" then blocky (ifExpr rules)
    else if c.atWord "while" then blocky (whileExpr rules)
    else if c.atWord "for" then blocky (forExpr rules)
    else if c.atWord "loop" then blocky (loopExpr rules)
    else if c.atWord "match" then blocky (matchExpr rules)
    else if c.atWord "yield" then plainly (jumpExpr rules "yield")
    else if c.atWord "unsafe" then wordBlock "unsafe" (attributedBlock rules)
    else if c.atWord "const" then wordBlock "const" (attributedBlock rules)
    else if c.atGroup .braces then blocky (attributedBlock rules)
    else if c.atPunct ".." then do
      rangeTail rules struct
      return .range
    else if c.atWord "_" then plainly (take 1)
    else if c.atLifetime then blocky (labelled rules)
    else fail "expected an expression"

/-- An expression without binary operators. -/
def unary (struct : Bool) : Reading Shape := do
  discard (outerAttributes rules)
  let c ← get
  if c.atPunct "&" then
    punct "&"
    let c ← get
    let raw := c.atWord "raw" && (c.next.atWord "mut" || c.next.atWord "const")
    if raw then take 1
    let mutable ← word? "mut"
    if raw && !mutable then word "const"
    discard (rules.unary struct)
    return .plain
  else if c.atPunct "*" || c.atPunct "!" || c.atPunct "-" then
    take 1
    discard (rules.unary struct)
    return .plain
  else
    let shape ← atom rules struct
    tails rules shape

/-- A block, loop or match starts here. -/
def startsBlock (c : Cursor) : Bool :=
  ["if", "while", "loop", "match", "unsafe"].any c.atWord || c.atGroup .braces || c.atLifetime ||
  (c.atWord "for" && !startsBinder c) || (c.atWord "try" && c.next.atGroup .braces) ||
  (c.atWord "const" && c.next.atGroup .braces)

/-- An expression at the start of a statement or of the body of a match arm: one that ends with a
block goes on only with a point or a question mark. -/
def early : Reading Shape := do
  discard (outerAttributes rules)
  let shape ← if startsBlock (← get) then atom rules true else rules.unary true
  let c ← get
  if shape != .block then rules.climb true .jump shape
  else if (c.atPunct "." && !c.atPunct "..") || c.atPunct "?" then
    let shape ← tails rules shape
    rules.climb true .jump shape
  else return shape

end FieldAtlas.Source.Grammar
