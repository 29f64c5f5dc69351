import FieldAtlas.Source.Grammar.Expression

/-!
# Statements and items

The content of blocks, and the items that may stand there or on their own.
-/

namespace FieldAtlas.Source

/-- A named field as it stands in an item. -/
structure FieldItem where
  attributes : List Attribute
  pos : Pos
  name : String
  type : List Token

/-- What an item has between its brackets. -/
inductive ItemBody where
  | fields (fs : List FieldItem)
  | tuple
  | unit
  | enum
  | union

/-- The definition of a type. -/
structure Item where
  attributes : List Attribute
  pos : Pos
  name : String
  /-- How many parameters there are. -/
  parameters : Nat
  body : ItemBody

namespace Grammar

open Reading

variable (rules : Rules)

/-! ## Visibility and fields -/

/-- Where a restricted item is visible, in parentheses. -/
def visibleIn : Reading Unit := do
  let c ← get
  if ["crate", "self", "super"].any c.atWord then
    take 1
    if !(← get).atEnd then fail "unexpected token"
  else
    word "in"
    discard plainPath

/-- Parentheses that say nothing about visibility are left. -/
def visibility : Reading Unit := do
  if ← word? "pub" then discard (attempt (group .parens visibleIn))

def fieldItem : Reading FieldItem := do
  let attributes ← outerAttributes rules
  visibility
  let (pos, name) ← if (← get).atWord "_" then anyWord else name
  punct ":"
  let (_, type) ← written (rules.type true)
  return ⟨attributes, pos, name, type⟩

def fieldItems : Reading (List FieldItem) := group .braces (commaList (fieldItem rules))

def tupleItems : Reading Unit :=
  discard (group .parens (commaList do
    discard (outerAttributes rules)
    visibility
    rules.type true))

def variant : Reading Unit := do
  discard (outerAttributes rules)
  visibility
  discard name
  let c ← get
  if c.atGroup .braces then discard (fieldItems rules)
  else if c.atGroup .parens then tupleItems rules
  if ← punct? "=" then discard (rules.expr true)

/-! ## Definitions of types -/

def structBody : Reading ItemBody := do
  let conditioned ← conditions rules
  let c ← get
  if !conditioned && c.atGroup .parens then
    tupleItems rules
    discard (conditions rules)
    punct ";"
    return .tuple
  else if c.atGroup .braces then return .fields (← fieldItems rules)
  else if c.atPunct ";" then
    punct ";"
    return .unit
  else failExpected ["curly braces", shown ";"]

def enumBody : Reading ItemBody := do
  discard (conditions rules)
  discard (group .braces (commaList (variant rules)))
  return .enum

def unionBody : Reading ItemBody := do
  discard (conditions rules)
  discard (fieldItems rules)
  return .union

/-- The kind of definition that a keyword starts. -/
def bodyOf? (c : Cursor) : Option (Reading ItemBody) :=
  if c.atWord "struct" then some (structBody rules)
  else if c.atWord "enum" then some (enumBody rules)
  else if c.atWord "union" then some (unionBody rules)
  else none

/-- A definition behind its attributes and its visibility. -/
def definition (attributes : List Attribute) : Reading Item := do
  match bodyOf? rules (← get) with
  | some body =>
    take 1
    let (pos, name) ← name
    let count ← parameters rules
    return ⟨attributes, pos, name, count, ← body⟩
  | none => failExpected [shown "struct", shown "enum", shown "union"]

/-- The definition of a type. -/
def item : Reading Item := do
  let attributes ← outerAttributes rules
  visibility
  definition rules attributes

/-! ## Other items -/

/-- A parameter of a function: `self` in one of its forms, or a pattern with its type. -/
def parameterItem : Reading Unit := do
  discard (outerAttributes rules)
  let c ← get
  let behindMark := if c.atPunct "&" then
    (if c.next.atLifetime then c.next.next else c.next) else c
  let behindMut := if behindMark.atWord "mut" then behindMark.next else behindMark
  if behindMut.atWord "self" && !behindMut.next.atPunct "::" then
    take (c.rest.length - behindMut.next.rest.length)
    if ← punct? ":" then discard (rules.type true)
  else
    discard rules.pattern
    punct ":"
    discard (rules.type true)

def functionItem : Reading Unit := do
  discard (word? "const")
  discard (word? "async")
  discard (word? "unsafe")
  if ← word? "extern" then convention
  word "fn"
  discard name
  discard (parameters rules)
  discard (group .parens (commaList (parameterItem rules)))
  result rules true
  discard (conditions rules)
  attributedBlock rules

def constItem (keyword : String) : Reading Unit := do
  word keyword
  discard (word? "mut")
  if (← get).atWord "_" then take 1 else discard name
  punct ":"
  discard (rules.type true)
  punct "="
  discard (rules.expr true)
  punct ";"

def aliasItem : Reading Unit := do
  word "type"
  discard name
  discard (parameters rules)
  discard (conditions rules)
  punct "="
  discard (rules.type true)
  discard (conditions rules)
  punct ";"

/-- Names to bring in, with stars, lists and other names for them. -/
def useTree : (limit : Nat) → Reading Unit
  | 0 => return
  | limit + 1 => do
    let c ← get
    if c.atPunct "*" then punct "*"
    else if c.atGroup .braces then
      discard (group .braces (commaList do
        discard (punct? "::")
        useTree limit))
    else
      discard anyWord
      if ← punct? "::" then useTree limit
      else if ← word? "as" then discard anyWord

def useItem : Reading Unit := do
  word "use"
  discard (punct? "::")
  useTree (Token.sizeOf (← get).rest + 1)
  punct ";"

/-- A constant, apart from the start of a function or of a closure. -/
def startsConst (c : Cursor) : Bool :=
  c.atWord "const" && (c.next.atName || c.next.atWord "_") && c.next.next.atPunct ":"

def startsStatic (c : Cursor) : Bool :=
  c.atWord "static" && (c.next.atWord "mut" || c.next.atName)

def startsFunction (c : Cursor) : Bool :=
  c.atWord "fn" || (c.atWord "const" && ["fn", "async", "unsafe", "extern"].any c.next.atWord) ||
  (c.atWord "unsafe" && !c.next.atGroup .braces) ||
  (c.atWord "async" && ["fn", "unsafe", "extern"].any c.next.atWord) || c.atWord "extern"

def startsDefinition (c : Cursor) : Bool :=
  c.atWord "struct" || c.atWord "enum" || (c.atWord "union" && c.next.atName)

/-- The item that starts behind a visibility. -/
def itemOf? (c : Cursor) : Option (Reading Unit) :=
  if startsDefinition c then some (discard (definition rules []))
  else if startsConst c then some (constItem rules "const")
  else if startsStatic c then some (constItem rules "static")
  else if startsFunction c then some (functionItem rules)
  else if c.atWord "type" then some (aliasItem rules)
  else if c.atWord "use" then some useItem
  else none

/-! ## Statements -/

def endsWithBrace (ts : List Token) : Bool :=
  match ts.getLast? with
  | some (.group .braces ..) => true
  | _ => false

/-- The value of a binding, and what is done if it does not fit. -/
def bindingValue : Reading Unit := do
  let (_, tokens) ← written (rules.expr true)
  writeAll tokens
  if !endsWithBrace tokens then
    if ← word? "else" then block rules

def letStatement : Reading Unit := do
  word "let"
  discard rules.pattern
  if ← punct? ":" then discard (rules.type true)
  if ← punct? "=" then bindingValue rules
  punct ";"

/-- The path of a macro call that is a statement by itself, and whether the call names something. -/
def macroStart : Reading Bool := do
  discard plainPath
  let c ← get
  let behind := c.next.next
  if !c.atPunct "!" then failExpected ["macro call"]
  else if c.next.atName || c.next.atWord "try" then return true
  else if c.next.atGroup .braces && !((behind.atPunct "." && !behind.atPunct "..") ||
      behind.atPunct "?") then return false
  else failExpected ["macro call"]

/-- A macro call as a statement. -/
def macroStatement (named : Bool) : Reading Unit := do
  punct "!"
  if named then discard anyWord
  let braces ← macroBrackets
  if braces then discard (punct? ";")
  else punct ";"

/-- The visibility of an item, and how the item goes on. -/
def itemStart : Reading (Reading Unit) := do
  visibility
  match itemOf? rules (← get) with
  | some item => return item
  | none => failExpected ["item"]

/-- A statement, and whether another one may follow it as it is. -/
def statement : Reading Bool := do
  discard (outerAttributes rules)
  match ← attempt macroStart with
  | some named =>
    macroStatement named
    return true
  | none =>
    if (← get).atWord "let" then
      letStatement rules
      return true
    else
      match ← attempt (itemStart rules) with
      | some item =>
        item
        return true
      | none =>
        let shape ← rules.early
        if ← punct? ";" then return true
        match shape with
        | .block => return true
        | .call braces => return braces
        | _ => return false

def statementsWithin : (limit : Nat) → Reading Unit
  | 0 => return
  | limit + 1 => do
    discard (repeatWhile (fun c => c.atPunct ";") (punct ";"))
    if !(← get).atEnd then
      let complete ← statement rules
      if !(← get).atEnd then
        if !complete then fail "unexpected token, expected `;`"
        statementsWithin limit

/-- The content of a block. -/
def statements : Reading Unit := do
  statementsWithin rules ((← get).rest.length + 1)

end Grammar

end FieldAtlas.Source
