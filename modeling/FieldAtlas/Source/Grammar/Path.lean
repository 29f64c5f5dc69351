import FieldAtlas.Source.Grammar.Rules

/-!
# Paths and attributes

Names with `::` between them and arguments between angles, and the attributes that start with such
names.
-/

namespace FieldAtlas.Source.Grammar

open Reading

/-! ## Plain paths -/

/-- A word that may stand in a plain path. -/
def startsSegment (c : Cursor) : Bool := c.atName || c.atPathKeyword

def plainSegments : (limit : Nat) → Reading (List (Pos × String))
  | 0 => return []
  | limit + 1 => do
    if startsSegment (← get) then
      let s ← anyWord
      if ← punct? "::" then
        if startsSegment (← get) then return s :: (← plainSegments limit)
        else fail "expected path segment after `::`"
      else return [s]
    else return []

/-- A path without arguments. -/
def plainPath : Reading NamePath := do
  let leading ← punct? "::"
  let segments ← plainSegments ((← get).rest.length + 1)
  if segments.isEmpty then return ⟨leading, [← name]⟩
  else return ⟨leading, segments⟩

/-! ## Arguments -/

/-- One argument between angles. -/
structure Argument where
  tokens : List Token
  lifetime : Bool
  /-- The comma behind it, if there is one. -/
  comma : List Token

/-- Arguments with the commas that they need once they have changed places. -/
def Argument.joined (comma : Token) : (separated : Bool) → List Argument → List Token
  | _, [] => []
  | separated, a :: as =>
    (if separated || a.lifetime then [] else [comma]) ++ a.tokens ++ a.comma ++
      joined comma (!a.comma.isEmpty) as

/-- The written form of arguments: lifetimes come first. -/
def Argument.arranged (pos : Pos) (as : List Argument) : List Token :=
  joined (.punct pos ',' false) true
    (as.filter (fun a => a.lifetime) ++ as.filter (fun a => !a.lifetime))

variable (rules : Rules)

/-- The content of a block in its braces. -/
def block : Reading Unit := group .braces rules.statements

/-- A constant between angles. -/
def constant : Reading Unit := do
  let c ← get
  match c.literal? with
  | some (_, rest) => take (c.rest.length - rest.length)
  | none =>
    if c.atName then discard name
    else if c.atGroup .braces then block rules
    else if c.atEnd then failAt c.pos "unexpected end of input"
    else failAt c.pos "unexpected token"

def startsConstant (c : Cursor) : Bool := c.atLiteral || c.atGroup .braces

/-- An argument between angles, and whether it is a lifetime. -/
def argument : Reading Bool := do
  let c ← get
  if c.atLifetime && !c.next.atPunct "+" then
    lifetime
    return true
  else if startsConstant c then
    constant rules
    return false
  else
    match ← rules.type true with
    | .name =>
      if ← punct? "=" then
        if startsConstant (← get) then constant rules else discard (rules.type true)
      else if ← punct? ":" then
        discard (sum (fun c => c.atAny [",", ">"]) (rules.bound false))
      return false
    | _ => return false

def argumentsWithin : (limit : Nat) → Reading (List Argument)
  | 0 => return []
  | limit + 1 => do
    if (← get).atPunct ">" then return []
    let (isLifetime, tokens) ← written (argument rules)
    if (← get).atPunct ">" then return [⟨tokens, isLifetime, []⟩]
    let (_, comma) ← written (punct ",")
    return ⟨tokens, isLifetime, comma⟩ :: (← argumentsWithin limit)

/-- Arguments between angles. -/
def arguments : Reading Unit := do
  punct "<"
  let c ← get
  let as ← argumentsWithin rules (c.rest.length + 1)
  writeAll (Argument.arranged c.pos as)
  punct ">"

/-- A result type, if there is one. -/
def result (plus : Bool) : Reading Unit := do
  if ← punct? "->" then discard (rules.type plus)

/-- Types in parentheses, and a result type. -/
def callArguments : Reading Unit := do
  discard (group .parens (commaList (rules.type true)))
  result rules false

/-! ## Paths with arguments -/

/-- A name in a path. -/
structure Segment where
  name : String
  /-- There are arguments behind it. -/
  arguments : Bool

/-- One name of a path. In an expression its arguments need a `::`. -/
def segment (inExpr : Bool) : Reading Segment := do
  let c ← get
  if ["super", "self", "crate", "try"].any c.atWord then
    let (_, w) ← anyWord
    return ⟨w, false⟩
  else
    let (_, w) ← if c.atWord "Self" then anyWord else name
    let c ← get
    if (!inExpr && c.atPunct "<" && !c.atPunct "<=") ||
        (c.atPunct "::" && c.next.next.atPunct "<") then
      discard (punct? "::")
      arguments rules
      return ⟨w, true⟩
    else return ⟨w, false⟩

/-- What is known of a path. -/
structure PathShape where
  leading : Bool
  /-- There is at least one. -/
  segments : List Segment

namespace PathShape

/-- No name has arguments. -/
def isPlain (p : PathShape) : Bool := p.segments.all (!·.arguments)

/-- The last name has arguments. -/
def endsWithArguments (p : PathShape) : Bool := (p.segments.getLast?.map (·.arguments)).getD false

/-- The names alone. -/
def names (p : PathShape) : List String := p.segments.map (·.name)

end PathShape

/-- The names behind the first. A `::` in front of parentheses is left. -/
def moreSegments (inExpr : Bool) : Reading (List Segment) :=
  repeatWhile (fun c => c.atPunct "::" && !c.next.next.atGroup .parens) do
    punct "::"
    segment rules inExpr

def path (inExpr : Bool) : Reading PathShape := do
  let leading ← punct? "::"
  let first ← segment rules inExpr
  return ⟨leading, first :: (← moreSegments rules inExpr)⟩

/-- A path, or a type between angles with names behind it. The shape is none for the latter. -/
def qualifiedPath (inExpr : Bool) : Reading (Option PathShape) := do
  if ← punct? "<" then
    discard (rules.type true)
    if ← word? "as" then discard (path rules false)
    punct ">"
    punct "::"
    discard (segment rules inExpr)
    discard (repeatWhile (fun c => c.atPunct "::") do
      punct "::"
      segment rules inExpr)
    return none
  else return some (← path rules inExpr)

/-- The brackets of a macro call, of any kind, and whether they are braces. -/
def macroBrackets : Reading Bool := do
  match (← get).rest with
  | .group d .. :: _ =>
    take 1
    return d = .braces
  | _ => failExpected ["delimiter"]

/-! ## Attributes -/

/-- The value of an attribute. -/
def metaValue : Reading Unit := do
  let c ← get
  match c.literal? with
  | some (_, []) => take c.rest.length
  | _ =>
    if c.atPunct "#" && c.next.atGroup .brackets then
      fail "unexpected attribute inside of attribute"
    else discard (rules.expr true)

/-- What stands behind the path of an attribute. -/
def metaBody (path : NamePath) : Reading Attribute := do
  let c ← get
  match c.rest with
  | .group _ _ content closed :: _ =>
    take 1
    return ⟨path, .list content closed⟩
  | _ =>
    if c.atPunct "=" then
      punct "="
      metaValue rules
      return ⟨path, .value c.pos⟩
    else return ⟨path, .bare⟩

/-- What stands between the brackets of an attribute. -/
def metaContent : Reading Attribute := do
  if (← get).atWord "unsafe" then metaBody rules ⟨false, [← anyWord]⟩
  else metaBody rules (← plainPath)

/-- An attribute of what follows it. -/
def outerAttribute : Reading Attribute := do
  punct "#"
  group .brackets (metaContent rules)

def outerAttributes : Reading (List Attribute) :=
  repeatWhile (fun c => c.atPunct "#") (outerAttribute rules)

/-- Attributes of what they stand in. -/
def innerAttributes : Reading Unit :=
  discard (repeatWhile (fun c => c.atPunct "#" && c.next.atPunct "!") do
    punct "#"
    punct "!"
    group .brackets (metaContent rules))

end FieldAtlas.Source.Grammar
