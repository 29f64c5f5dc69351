import FieldAtlas.Source.Grammar.Path

/-!
# Patterns

What stands for the parts of a value in bindings, closures and matches.
-/

namespace FieldAtlas.Source.Grammar

open Reading

variable (rules : Rules)

/-- A bar between alternatives comes next. -/
def atBar (c : Cursor) : Bool := c.atPunct "|" && !c.atPunct "||" && !c.atPunct "|="

/-- A pattern, perhaps with alternatives, and perhaps with a bar in front. -/
def alternatives : Reading Shape := do
  let leading ← punct? "|"
  let first ← rules.pattern
  let more ← repeatWhile atBar do
    punct "|"
    rules.pattern
  return if leading || !more.isEmpty then .plain else first

/-- The dots of a range, of any kind. -/
def anyDots : Reading Bool := do
  if ← punct? "..=" then return true
  if ← punct? "..." then return true
  punct ".."
  return false

/-- Two dots, perhaps with an equals sign, and whether there is one. -/
def dots : Reading Bool := do
  if ← punct? "..=" then return true
  let c ← get
  if c.atPunct ".." && !c.atPunct "..." then
    punct ".."
    return false
  else if c.atPunct ".." then failExpected [shown "..", shown "..="]
  else failExpected [shown ".."]

/-- Nothing can be the end of a range here. -/
def noRangeEnd (c : Cursor) : Bool :=
  c.atEnd || c.atPunct "|" || c.atPunct "=" || (c.atPunct ":" && !c.atPunct "::") ||
  c.atPunct "," || c.atPunct ";" || c.atWord "if"

/-- One side of a range, and whether it is there. -/
def rangeSide : Reading Bool := do
  let c ← get
  if noRangeEnd c then return false
  match c.literal? with
  | some (_, rest) => take (c.rest.length - rest.length)
  | none =>
    if startsSegment c || c.atPunct "::" || c.atPunct "<" then discard (qualifiedPath rules true)
    else if c.atWord "const" then
      word "const"
      group .braces do
        innerAttributes rules
        rules.statements
    else failExpected ["literal", "identifier", shown "::", shown "<", shown "self", shown "Self",
      shown "super", shown "crate", shown "const"]
  return true

/-- A range behind its lower side. -/
def rangeRest : Reading Shape := do
  let pos := (← get).pos
  let closed ← anyDots
  if ← rangeSide rules then return .plain
  else if closed then fail "expected range upper bound"
  else return .openRange pos

/-- A range without a lower side, or the pattern for all that is left. -/
def rangeOrRest : Reading Shape := do
  let pos := (← get).pos
  let closed ← dots
  if ← rangeSide rules then return .openRange pos
  else if closed then fail "expected range upper bound"
  else return .rest

def literalPattern : Reading Shape := do
  discard (rangeSide rules)
  if (← get).atPunct ".." then rangeRest rules else return .plain

def bindingPattern : Reading Shape := do
  discard (word? "ref")
  discard (word? "mut")
  if (← get).atWord "self" then take 1 else discard name
  if ← punct? "@" then discard rules.pattern
  return .plain

/-- A field by name or by number, and whether it has a name. -/
def member : Reading Bool := do
  let c ← get
  if c.atName then
    discard name
    return true
  else
    match c.literal? with
    | some (.int .., rest) =>
      take (c.rest.length - rest.length)
      return false
    | _ => failExpected ["identifier or integer"]

def fieldPattern : Reading Unit := do
  let boxed ← word? "box"
  let byRef ← word? "ref"
  let mutable ← word? "mut"
  if boxed || byRef || mutable then discard name
  else
    let named ← member
    if (← get).atPunct ":" || !named then
      punct ":"
      discard (alternatives rules)

def structPattern : Reading Unit :=
  discard (group .braces (separated (fun c => c.atEnd) (punct ",") do
    discard (outerAttributes rules)
    if (← get).atPunct ".." then punct ".." else fieldPattern rules))

def pathPattern : Reading Shape := do
  let p ← qualifiedPath rules true
  let c ← get
  if c.atPunct "!" && !c.atPunct "!=" && (p.map PathShape.isPlain).getD false then
    punct "!"
    discard macroBrackets
    return .plain
  else if c.atGroup .braces then
    structPattern rules
    return .plain
  else if c.atGroup .parens then
    discard (group .parens (commaList (alternatives rules)))
    return .plain
  else if c.atPunct ".." then rangeRest rules
  else return .plain

/-- A range with a side left out has to be in parentheses here. -/
def sliceItem : Reading Unit := do
  match ← alternatives rules with
  | .openRange pos =>
    failAt pos "range pattern is not allowed unparenthesized inside slice pattern"
  | _ => return

/-- All that a pattern may start with. -/
def patternStarts : List String := [
  "identifier", shown "::", shown "<", shown "_", "literal", shown "const", shown "ref",
  shown "mut", shown "&", "parentheses", "square brackets", shown "..", shown "const"]

/-- A name that a path goes on from or that names a macro or constructor. -/
def startsPathPattern (c : Cursor) : Bool :=
  (c.atName && (c.next.atPunct "::" || c.next.atPunct "!" || c.next.atGroup .braces ||
    c.next.atGroup .parens || c.next.atPunct "..")) ||
  (c.atWord "self" && c.next.atPunct "::") || c.atPunct "::" || c.atPunct "<" ||
  ["Self", "super", "crate"].any c.atWord

/-- A pattern without alternatives. -/
def pattern : Reading Shape := do
  let c ← get
  if startsPathPattern c then pathPattern rules
  else if c.atWord "_" then
    take 1
    return .plain
  else if c.atWord "box" then
    take 1
    discard rules.pattern
    return .plain
  else if c.atPunct "-" || c.atLiteral || c.atWord "const" then literalPattern rules
  else if ["ref", "mut", "self"].any c.atWord || c.atName then bindingPattern rules
  else if c.atPunct "&" then
    punct "&"
    discard (word? "mut")
    discard rules.pattern
    return .plain
  else if c.atGroup .parens then
    discard (group .parens (commaList (alternatives rules)))
    return .plain
  else if c.atGroup .brackets then
    discard (group .brackets (commaList (sliceItem rules)))
    return .plain
  else if c.atPunct ".." && !c.atPunct "..." then rangeOrRest rules
  else failExpected patternStarts

end FieldAtlas.Source.Grammar
