import FieldAtlas.Source.Grammar.Path

/-!
# Types

Types, their bounds, the parameters of generic items and the conditions on them.
-/

namespace FieldAtlas.Source.Grammar

open Reading

variable (rules : Rules)

/-! ## Parameters -/

def lifetimeParameter : Reading Unit := do
  lifetime
  if ← punct? ":" then discard (sum (fun c => c.atEnd || c.atAny [",", ">"]) lifetime)

def typeParameter : Reading Unit := do
  discard name
  if ← punct? ":" then
    discard (sum (fun c => c.atEnd || c.atAny [",", ">", "="]) (rules.bound false))
  if ← punct? "=" then discard (rules.type true)

def constParameter : Reading Unit := do
  word "const"
  discard name
  punct ":"
  discard (rules.type true)
  if ← punct? "=" then constant rules

def parameter : Reading Unit := do
  discard (outerAttributes rules)
  let c ← get
  if c.atLifetime then lifetimeParameter
  else if c.atName then typeParameter rules
  else if c.atWord "const" then constParameter rules
  else if c.atWord "_" then take 1
  else failExpected ["lifetime", "identifier", shown "const"]

/-- Parameters between angles, and how many there are. -/
def parameters : Reading Nat := do
  if ← punct? "<" then
    let ps ← separated (fun c => c.atPunct ">") (punct ",") (parameter rules)
    punct ">"
    return ps.length
  else return 0

/-- Lifetimes that a bound introduces. -/
def binder : Reading Unit := do
  word "for"
  punct "<"
  discard (separated (fun c => c.atPunct ">") (punct ",") (parameter rules))
  punct ">"

/-! ## Conditions -/

def endsCondition (c : Cursor) : Bool :=
  c.atEnd || c.atGroup .braces || c.atAny [",", ";", "="] || (c.atPunct ":" && !c.atPunct "::")

def condition : Reading Unit := do
  let c ← get
  if c.atLifetime && c.next.atPunct ":" then
    lifetime
    punct ":"
    discard (sum endsCondition lifetime)
  else
    if c.atWord "for" then binder rules
    discard (rules.type true)
    punct ":"
    discard (sum endsCondition (rules.bound false))

def conditionsWithin : (limit : Nat) → Reading Unit
  | 0 => return
  | limit + 1 => do
    if !endsCondition (← get) then
      condition rules
      if ← punct? "," then conditionsWithin limit

/-- Conditions on the parameters, if there are any, and whether there are. -/
def conditions : Reading Bool := do
  if ← word? "where" then
    conditionsWithin rules ((← get).rest.length + 1)
    return true
  else return false

/-! ## Bounds -/

/-- A trait as a bound. -/
def traitBound : Reading Unit := do
  if (← get).atWord "for" then binder rules
  if ← punct? "~" then word "const"
  discard (punct? "?")
  if (← get).atWord "for" then binder rules
  let p ← path rules false
  let c ← get
  if !p.endsWithArguments &&
      (c.atGroup .parens || (c.atPunct "::" && c.next.next.atGroup .parens)) then
    if c.atPunct "::" then discard (written (punct "::"))
    callArguments rules

/-- A lifetime, what a type captures, or a trait, which may stand in parentheses. -/
def bound (capturing : Bool) : Reading Bool := do
  let c ← get
  if c.atLifetime then
    lifetime
    return false
  else if c.atWord "use" then
    if !capturing then failAt c.pos "`use<...>` precise capturing syntax is not allowed here"
    word "use"
    punct "<"
    discard (separated (fun c => c.atPunct ">") (punct ",") do
      if (← get).atLifetime then lifetime else discard anyWord)
    punct ">"
    return false
  else if c.atGroup .parens then
    group .parens (traitBound rules)
    return true
  else
    traitBound rules
    return true

/-- A token that a bound may start with. -/
def startsBound (c : Cursor) : Bool :=
  c.atAnyWord || c.atPunct "::" || c.atPunct "?" || c.atLifetime || c.atGroup .parens

/-- Bounds behind a `+`. -/
def moreBounds (capturing : Bool) : Reading (List Bool) := do
  if ← punct? "+" then sum (fun c => !startsBound c) (rules.bound capturing)
  else return []

/-- One bound, or several if `plus` allows it. One of them has to be a trait. -/
def bounds (plus capturing : Bool) (message : String) : Reading (List Bool) := do
  let pos := (← get).pos
  let first ← rules.bound capturing
  let more ← if plus then moreBounds rules capturing else pure []
  if (first :: more).any id then return first :: more else failAt pos message

def dynBounds (plus : Bool) : Reading Shape := do
  match ← bounds rules plus false "at least one trait is required for an object type" with
  | [_] => return .bound
  | _ => return .plain

/-! ## Types -/

/-- The type in front of `...` or the parameter of a function type. -/
def functionParameter : Reading Unit := do
  discard (outerAttributes rules)
  discard (word? "mut")
  let c ← get
  if (c.atName || c.atWord "_" || c.atWord "self") && c.next.atPunct ":" && !c.next.atPunct "::"
  then
    take 1
    punct ":"
  let c ← get
  if c.atPunct "..." then punct "..."
  else if c.atWord "self" && !c.next.atPunct "::" then take 1
  else discard (rules.type true)

/-- The name of a convention for calls, if there is one. -/
def convention : Reading Unit := do
  match (← get).rest with
  | .literal .. :: _ => take 1
  | _ => return

/-- The type of functions. -/
def functionType : Reading Unit := do
  discard (word? "unsafe")
  if ← word? "extern" then convention
  word "fn"
  discard (group .parens (commaList (functionParameter rules)))
  result rules false

/-- What stands between the parentheses of a type. -/
inductive Bracketed where
  | tuple
  | bounds (count : Nat)
  | one (shape : Shape)

def bracketedContent : Reading Bracketed := do
  let c ← get
  if c.atEnd then return .tuple
  else if c.atLifetime then
    discard (dynBounds rules true)
    return .one .plain
  else if c.atPunct "?" then
    traitBound rules
    return .bounds 1
  else
    let shape ← rules.type true
    if (← get).atPunct "," then
      punct ","
      discard (commaList (rules.type true))
      return .tuple
    else return .one shape

/-- A type in parentheses, a tuple, or a bound in parentheses with others behind it. -/
def bracketedType (plus : Bool) : Reading Shape := do
  match ← group .parens (bracketedContent rules) with
  | .tuple => return .plain
  | .bounds _ =>
    discard (repeatWhile (fun c => c.atPunct "+") do
      punct "+"
      rules.bound false)
    return .plain
  | .one shape =>
    if plus && (← get).atPunct "+" && [.name, .path, .bound].contains shape then
      discard (repeatWhile (fun c => c.atPunct "+") do
        punct "+"
        rules.bound false)
      return .plain
    else return .bracketed

/-- Arguments in parentheses behind the last name of a path. They may be followed by names if the
result is in parentheses or left out. -/
def callPathWithin : (limit : Nat) → (endsWithArguments : Bool) → Reading Bool
  | 0, _ => return false
  | limit + 1, endsWithArguments => do
    let c ← get
    if !endsWithArguments &&
        (c.atGroup .parens || (c.atPunct "::" && c.next.next.atGroup .parens)) then
      if c.atPunct "::" then discard (written (punct "::"))
      discard (group .parens (commaList (rules.type true)))
      let goesOn ←
        if ← punct? "->" then do
          let shape ← rules.type false
          pure (shape == .bracketed)
        else pure true
      if goesOn then
        let more ← moreSegments rules false
        let full := more.isEmpty || (more.getLast?.map (·.arguments)).getD false
        discard (callPathWithin limit full)
      return true
    else return false

/-- A type that is a path, the call of a macro, or a bound that stands for a type. -/
def pathType (plus bindered : Bool) : Reading Shape := do
  match ← qualifiedPath rules false with
  | none =>
    discard (callPathWithin rules ((← get).rest.length + 1) false)
    return .plain
  | some p =>
    let called ← callPathWithin rules ((← get).rest.length + 1) p.endsWithArguments
    let c ← get
    if c.atPunct "!" && !c.atPunct "!=" && p.isPlain && !called then
      punct "!"
      discard macroBrackets
      return .plain
    else if bindered || (plus && c.atPunct "+") then
      let more ← if plus then moreBounds rules false else pure []
      return if more.isEmpty && !c.atPunct "+" then .bound else .plain
    else if !p.leading && p.segments.length = 1 && !called then return .name
    else return .path

def pointerType : Reading Unit := do
  punct "*"
  if !(← word? "const") then
    if !(← word? "mut") then failExpected [shown "const", shown "mut"]
  discard (rules.type false)

def referenceType : Reading Unit := do
  punct "&"
  if (← get).atLifetime then lifetime
  discard (word? "mut")
  discard (rules.type false)

def arrayType : Reading Unit := do
  group .brackets do
    discard (rules.type true)
    if ← punct? ";" then discard (rules.expr true)

/-- All that a type may start with. -/
def typeStarts : List String := [
  shown "for", "parentheses", shown "fn", shown "unsafe", shown "extern", "identifier", shown "::",
  shown "<", shown "dyn", "square brackets", shown "*", shown "&", shown "!", shown "impl",
  shown "_", "lifetime"]

def startsPathType (c : Cursor) : Bool := startsSegment c || c.atPunct "::" || c.atPunct "<"

/-- A type. -/
def type (plus : Bool) : Reading Shape := do
  let bindered := (← get).atWord "for"
  if bindered then
    binder rules
    let c ← get
    if !(startsSegment c || ["fn", "unsafe", "extern"].any c.atWord) || c.atWord "dyn" then
      failExpected ["identifier", shown "fn", shown "unsafe", shown "extern", shown "super",
        shown "self", shown "Self", shown "crate"]
  let c ← get
  if c.atGroup .parens then bracketedType rules plus
  else if ["fn", "unsafe", "extern"].any c.atWord then
    functionType rules
    return .plain
  else if startsPathType c then pathType rules plus bindered
  else if c.atWord "dyn" then
    word "dyn"
    discard (punct? "*")
    discard (dynBounds rules plus)
    return .plain
  else if c.atGroup .brackets then
    arrayType rules
    return .plain
  else if c.atPunct "*" then
    pointerType rules
    return .plain
  else if c.atPunct "&" then
    referenceType rules
    return .plain
  else if c.atPunct "!" && !c.atPunct "!=" then
    punct "!"
    return .plain
  else if c.atWord "impl" then
    word "impl"
    discard (bounds rules plus true "at least one trait must be specified")
    return .plain
  else if c.atWord "_" then
    take 1
    return .plain
  else if c.atLifetime then dynBounds rules true
  else failExpected typeStarts

end FieldAtlas.Source.Grammar
