import FieldAtlas.Declaration.Basic
import FieldAtlas.Source.Grammar

/-!
# Helper attributes

A helper attribute holds items with commas between them. Each item starts with a path, which says
what it is about, and changes what is known so far.
-/

namespace FieldAtlas

open FieldAtlas.Source FieldAtlas.Source.Reading

namespace Helper

/-! ## Items -/

/-- The path at the start of an item, in which keywords are names too. -/
def itemPath : Reading NamePath := do
  let leading ← punct? "::"
  let c ← get
  if c.atAnyWord then
    let first ← anyWord
    let more ← repeatWhile (fun c => c.atPunct "::") do
      punct "::"
      anyWord
    return ⟨leading, first :: more⟩
  else if c.atEnd then fail "expected nested attribute"
  else if c.atLiteral then fail "unexpected literal in nested attribute, expected ident"
  else fail "unexpected token in nested attribute, expected ident"

/-- Items with commas between them, in at most `limit` rounds. -/
def itemsWithin {σ : Type} (item : NamePath → σ → Reading σ) : (limit : Nat) → σ → Reading σ
  | 0, s => return s
  | limit + 1, s => do
    let path ← itemPath
    let s ← item path s
    if (← get).atEnd then return s
    punct ","
    if (← get).atEnd then return s
    itemsWithin item limit s

/-- One item or more, with commas between them and perhaps behind them. -/
def items {σ : Type} (item : NamePath → σ → Reading σ) (s : σ) : Reading σ := do
  itemsWithin item ((← get).rest.length + 1) s

/-- Follows the items of an attribute, of which there may be none. -/
def follow {σ : Type} (kind : DeclaredKind) (item : NamePath → σ → Reading σ) (a : Attribute)
    (s : σ) : Except Fault σ :=
  match a.body with
  | .bare => throw (DeclarationProblem.fault (.bareHelper kind) a.path.pos)
  | .value equals => throw (DeclarationProblem.fault (.valuedHelper kind) equals)
  | .list content closed => if content.isEmpty then .ok s else runAll (items item s) content closed

/-- Follows the attributes that speak to a kind of class, in order. -/
def followAll {σ : Type} (kind : DeclaredKind) (item : NamePath → σ → Reading σ)
    (attributes : List Attribute) (s : σ) : Except Fault σ :=
  (attributes.filter fun a => a.path.isName kind.helper).foldlM (fun s a => follow kind item a s) s

/-- Gives up because of a problem at the start of an item. -/
def refuse {α : Type} (path : NamePath) (p : DeclarationProblem) : Reading α :=
  failAt path.pos p.message

/-! ## Values of items -/

def textValue : Reading String := do
  punct "="
  return (← textLiteral).2

def truthValue : Reading Bool := do
  punct "="
  literal "boolean literal" fun l =>
    match l with
    | .bool b => some b
    | _ => none

variable (rules : Grammar.Rules)

/-- A path, together with its names. -/
def pathValue : Reading (List String × List Token) := do
  punct "="
  let (p, tokens) ← written (Grammar.path rules false)
  return (p.names, tokens)

def defaultValue : Reading DefaultCode := do
  punct "="
  match ← written (rules.expr true) with
  | (.text literal, _) => return .text literal
  | (_, tokens) => return .code tokens

def forwardValue : Reading ForwardName := do
  punct "="
  let (written, name) ← textLiteral
  return ⟨written, name⟩

/-! ## Metadata -/

/-- The remark that a literal makes; `written` is its text. -/
def remark? (written : String) : Literal → Option Remark
  | .text s => some (.text written s)
  | .bool b => some (.bool b)
  | .int n _ => some (.int n)
  | .float d => some (.float d)
  | _ => none

/-- One entry of the metadata. -/
def remark (path : NamePath) (metadata : List (String × Remark)) :
    Reading (List (String × Remark)) := do
  match path.name? with
  | none => refuse path .metadataKey
  | some key =>
    punct "="
    let (value, tokens) ← written (literal "literal" some)
    match remark? (String.join (Token.textsOf tokens)) value with
    | some r => return metadata ++ [(unraw key, r)]
    | none => refuse path .metadataValue

/-! ## Fields and classes -/

/-- One item of an attribute of a field. -/
def fieldItem (kind : DeclaredKind) (path : NamePath) (f : DeclaredField) :
    Reading DeclaredField := do
  match path.name?, kind with
  | some "default", _ => return { f with default := some (← defaultValue rules) }
  | some "default_factory", _ =>
    let (names, tokens) ← pathValue rules
    return { f with factory := some ⟨"::".intercalate names, tokens⟩ }
  | some "repr", _ => return { f with repr := some (← truthValue) }
  | some "compare", _ => return { f with compare := some (← truthValue) }
  | some "init", _ => return { f with init := some (← truthValue) }
  | some "hash", _ => return { f with hash := some (← truthValue) }
  | some "kw_only", _ => return { f with kwOnly := true }
  | some "forward", _ => return { f with forward := some (← forwardValue) }
  | some "metadata", _ => return { f with metadata := ← group .parens (items remark f.metadata) }
  | some "rename", .compact => return { f with rename := some (← textValue) }
  | _, _ => refuse path (.unknownFieldKey kind)

/-- One item of an attribute of a class. -/
def classItem (kind : DeclaredKind) (path : NamePath) (o : ClassOptions) :
    Reading ClassOptions := do
  match path.name?, kind with
  | some "extends", _ =>
    let (_, tokens) ← pathValue rules
    return { o with bases := o.bases ++ [tokens] }
  | some "name", _ => return { o with name := some (← textValue) }
  | some "description", _ => return { o with description := some (← textValue) }
  | some "input", _ => return { o with input := true }
  | some "interface", _ => return { o with interface := true }
  | some "kw_only", .compact => return { o with kwOnly := true }
  | some "frozen", .compact => return { o with frozen := true }
  | some "object", .compact => return { o with object := true }
  | _, _ => refuse path (.unknownKey kind)

end Helper

end FieldAtlas
