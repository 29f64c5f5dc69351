import FieldAtlas.Declaration.Attribute
import FieldAtlas.Source.Lexer

/-!
# Reading declarations

From the definition of a type to what it declares. The first thing that is wrong is reported, in
the order in which the parts are looked at: parameters, attributes of the class, the form of the
definition, each field, and last the order of the fields.
-/

namespace FieldAtlas

open FieldAtlas.Source

namespace DeclaredField

/-- What a field declares. It cannot have a default and a factory. -/
def ofItem (rules : Grammar.Rules) (kind : DeclaredKind) (i : FieldItem) :
    Except Fault DeclaredField := do
  let f ← Helper.followAll kind (Helper.fieldItem rules kind) i.attributes
    (.plain i.pos i.name i.type)
  if f.default.isSome && f.factory.isSome then
    throw (DeclarationProblem.fault (.defaultAndFactory f.name) f.pos)
  return f

end DeclaredField

namespace DeclaredClass

/-- The field is given by position. -/
def isPositional (c : DeclaredClass) (f : DeclaredField) : Bool :=
  !(f.kwOnly || c.options.kwOnly) && f.inConstructor c.kind

/-- The first required field after one with a default. -/
def misplaced? (seenDefault : Bool) : List DeclaredField → Option DeclaredField
  | [] => none
  | f :: fs =>
    if f.hasDefault then misplaced? true fs
    else if seenDefault then some f
    else misplaced? seenDefault fs

/-- A required field given by position may not follow one with a default. -/
def checkOrder (c : DeclaredClass) : Except Fault Unit :=
  match misplaced? false (c.fields.filter c.isPositional) with
  | some f => throw (DeclarationProblem.fault (.requiredAfterDefault f.name) f.pos)
  | none => .ok ()

/-- What a class says about its object needs an object, which records always have. -/
def checkObject (kind : DeclaredKind) (pos : Pos) (o : ClassOptions) : Except Fault Unit :=
  if kind == .compact && !o.object && o.describesObject then
    throw (DeclarationProblem.fault .objectRequired pos)
  else .ok ()

/-- The named fields of a definition. -/
def fieldItems (kind : DeclaredKind) (i : Item) : Except Fault (List FieldItem) :=
  match i.body with
  | .fields fs => .ok fs
  | .tuple => throw (DeclarationProblem.fault (.unnamedFields kind) i.pos)
  | .unit => throw (DeclarationProblem.fault (.unnamedFields kind) i.pos)
  | .enum => throw (DeclarationProblem.fault (.notAStruct kind) i.pos)
  | .union => throw (DeclarationProblem.fault (.notAStruct kind) i.pos)

/-- What the definition of a type declares. -/
def ofItem (rules : Grammar.Rules) (kind : DeclaredKind) (i : Item) :
    Except Fault DeclaredClass := do
  if i.parameters ≠ 0 then throw (DeclarationProblem.fault (.generic kind) i.pos)
  let options ← Helper.followAll kind (Helper.classItem rules kind) i.attributes .plain
  checkObject kind i.pos options
  let fields ← (← fieldItems kind i).mapM (DeclaredField.ofItem rules kind)
  let c : DeclaredClass := ⟨kind, i.pos, i.name, options, fields⟩
  c.checkOrder
  return c

end DeclaredClass

/-- Why a text declares no class. -/
inductive DeclarationError where
  /-- The text is not the definition of a type. -/
  | notAnItem
  | refused (f : Fault)
  deriving DecidableEq

/-- What a text declares. -/
def DeclaredClass.ofText (kind : DeclaredKind) (source : String) :
    Except DeclarationError DeclaredClass :=
  match Token.ofText? source with
  | none => .error .notAnItem
  | some tokens =>
    let rules := Grammar.Rules.for (Token.sizeOf tokens)
    match Reading.runAll (Grammar.item rules) tokens .start with
    | .error _ => .error .notAnItem
    | .ok i => (DeclaredClass.ofItem rules kind i).mapError .refused

end FieldAtlas
