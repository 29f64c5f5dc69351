import FieldAtlas.Catalogue
import FieldAtlas.Declaration.Build
import FieldAtlas.Declaration.Constant
import FieldAtlas.Declaration.Read
import FieldAtlas.Record.Build
import FieldAtlas.Struct.Build

/-!
# Declared classes in a catalogue

Declarations are taken in one after the other, each with its bases in front of it. A declaration
whose default or base is beyond what is known here is refused, and so is one without code that
compiles.
-/

namespace FieldAtlas

open FieldAtlas.Source

namespace FieldPlan

/-- The type that is written, if it is known. -/
def known? (p : FieldPlan) : Option KnownType := KnownType.ofCode? (Token.textsOf p.type)

/-- The default that the plan sets. -/
def default? (p : FieldPlan) : Option DefaultCode :=
  p.calls.findSome? fun c =>
    match c with
    | .default d => some d
    | _ => none

def factory? (p : FieldPlan) : Option FactoryCode :=
  p.calls.findSome? fun c =>
    match c with
    | .factory f => some f
    | _ => none

/-- The value of a default. -/
def constant? (p : FieldPlan) (d : DefaultCode) : Option Scalar :=
  p.known?.bind fun t => Constant.ofDefault? t d

/-- What the factory of the field makes. -/
def product? (p : FieldPlan) : Option Scalar := p.known?.bind Constant.empty?

/-- All that is written about the field is known. -/
def isKnown (p : FieldPlan) : Bool :=
  p.known?.isSome && p.default?.all (fun d => (p.constant? d).isSome) &&
    p.factory?.all (fun _ => p.product?.isSome)

end FieldPlan

namespace Catalogue

/-- The meaning of a plan whose values take places and closures from these numbers on. -/
def meaning (firstPlace firstClosure : Nat) : Meaning where
  typeName tokens := ((KnownType.ofCode? (Token.textsOf tokens)).map KnownType.fullName).getD ""
  default p d := .scalar (.numbered (firstPlace + p.index)) ((p.constant? d).getD .unit)
  factory p f := ⟨f.name, firstClosure + p.index⟩

/-- One closure for each field, used or not. -/
def closuresOf (p : ClassPlan) : List Closure :=
  p.fields.map fun f => .new (.constant (.ofScalar (f.product?.getD .unit)))

/-- The outcome of a class that a path names. -/
def base? (c : Catalogue) (inModule : String) (path : List Token) :
    Option (Except FieldError ClassObject) :=
  (c.ofType? (inModule ++ String.join ((Token.textsOf path).map unraw))).map (·.outcome)

/-- The record classes among the bases, or the first error of one of them. -/
def recordBases : List (Except FieldError ClassObject) → Except FieldError (List RecordClass)
  | [] => .ok []
  | b :: bs => do
    let c ← b
    return c.recordTable?.toList ++ (← recordBases bs)

def structBases : List (Except FieldError ClassObject) → Except FieldError (List StructClass)
  | [] => .ok []
  | b :: bs => do
    let c ← b
    return c.structTable?.toList ++ (← structBases bs)

/-- Builds what a plan asks for. -/
def outcome (p : ClassPlan) (m : Meaning) (id : ClassId)
    (bases : List (Except FieldError ClassObject)) : Except FieldError ClassObject :=
  match p.kind with
  | .record => do
    let c ← ((p.recordDecl m (← recordBases bases)).build id).mapError .record
    return .record c
  | .compact => do
    let c ← ((p.structDecl m (← structBases bases)).build id).mapError .struct
    match p.object with
    | some o => return .object ⟨c, o, none⟩
    | none => return .struct c

/-- What comes of a plan, if there is code for it that compiles. -/
def built? (p : ClassPlan) (m : Meaning) (id : ClassId)
    (bases : List (Except FieldError ClassObject)) : Option (Except FieldError ClassObject) :=
  if p.compiles then some (outcome p m id bases) else none

/-- Takes in the class of a plan. -/
def add (c : Catalogue) (inModule : String) (p : ClassPlan) : Option Catalogue := do
  if !p.fields.all FieldPlan.isKnown then none
  let bases ← p.bases.mapM (c.base? inModule)
  let outcome ← built? p (meaning c.nextPlace c.closures.length) c.nextClass bases
  some {
    entries := c.entries ++ [⟨inModule ++ p.name, p.name, outcome⟩]
    closures := c.closures ++ closuresOf p
    nextClass := c.nextClass.next
    nextPlace := c.nextPlace + p.fields.length }

/-- Takes in the class that a text declares, as a type of a module. -/
def declare (c : Catalogue) (inModule : String) (kind : DeclaredKind) (source : String) :
    Option Catalogue :=
  match DeclaredClass.ofText kind source with
  | .error _ => none
  | .ok d => c.add inModule d.plan

/-- The catalogue of the classes that texts declare, in order. -/
def ofTexts? (inModule : String) (sources : List (DeclaredKind × String)) : Option Catalogue :=
  sources.foldlM (fun c s => c.declare inModule s.1 s.2) empty

end Catalogue

end FieldAtlas
