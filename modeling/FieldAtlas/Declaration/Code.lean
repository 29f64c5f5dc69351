import FieldAtlas.Declaration.Plan
import FieldAtlas.Text.Identifier
import FieldAtlas.Text.Quoted

/-!
# Written plans

The source code that a plan stands for, as the list of its tokens. Each punctuation character is a
token of its own. No code can be written for a number that is not finite.
-/

namespace FieldAtlas

open FieldAtlas.Source

namespace Code

/-! ## Templates -/

/-- The tokens of plain code: names, and single characters of punctuation. -/
def split : List Char → List (List Char)
  | [] => []
  | c :: cs =>
    let rest := split cs
    if c = ' ' then [] :: rest
    else if Text.Identifier.isContinue c then
      match cs, rest with
      | d :: _, w :: ws => if Text.Identifier.isContinue d then (c :: w) :: ws else [c] :: rest
      | _, _ => [c] :: rest
    else [c] :: rest

/-- The tokens of a piece of code without literals. -/
def code (text : String) : List String :=
  ((split text.toList).filter fun w => !w.isEmpty).map String.ofList

def braces (content : List String) : List String := ["\x7b"] ++ content ++ ["\x7d"]

def parens (content : List String) : List String := ["("] ++ content ++ [")"]

/-- A literal for text. -/
def quoted (s : String) : List String := [Text.Quoted.source s]

def truth (b : Bool) : List String := [if b then "true" else "false"]

/-- The call of a method. -/
def call (method : String) (arguments : List String) : List String :=
  [".", method] ++ parens arguments

/-! ## Fields -/

/-- Code that fails to compile with a message. -/
def refusal (message : String) : List String :=
  code "::core::compile_error!" ++ braces (quoted message)

/-- A value around an expression. -/
def value (content : List String) : List String :=
  code "::fieldbridge::Value::new" ++ parens content

/-- The value of a remark. -/
def remark : Remark → Option (List String)
  | .text literal _ => some (value (code "::std::string::String::from" ++ parens [literal]))
  | .bool b => some (value (truth b))
  | .int n =>
    if n < Remark.int64.1 then some (refusal "number too small to fit in target type")
    else if Remark.int64.2 < n then some (refusal "number too large to fit in target type")
    else some (value (Token.literalTexts (toString n ++ "i64")))
  | .float d =>
    if d.isFinite then some (value (Token.literalTexts (Decimal.text .source d ++ "f64"))) else none

/-- The value of a default of the given type. -/
def default (type : List String) : DefaultCode → List String
  | .text literal =>
    value (code "::std::convert::Into::<" ++ type ++ code ">::into" ++ parens [literal])
  | .code tokens =>
    value (braces (code "let __value:" ++ type ++ ["="] ++ Token.textsOf tokens ++
      code "; __value"))

/-- A factory of values of the given type. -/
def factory (type : List String) (f : FactoryCode) : List String :=
  code "::fieldbridge::Factory::new" ++
    parens (quoted f.name ++ code ", || ->" ++ type ++
      braces (Token.textsOf f.path ++ parens []))

def builderCall (type : List String) : BuilderCall → Option (List String)
  | .default d => some (call "with_default_value" (default type d))
  | .factory f => some (call "with_factory" (factory type f))
  | .rename name => some (call "rename" (quoted name))
  | .repr b => some (call "repr" (truth b))
  | .compare b => some (call "compare" (truth b))
  | .init b => some (call "init" (truth b))
  | .hash b => some (call "hash" (truth b))
  | .kwOnly => some (call "kw_only" (truth true))
  | .metadata key v => do
    let value ← remark v
    return call "metadata" (quoted key ++ [","] ++ value)

/-- The code of all elements, one after the other. -/
def each {α : Type} (write : α → Option (List String)) (xs : List α) : Option (List String) :=
  (xs.mapM write).map List.flatten

def typeRef (f : FieldPlan) : List String :=
  match f.forward with
  | some name => code "::fieldbridge::TypeRef::forward" ++ parens [name.literal]
  | none => code "::fieldbridge::TypeRef::of::<" ++ Token.textsOf f.type ++ code ">()"

/-- The builder of a field, named by the path of its type, before any call. -/
def plainField (builder : String) (f : FieldPlan) : List String :=
  code builder ++ parens (quoted f.name ++ [","] ++ typeRef f)

def field (builder : String) (f : FieldPlan) : Option (List String) := do
  let calls ← each (builderCall (Token.textsOf f.type)) f.calls
  return plainField builder f ++ calls

/-- An override of a field that says nothing yet. -/
def plainOverride (field : String) : List String :=
  quoted field ++ [","] ++ code "::fieldbridge::backend::compact::FieldOverride::default()"

def override (o : String × List BuilderCall) : Option (List String) := do
  let calls ← each (builderCall []) o.2
  return call "override_field" (plainOverride o.1 ++ calls)

/-! ## Classes -/

/-- Text that is owned, perhaps. -/
def someText : Option String → List String
  | none => code "::std::option::Option::None"
  | some s =>
    code "::std::option::Option::Some" ++
      parens (code "::std::string::String::from" ++ parens (quoted s))

def objectConfig (o : ObjectConfig) : List String :=
  code "::fieldbridge::bridge::ObjectConfig" ++ braces (
    code "name:" ++ someText o.name ++ code ", description:" ++ someText o.description ++
    code ", is_input:" ++ truth o.isInput ++ code ", is_interface:" ++ truth o.isInterface ++ [","])

/-- How the code of a kind of class is spelled. -/
structure Spelling where
  /-- The trait that gives the class. -/
  giver : String
  /-- The function of the trait. -/
  method : String
  /-- The type of the class. -/
  type : String
  /-- The type of the fields. -/
  field : String

def spelling : DeclaredKind → Spelling
  | .record => {
      giver := "::fieldbridge::registry::Record"
      method := "record_class"
      type := "::fieldbridge::backend::classic::RecordClass"
      field := "::fieldbridge::backend::classic::RecordField::new" }
  | .compact => {
      giver := "::fieldbridge::registry::CompactStruct"
      method := "struct_class"
      type := "::fieldbridge::backend::compact::StructClass"
      field := "::fieldbridge::backend::compact::StructField::new" }

/-- Code for the class of a type. -/
def classOf (s : Spelling) (type : List String) : List String :=
  ["<"] ++ type ++ ["as"] ++ code s.giver ++ code (">::" ++ s.method ++ "()?")

def base (s : Spelling) (path : List Token) : List String :=
  call "extends" (code "::std::sync::Arc::clone" ++
    parens (classOf s (Token.textsOf path) ++ [","]))

def fieldCall (s : Spelling) (f : FieldPlan) : Option (List String) :=
  (field s.field f).map (call "field")

/-- The calls that end the builder of a class. -/
def ending (p : ClassPlan) : Option (List String) :=
  match p.kind with
  | .record => some ((p.object.map fun o => call "object" (objectConfig o)).getD [])
  | .compact => do
    let overrides ← each override p.overrides
    return overrides ++ call "kw_only" (truth p.kwOnly) ++ call "frozen" (truth p.frozen)

def builder (p : ClassPlan) : Option (List String) := do
  let s := spelling p.kind
  let fields ← each (fieldCall s) p.fields
  let ending ← ending p
  return code "let class =" ++ code (s.type ++ "::builder") ++ parens (quoted p.name) ++
    p.bases.flatMap (base s) ++ fields ++ ending ++
    code ".build()?; ::std::result::Result::Ok(class)"

/-- A static cell that is filled at its first use. -/
def cell (name : String) (type : List String) : List String :=
  code ("static " ++ name ++ ": ::std::sync::OnceLock<") ++ type ++
    code ",> = ::std::sync::OnceLock::new();"

/-- Fills a cell by a closure, and gives what is in it. -/
def filled (name : String) (content : List String) : List String :=
  code (name ++ ".get_or_init") ++
    parens (code "|| -> ::std::result::Result<_, ::fieldbridge::FieldError>" ++ braces content) ++
    code ".as_ref().map_err(::std::clone::Clone::clone)"

/-- The implementation of the trait that gives the class. -/
def giver (p : ClassPlan) : Option (List String) := do
  let s := spelling p.kind
  let builder ← builder p
  return code "impl" ++ code s.giver ++ ["for", p.ident] ++ braces (
    code ("fn " ++ s.method ++ "() -> ::std::result::Result<&'static ::std::sync::Arc<" ++ s.type ++
      ">, ::fieldbridge::FieldError,>") ++
    braces (
      cell "CLASS" (code ("::std::result::Result<::std::sync::Arc<" ++ s.type ++
        ">, ::fieldbridge::FieldError,>")) ++
      filled "CLASS" builder))

/-- Gives the class that the trait gives. -/
def plainBody (s : Spelling) : List String :=
  code "let class =" ++ classOf s ["Self"] ++ code "; ::std::result::Result::Ok(class)"

/-- Gives an object around the class. -/
def objectBody (s : Spelling) (o : ObjectConfig) : List String :=
  cell "OBJECT" (code ("::std::result::Result<::fieldbridge::bridge::StructObjectClass, " ++
    "::fieldbridge::FieldError>")) ++
  code "let object =" ++
  filled "OBJECT" (
    code "let layout =" ++ classOf s ["Self"] ++
    code "; ::std::result::Result::Ok" ++ parens (
      code "::fieldbridge::bridge::StructObjectClass::new" ++
        parens (code "::std::sync::Arc::clone(layout)," ++ objectConfig o ++ [","]))) ++
  code "?; ::std::result::Result::Ok(object)"

def classBody (p : ClassPlan) : List String :=
  let s := spelling p.kind
  match p.kind, p.object with
  | .compact, some o => objectBody s o
  | _, _ => plainBody s

/-- The implementation of the trait for all declared classes. -/
def declared (p : ClassPlan) : List String :=
  code "impl ::fieldbridge::registry::Declared for" ++ [p.ident] ++ braces (
    code "const CLASS_NAME: &'static str =" ++ quoted p.name ++ [";"] ++
    code ("fn class() -> ::std::result::Result<&'static dyn ::fieldbridge::class::Introspect, " ++
      "::fieldbridge::FieldError>") ++
    braces (classBody p))

def registration (p : ClassPlan) : List String :=
  code "::fieldbridge::inventory::submit!" ++
    braces (code "::fieldbridge::registry::ClassRegistration::of::<" ++ [p.ident] ++ code ">()")

/-- All the code of a plan. -/
def ofPlan (p : ClassPlan) : Option (List String) := do
  let giver ← giver p
  return giver ++ declared p ++ registration p

end Code

namespace DeclaredClass

/-- The tokens of the code that a declaration stands for, if it can be written. -/
def code? (c : DeclaredClass) : Option (List String) := Code.ofPlan c.plan

/-- The code with blanks between its tokens, and nothing where there is none. -/
def code (c : DeclaredClass) : String := " ".intercalate (c.code?.getD [])

end DeclaredClass

end FieldAtlas
