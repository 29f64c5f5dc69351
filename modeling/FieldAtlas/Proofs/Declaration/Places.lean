import FieldAtlas.Declaration.Read
import FieldAtlas.Proofs.Declaration.Code
import FieldAtlas.Proofs.Declaration.Given

/-!
# Declarations without their places

Where the tokens of a declaration stood does not matter for the code that it stands for.
-/

namespace FieldAtlas

open FieldAtlas.Source FieldAtlas.Source.Reading

/-- Tokens with the same texts, none of which knows where it stood. -/
def Source.Token.unplaced (ts : List Token) : List Token :=
  (textsOf ts).map (.word .start)

namespace Source.Token

@[simp] theorem textsOf_unplaced (ts : List Token) : textsOf (unplaced ts) = textsOf ts := by
  unfold unplaced
  induction textsOf ts with
  | nil => rfl
  | cons s ss ih => rw [List.map_cons, textsOf, ih, texts, List.singleton_append]

theorem unplaced_congr {ts us : List Token} (h : textsOf ts = textsOf us) :
    unplaced ts = unplaced us := by
  rw [unplaced, h, unplaced]

end Source.Token

/-! ## Settings of a class -/

/-- One item of an attribute of a class. -/
inductive ClassSetting where
  | base (path : List Token)
  | name (text : String)
  | description (text : String)
  | input
  | interface
  | kwOnly
  | frozen
  | object

namespace ClassSetting

def apply (o : ClassOptions) : ClassSetting → ClassOptions
  | base path => { o with bases := o.bases ++ [path] }
  | name text => { o with name := some text }
  | description text => { o with description := some text }
  | input => { o with input := true }
  | interface => { o with interface := true }
  | kwOnly => { o with kwOnly := true }
  | frozen => { o with frozen := true }
  | object => { o with object := true }

def unplaced : ClassSetting → ClassSetting
  | base path => base (Token.unplaced path)
  | s => s

end ClassSetting

namespace Helper

def classSetting (rules : Grammar.Rules) (kind : DeclaredKind) (path : NamePath) :
    Reading ClassSetting := do
  match path.name?, kind with
  | some "extends", _ =>
    let (_, tokens) ← pathValue rules
    return .base tokens
  | some "name", _ => return .name (← textValue)
  | some "description", _ => return .description (← textValue)
  | some "input", _ => return .input
  | some "interface", _ => return .interface
  | some "kw_only", .compact => return .kwOnly
  | some "frozen", .compact => return .frozen
  | some "object", .compact => return .object
  | _, _ => refuse path (.unknownKey kind)

theorem classItem_eq (rules : Grammar.Rules) (kind : DeclaredKind) (path : NamePath)
    (o : ClassOptions) :
    classItem rules kind path o = ClassSetting.apply o <$> classSetting rules kind path := by
  unfold classItem classSetting
  generalize path.name? = key
  split
  · simp [ClassSetting.apply]
  · simp [ClassSetting.apply]
  · simp [ClassSetting.apply]
  · rfl
  · rfl
  · rfl
  · rfl
  · rfl
  · simp only [*, map_refuse]

end Helper

def ClassOptions.unplaced (o : ClassOptions) : ClassOptions :=
  { o with bases := o.bases.map Token.unplaced }

theorem ClassOptions.unplaced_apply (o : ClassOptions) (s : ClassSetting) :
    (s.apply o).unplaced = s.unplaced.apply o.unplaced := by
  cases s with
  | base path => simp [ClassSetting.apply, ClassSetting.unplaced, unplaced]
  | _ => rfl

/-! ## Fields -/

def DefaultCode.unplaced : DefaultCode → DefaultCode
  | text literal => text literal
  | code tokens => code (Token.unplaced tokens)

def FactoryCode.unplaced (f : FactoryCode) : FactoryCode :=
  { f with path := Token.unplaced f.path }

def FieldSetting.unplaced : FieldSetting → FieldSetting
  | default d => default d.unplaced
  | factory f => factory f.unplaced
  | s => s

namespace DeclaredField

def unplaced (f : DeclaredField) : DeclaredField :=
  { f with
    pos := .start
    type := Token.unplaced f.type
    default := f.default.map .unplaced
    factory := f.factory.map .unplaced }

theorem unplaced_apply (f : DeclaredField) (s : FieldSetting) :
    (s.apply f).unplaced = s.unplaced.apply f.unplaced := by
  cases s with
  | flag key b => cases key <;> rfl
  | _ => rfl

end DeclaredField

namespace DeclaredClass

def unplaced (c : DeclaredClass) : DeclaredClass :=
  { c with
    pos := .start
    options := c.options.unplaced
    fields := c.fields.map .unplaced }

end DeclaredClass

namespace DeclaredClass

theorem misplaced?_map_unplaced (seen : Bool) (fs : List DeclaredField) :
    misplaced? seen (fs.map .unplaced) = (misplaced? seen fs).map .unplaced := by
  induction fs generalizing seen with
  | nil => rfl
  | cons f fs ih =>
    have hdefault : f.unplaced.hasDefault = f.hasDefault := by
      simp [DeclaredField.hasDefault, DeclaredField.unplaced]
    simp only [List.map_cons, misplaced?, hdefault, ih]
    split
    · rfl
    · split <;> rfl

theorem toOption_checkOrder_unplaced (c : DeclaredClass) :
    c.unplaced.checkOrder.toOption = c.checkOrder.toOption := by
  have hpositional : c.unplaced.fields.filter c.unplaced.isPositional =
      (c.fields.filter c.isPositional).map .unplaced := by
    rw [unplaced, List.filter_map]
    rfl
  unfold checkOrder
  rw [hpositional, misplaced?_map_unplaced]
  cases misplaced? false (c.fields.filter c.isPositional) <;> rfl

end DeclaredClass

/-! ## Plans -/

def BuilderCall.unplaced : BuilderCall → BuilderCall
  | default d => default d.unplaced
  | factory f => factory f.unplaced
  | call => call

def FieldPlan.unplaced (p : FieldPlan) : FieldPlan :=
  { p with type := Token.unplaced p.type, calls := p.calls.map .unplaced }

def ClassPlan.unplaced (p : ClassPlan) : ClassPlan :=
  { p with bases := p.bases.map Token.unplaced, fields := p.fields.map .unplaced }

namespace DeclaredField

theorem calls_unplaced (kind : DeclaredKind) (f : DeclaredField) :
    f.unplaced.calls kind = (f.calls kind).map .unplaced := by
  have hslots : f.unplaced.slotCalls = f.slotCalls.map .unplaced := by
    unfold slotCalls unplaced
    cases f.default <;> cases f.factory <;> rfl
  have hflags : f.flagCalls.map BuilderCall.unplaced = f.flagCalls := by
    unfold flagCalls
    cases f.repr <;> cases f.compare <;> cases f.init <;> cases f.hash <;> rfl
  have hkeyword : f.keywordCalls.map BuilderCall.unplaced = f.keywordCalls := by
    unfold keywordCalls
    cases f.kwOnly <;> rfl
  have hmetadata : f.metadataCalls.map BuilderCall.unplaced = f.metadataCalls := by
    simp [metadataCalls, BuilderCall.unplaced, Function.comp_def]
  have hrename : (f.rename.map BuilderCall.rename).toList.map BuilderCall.unplaced =
      (f.rename.map BuilderCall.rename).toList := by
    cases f.rename <;> rfl
  cases kind with
  | record =>
    simp only [calls, List.map_append, hslots, hflags, hkeyword, hmetadata]
    rfl
  | compact =>
    simp only [calls, List.map_append, hslots, hkeyword, hrename]
    rfl

theorem plan_unplaced (kind : DeclaredKind) (index : Nat) (f : DeclaredField) :
    f.unplaced.plan kind index = (f.plan kind index).unplaced := by
  simp only [plan, calls_unplaced]
  rfl

end DeclaredField

theorem DeclaredClass.plan_unplaced (c : DeclaredClass) : c.unplaced.plan = c.plan.unplaced := by
  have hfields : c.unplaced.fields.mapIdx (DeclaredField.plan c.kind) =
      (c.fields.mapIdx (DeclaredField.plan c.kind)).map .unplaced := by
    refine List.ext_getElem? fun k => ?_
    simp [unplaced, List.getElem?_mapIdx, DeclaredField.plan_unplaced, Function.comp_def]
  have hoverrides : c.unplaced.overrides = c.overrides := by
    unfold overrides unplaced
    simp only [List.map_map]
    rfl
  unfold plan ClassPlan.unplaced
  rw [hoverrides]
  exact congrArg (fun fs => { c.unplaced.plan with fields := fs, overrides := c.overrides }) hfields

namespace Code

theorem default_unplaced (type : List String) (d : DefaultCode) :
    default type d.unplaced = default type d := by
  cases d <;> simp [default, DefaultCode.unplaced]

theorem builderCall_unplaced (type : List String) (call : BuilderCall) :
    builderCall type call.unplaced = builderCall type call := by
  cases call <;>
    simp [builderCall, BuilderCall.unplaced, default_unplaced, factory, FactoryCode.unplaced]

theorem field_unplaced (builder : String) (p : FieldPlan) :
    field builder p.unplaced = field builder p := by
  simp [field, plainField, FieldPlan.unplaced, typeRef, each_map, builderCall_unplaced]

theorem fieldCall_unplaced (s : Spelling) (p : FieldPlan) :
    fieldCall s p.unplaced = fieldCall s p := by
  rw [fieldCall, field_unplaced, fieldCall]

theorem base_unplaced (s : Spelling) (path : List Token) :
    base s (Token.unplaced path) = base s path := by
  simp [base]

theorem ofPlan_unplaced (p : ClassPlan) : ofPlan p.unplaced = ofPlan p := by
  have hbuilder : builder p.unplaced = builder p := by
    simp [builder, ClassPlan.unplaced, each_map, fieldCall_unplaced, List.flatMap_map,
      base_unplaced, ending]
  unfold ofPlan giver
  rw [hbuilder]
  rfl

end Code

end FieldAtlas
