import FieldAtlas.Proofs.Declaration.Grouping
import FieldAtlas.Proofs.Source.Grammar

/-!
# Definitions that are grouped differently

Two definitions that say the same in differently grouped attributes are both accepted or both
refused, and stand for the same code.
-/

namespace FieldAtlas

open FieldAtlas.Source FieldAtlas.Source.Reading

/-! ## Definitions at other places -/

namespace Source

inductive AttributeBody.Alike : AttributeBody → AttributeBody → Prop where
  | bare : AttributeBody.Alike .bare .bare
  | list {ts us : List Token} {e e' : Pos} (content : Source.Alike true ts us) :
      AttributeBody.Alike (.list ts e) (.list us e')
  | value {e e' : Pos} : AttributeBody.Alike (.value e) (.value e')

structure Attribute.Alike (a b : Attribute) : Prop where
  path : a.path.names = b.path.names
  body : a.body.Alike b.body

structure FieldItem.Alike (f g : FieldItem) : Prop where
  attributes : List.Forall₂ Attribute.Alike f.attributes g.attributes
  name : f.name = g.name
  type : Source.Alike false f.type g.type

inductive ItemBody.Alike : ItemBody → ItemBody → Prop where
  | fields {fs gs : List FieldItem} (each : List.Forall₂ FieldItem.Alike fs gs) :
      ItemBody.Alike (.fields fs) (.fields gs)
  | tuple : ItemBody.Alike .tuple .tuple
  | unit : ItemBody.Alike .unit .unit
  | enum : ItemBody.Alike .enum .enum
  | union : ItemBody.Alike .union .union

/-- The same definition with its tokens at other places. -/
structure Item.Alike (i j : Item) : Prop where
  attributes : List.Forall₂ Attribute.Alike i.attributes j.attributes
  name : i.name = j.name
  parameters : i.parameters = j.parameters
  body : i.body.Alike j.body

end Source

/-- One step that changes how the attributes of a definition are grouped, or where it stands. -/
inductive Regrouping (rules : Grammar.Rules) (kind : DeclaredKind) : Item → Item → Prop where
  | container {i : Item} {as bs : List Attribute}
      (step : Helper.Regrouped kind (Helper.classSetting rules kind) as bs) :
      Regrouping rules kind { i with attributes := as } { i with attributes := bs }
  | field {i : Item} {f : FieldItem} {before behind : List FieldItem} {as bs : List Attribute}
      (step : Helper.Regrouped kind (Helper.setting rules kind) as bs) :
      Regrouping rules kind
        { i with body := .fields (before ++ { f with attributes := as } :: behind) }
        { i with body := .fields (before ++ { f with attributes := bs } :: behind) }
  | moved {i j : Item} (alike : i.Alike j) : Regrouping rules kind i j

/-- The code that a definition stands for, if it is accepted, as far as it can be written. -/
def emitted? (rules : Grammar.Rules) (kind : DeclaredKind) (i : Item) :
    Option (Option (List String)) :=
  (DeclaredClass.ofItem rules kind i).toOption.map DeclaredClass.code?

/-! ## The same outcome -/

/-- Both fail, or what both come to is the same for `view`. -/
def SameOutcome {ε α β : Type} (view : α → β) (x y : Except ε α) : Prop :=
  x.toOption.map view = y.toOption.map view

namespace SameOutcome

variable {ε α β γ δ : Type} {view : α → β} {view' : γ → δ}

theorem bind {x y : Except ε α} {f g : α → Except ε γ} (h : SameOutcome view x y)
    (hf : ∀ a b, view a = view b → SameOutcome view' (f a) (g b)) :
    SameOutcome view' (x >>= f) (y >>= g) := by
  cases x with
  | error e => cases y with
    | error e' => rfl
    | ok b => cases h
  | ok a => cases y with
    | error e' => cases h
    | ok b => exact hf a b (Option.some.inj h)

theorem mapM {f g : γ → Except ε α} {as bs : List γ}
    (h : List.Forall₂ (fun a b => SameOutcome view (f a) (g b)) as bs) :
    SameOutcome (List.map view) (as.mapM f) (bs.mapM g) := by
  induction h with
  | nil => rfl
  | cons hfirst _ ih =>
    rw [List.mapM_cons, List.mapM_cons]
    refine hfirst.bind fun a b hab => ih.bind fun as bs habs => ?_
    exact congrArg some (by rw [List.map_cons, List.map_cons, hab, habs])

end SameOutcome

/-! ## Fields -/

namespace Helper

variable (rules : Grammar.Rules) (kind : DeclaredKind)

/-- What the attributes of a field change. -/
def fieldEffect? (as : List Attribute) : Option (DeclaredField → DeclaredField) :=
  effect? kind (fun path => FieldSetting.unplaced <$> setting rules kind path)
    (fun f s => s.apply f) as

/-- What the attributes of a class change. -/
def classEffect? (as : List Attribute) : Option (ClassOptions → ClassOptions) :=
  effect? kind (fun path => ClassSetting.unplaced <$> classSetting rules kind path)
    (fun o s => s.apply o) as

variable {rules kind} [rules.SteadyValues]

theorem sameOutcome_followField {as bs : List Attribute} {f g : DeclaredField}
    (h : fieldEffect? rules kind as = fieldEffect? rules kind bs) (hfg : f.unplaced = g.unplaced) :
    SameOutcome DeclaredField.unplaced (followAll kind (fieldItem rules kind) as f)
      (followAll kind (fieldItem rules kind) bs g) := by
  have hfollow (as : List Attribute) (f : DeclaredField) :
      (followAll kind (fieldItem rules kind) as f).toOption.map DeclaredField.unplaced =
        (fieldEffect? rules kind as).map fun h => h f.unplaced :=
    toOption_followAll (fieldItem_eq rules kind) DeclaredField.unplaced_apply as f
  rw [SameOutcome, hfollow, hfollow, hfg, h]

end Helper

/-- The fields have the same name and type, and their attributes the same effect. -/
structure Source.FieldItem.Agree (rules : Grammar.Rules) (kind : DeclaredKind) (f g : FieldItem) :
    Prop where
  effect : Helper.fieldEffect? rules kind f.attributes = Helper.fieldEffect? rules kind g.attributes
  name : f.name = g.name
  type : Token.textsOf f.type = Token.textsOf g.type

variable {rules : Grammar.Rules} [rules.SteadyValues] {kind : DeclaredKind}

theorem Source.FieldItem.Agree.sameOutcome {f g : FieldItem} (h : FieldItem.Agree rules kind f g) :
    SameOutcome DeclaredField.unplaced (DeclaredField.ofItem rules kind f)
      (DeclaredField.ofItem rules kind g) := by
  have hplain : (DeclaredField.plain f.pos f.name f.type).unplaced =
      (DeclaredField.plain g.pos g.name g.type).unplaced := by
    simp [DeclaredField.plain, DeclaredField.unplaced, h.name, Token.unplaced_congr h.type]
  refine (Helper.sameOutcome_followField h.effect hplain).bind fun d e hde => ?_
  have hdefault : d.default.isSome = e.default.isSome := by
    simpa [DeclaredField.unplaced] using congrArg (fun f => f.default.isSome) hde
  have hfactory : d.factory.isSome = e.factory.isSome := by
    simpa [DeclaredField.unplaced] using congrArg (fun f => f.factory.isSome) hde
  rw [hdefault, hfactory]
  split
  · rfl
  · exact congrArg some hde

/-! ## Classes -/

theorem Helper.sameOutcome_followClass {as bs : List Attribute}
    (h : classEffect? rules kind as = classEffect? rules kind bs) :
    SameOutcome ClassOptions.unplaced (followAll kind (classItem rules kind) as .plain)
      (followAll kind (classItem rules kind) bs .plain) := by
  have hfollow (as : List Attribute) (o : ClassOptions) :
      (followAll kind (classItem rules kind) as o).toOption.map ClassOptions.unplaced =
        (classEffect? rules kind as).map fun h => h o.unplaced :=
    toOption_followAll (classItem_eq rules kind) ClassOptions.unplaced_apply as o
  rw [SameOutcome, hfollow, hfollow, h]

theorem DeclaredClass.sameOutcome_checkObject (p q : Pos) {o o' : ClassOptions}
    (h : o.unplaced = o'.unplaced) :
    SameOutcome id (checkObject kind p o) (checkObject kind q o') := by
  have hcheck (o : ClassOptions) (p : Pos) :
      (checkObject kind p o).toOption = (checkObject kind .start o.unplaced).toOption := by
    have hobject : o.unplaced.object = o.object := rfl
    have hdescribes : o.unplaced.describesObject = o.describesObject := rfl
    unfold checkObject
    rw [hobject, hdescribes]
    split <;> rfl
  rw [SameOutcome, hcheck o, hcheck o', h]

theorem DeclaredClass.sameOutcome_checkOrder {c d : DeclaredClass} (h : c.unplaced = d.unplaced) :
    SameOutcome id c.checkOrder d.checkOrder := by
  rw [SameOutcome, ← toOption_checkOrder_unplaced c, h, toOption_checkOrder_unplaced]

/-- The named fields, if there are any. -/
def Source.ItemBody.fields? : ItemBody → Option (List FieldItem)
  | .fields fs => some fs
  | _ => none

theorem DeclaredClass.toOption_fieldItems (kind : DeclaredKind) (i : Item) :
    (fieldItems kind i).toOption = i.body.fields? := by
  unfold fieldItems
  cases i.body <;> rfl

/-- The definitions say the same, however it is grouped. -/
structure Source.Item.Agree (rules : Grammar.Rules) (kind : DeclaredKind) (i j : Item) : Prop where
  effect : Helper.classEffect? rules kind i.attributes = Helper.classEffect? rules kind j.attributes
  name : i.name = j.name
  parameters : i.parameters = j.parameters
  fields : Option.Rel (List.Forall₂ (FieldItem.Agree rules kind)) i.body.fields? j.body.fields?

theorem Source.Item.Agree.sameOutcome_fields {i j : Item} (h : Item.Agree rules kind i j) :
    SameOutcome (List.map DeclaredField.unplaced)
      (DeclaredClass.fieldItems kind i >>= List.mapM (DeclaredField.ofItem rules kind))
      (DeclaredClass.fieldItems kind j >>= List.mapM (DeclaredField.ofItem rules kind)) := by
  have hfields := h.fields
  rw [← DeclaredClass.toOption_fieldItems kind, ← DeclaredClass.toOption_fieldItems kind] at hfields
  cases hi : DeclaredClass.fieldItems kind i <;> cases hj : DeclaredClass.fieldItems kind j <;>
    rw [hi, hj] at hfields
  · rfl
  · cases hfields
  · cases hfields
  · cases hfields with
    | some heach => exact .mapM (heach.imp fun _ _ h => h.sameOutcome)

theorem Source.Item.Agree.sameOutcome {i j : Item} (h : Item.Agree rules kind i j) :
    SameOutcome DeclaredClass.unplaced (DeclaredClass.ofItem rules kind i)
      (DeclaredClass.ofItem rules kind j) := by
  have hparsed : SameOutcome DeclaredClass.unplaced (DeclaredClass.parsed rules kind i)
      (DeclaredClass.parsed rules kind j) := by
    unfold DeclaredClass.parsed
    rw [h.parameters]
    split
    · rfl
    refine (Helper.sameOutcome_followClass h.effect).bind fun o o' ho => ?_
    refine (DeclaredClass.sameOutcome_checkObject _ _ ho).bind fun _ _ _ => ?_
    rw [← bind_assoc, ← bind_assoc]
    refine h.sameOutcome_fields.bind fun fs gs hfs => congrArg some ?_
    simp [DeclaredClass.unplaced, ho, hfs, h.name]
  rw [DeclaredClass.ofItem_eq, DeclaredClass.ofItem_eq]
  refine hparsed.bind fun c d hcd => ?_
  exact (DeclaredClass.sameOutcome_checkOrder hcd).bind fun _ _ _ => congrArg some hcd

theorem emitted?_of_agree {i j : Item} (h : Item.Agree rules kind i j) :
    emitted? rules kind i = emitted? rules kind j := by
  have hcode (x : Except Fault DeclaredClass) : x.toOption.map DeclaredClass.code? =
      (x.toOption.map DeclaredClass.unplaced).map DeclaredClass.code? := by
    rw [Option.map_map]
    refine congrArg (fun f => x.toOption.map f) (funext fun c => ?_)
    rw [Function.comp_apply, DeclaredClass.code?, DeclaredClass.code?, DeclaredClass.plan_unplaced,
      Code.ofPlan_unplaced]
  unfold emitted?
  rw [hcode, hcode, h.sameOutcome]

/-! ## Steps agree -/

theorem Helper.said?_alike {α : Type} {read : NamePath → Reading α} [SteadyItem read]
    {a b : Attribute} (h : a.Alike b) : said? read a = said? read b := by
  unfold said?
  have hbody := h.body
  revert hbody
  generalize a.body = x, b.body = y
  intro hbody
  cases hbody with
  | list content => exact listed?_alike content
  | _ => rfl

theorem Helper.effect?_alike {σ α : Type} {read : NamePath → Reading α} [SteadyItem read]
    {step : σ → α → σ} {as bs : List Attribute} (h : List.Forall₂ Attribute.Alike as bs) :
    effect? kind read step as = effect? kind read step bs := by
  have hsaid : (as.filter fun a => a.path.isName kind.helper).mapM (said? read) =
      (bs.filter fun a => a.path.isName kind.helper).mapM (said? read) := by
    induction h with
    | nil => rfl
    | @cons a b as bs hab _ ih =>
      rw [List.filter_cons, List.filter_cons, NamePath.isName_congr hab.path kind.helper]
      split
      · rw [List.mapM_cons, List.mapM_cons, said?_alike hab, ih]
      · exact ih
  unfold effect?
  rw [hsaid]

theorem Source.FieldItem.Alike.agree {f g : FieldItem} (h : f.Alike g) :
    FieldItem.Agree rules kind f g :=
  ⟨Helper.effect?_alike h.attributes, h.name, h.type.textsOf_eq⟩

omit [rules.SteadyValues] in
theorem Source.FieldItem.forall₂_agree_refl (fs : List FieldItem) :
    List.Forall₂ (FieldItem.Agree rules kind) fs fs :=
  List.forall₂_same.mpr fun _ _ => ⟨rfl, rfl, rfl⟩

omit [rules.SteadyValues] in
theorem Source.ItemBody.fields?_agree_refl (b : ItemBody) :
    Option.Rel (List.Forall₂ (FieldItem.Agree rules kind)) b.fields? b.fields? := by
  cases b.fields? with
  | none => exact .none
  | some fs => exact .some (FieldItem.forall₂_agree_refl fs)

theorem Source.ItemBody.Alike.fields?_agree {b b' : ItemBody} (h : b.Alike b') :
    Option.Rel (List.Forall₂ (FieldItem.Agree rules kind)) b.fields? b'.fields? := by
  cases h with
  | fields each => exact .some (each.imp fun _ _ h => h.agree)
  | _ => exact .none

theorem Regrouping.agree {i j : Item} (h : Regrouping rules kind i j) :
    Item.Agree rules kind i j := by
  cases h with
  | container step =>
    exact ⟨Helper.effect?_regrouped step, rfl, rfl, ItemBody.fields?_agree_refl _⟩
  | field step =>
    refine ⟨rfl, rfl, rfl, .some ?_⟩
    refine List.rel_append (FieldItem.forall₂_agree_refl _) (.cons ?_ (FieldItem.forall₂_agree_refl _))
    exact ⟨Helper.effect?_regrouped step, rfl, rfl⟩
  | moved alike =>
    exact ⟨Helper.effect?_alike alike.attributes, alike.name, alike.parameters,
      alike.body.fields?_agree⟩

/-- However often attributes are regrouped, both definitions are accepted or refused, and the code
is the same. -/
theorem emitted_eq_of_regrouping {i j : Item} (h : Relation.EqvGen (Regrouping rules kind) i j) :
    emitted? rules kind i = emitted? rules kind j := by
  induction h with
  | rel _ _ step => exact emitted?_of_agree step.agree
  | refl _ => rfl
  | symm _ _ _ ih => exact ih.symm
  | trans _ _ _ _ _ ih ih' => exact ih.trans ih'

/-- The whole grammar reads values alike, however many tokens it is made for. -/
instance Source.Grammar.Rules.steadyValues_for (count : Nat) : (Rules.for count).SteadyValues where
  path := inferInstance
  expr := inferInstance

/-! ## A default and a flag -/

namespace Source.Grammar.Rules

/-- A grammar without types, in which every expression is a literal. -/
def literals : Rules :=
  { none with
    expr := fun _ => do
      discard (literal "literal" some)
      return .plain }

instance steadyArguments_literals : literals.SteadyArguments where
  type _ := inferInstanceAs (Steady (failExpected ["type"]))
  bound _ := inferInstanceAs (Steady (failExpected ["bound"]))
  bound_ends _ _ _ _ _ := run_ne_ok (r := failExpected ["bound"])
  statements := inferInstanceAs (SteadyInside (failExpected ["statement"]))
  forward_statements := inferInstanceAs (Forward (failExpected ["statement"]))

instance steadyValues_literals : literals.SteadyValues where
  path := inferInstance
  expr :=
    { toForward := inferInstanceAs (Forward (discard (literal "literal" some) >>= fun _ => pure _))
      at_near := fun F c c' _ => inferInstanceAs (SteadyAt F c c' Eq
        (discard (literal "literal" some) >>= fun _ => pure _)
        (discard (literal "literal" some) >>= fun _ => pure _)) }

end Source.Grammar.Rules

/-- The attribute `#[record(…)]` with this content. -/
def Source.Attribute.record (content : List Token) : Attribute :=
  ⟨⟨false, [(.start, "record")]⟩, .list content .start⟩

/-- A struct with one field. -/
def Source.Item.ofField (as : List Attribute) : Item :=
  ⟨[], .start, "Point", 0, .fields [⟨as, .start, "x", [.word .start "i64"]⟩]⟩

def defaultItem : List Token :=
  [.word .start "default", .punct .start '=' false, .literal .start "1"]

def reprItem : List Token :=
  [.word .start "repr", .punct .start '=' false, .word .start "false"]

theorem endsBefore_defaultItem : Helper.EndsBefore (Helper.setting .literals .record) defaultItem
    (.punct .start ',' false :: reprItem) := .of_run rfl rfl

theorem emitted_eq_of_split_default :
    let joined := Item.ofField [.record (defaultItem ++ .punct .start ',' false :: reprItem)]
    let split := Item.ofField [.record defaultItem, .record reprItem]
    Relation.EqvGen (Regrouping .literals .record) joined split ∧
      emitted? .literals .record joined = emitted? .literals .record split ∧
      (emitted? .literals .record joined).join.isSome = true := by
  have hbetween : Helper.Between (Helper.setting .literals .record) defaultItem
      (.punct .start ',' false) reprItem := .here (by decide) rfl endsBefore_defaultItem
  have hstep : Regrouping .literals .record
      (Item.ofField [.record (defaultItem ++ .punct .start ',' false :: reprItem)])
      (Item.ofField [.record defaultItem, .record reprItem]) :=
    @Regrouping.field _ _ (Item.ofField []) ⟨[], .start, "x", [.word .start "i64"]⟩ [] [] _ _
      (.split rfl rfl rfl hbetween)
  exact ⟨.rel _ _ hstep, emitted_eq_of_regrouping (.rel _ _ hstep), by decide +kernel⟩

end FieldAtlas
