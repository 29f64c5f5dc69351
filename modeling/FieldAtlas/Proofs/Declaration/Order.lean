import FieldAtlas.Declaration.Declare
import FieldAtlas.Proofs.Declaration.Plan
import FieldAtlas.Proofs.Declaration.Reading
import FieldAtlas.Proofs.Record.Supplier
import FieldAtlas.Proofs.Struct.Inheritance

/-!
# The order of declared fields

The order of the fields is checked when a declaration is read, and again when its class is built.
For a class without bases both checks come to the same.
-/

namespace FieldAtlas

open FieldAtlas.Source

/-! ## Builds without bases -/

/-- What can be wrong is one field out of order. -/
def FailsOver {ε α : Type} (x : Except ε α) (err : String → ε) : Option String → Prop
  | some field => x = .error (err field)
  | none => ∃ a, x = .ok a

theorem FailsOver.lift {ε ε' α β : Type} {x : Except ε α} {err : String → ε} {field? : Option String}
    (h : FailsOver x err field?) (e : ε → ε') (g : α → β) :
    FailsOver ((x.mapError e).map g) (fun field => e (err field)) field? := by
  cases field? with
  | some field =>
    rw [h]
    rfl
  | none =>
    obtain ⟨a, rfl⟩ := h
    exact ⟨g a, rfl⟩

namespace RecordDecl

variable {d : RecordDecl}

theorem nodup_own (h : d.ownError? = none) : (d.fields.map FieldSpec.name).Nodup :=
  ((Table.ownFault?_eq_none_iff _ _ _ _).mp (ownFault?_eq_none h)).2.1

theorem ancestors?_of_no_bases (hbases : d.bases = []) : d.ancestors? = some [] := by
  rw [ancestors?, hbases]
  rfl

theorem table_of_no_ancestors (hown : d.ownError? = none) : d.table [] = d.fields :=
  Table.putAll_nil_eq FieldSpec.name (nodup_own hown)

theorem Built.fields_of_no_bases {id : ClassId} {c : RecordClass} (h : d.Built id c)
    (hbases : d.bases = []) : c.fields = d.fields := by
  have hancestors := (ancestors?_of_no_bases hbases).symm.trans h.ancestors
  rw [h.fields, ← Option.some.inj hancestors, table_of_no_ancestors h.sound]

theorem build_of_no_bases (hbases : d.bases = []) (hown : d.ownError? = none) (id : ClassId) :
    FailsOver (d.build id) (.nonDefaultAfterDefault d.name)
      ((misplaced? d.fields).map FieldSpec.name) := by
  unfold build
  rw [hown, ancestors?_of_no_bases hbases]
  simp only [table_of_no_ancestors hown]
  cases misplaced? d.fields with
  | some f => rfl
  | none => exact ⟨_, rfl⟩

end RecordDecl

namespace StructDecl

variable {d : StructDecl}

theorem ownError?_eq_none
    (h : Table.ownFault? StructField.name StructField.hasBoth [] (d.fields.map d.ownField) = none) :
    d.ownError? = none := by
  have hsame : Table.ownFault? StructField.name StructField.hasBoth [] (d.fields.map d.ownField) =
      Table.ownFault? StructField.name StructField.hasBoth [] d.fields :=
    Table.ownFault?_map (f := d.ownField) (fun _ => rfl) (fun _ => rfl) _ _
  rw [ownError?, ← hsame, h]

theorem declared_of_no_bases (hbases : d.bases = []) (hown : d.ownError? = none) :
    d.declared = d.fields.map d.ownField := by
  rw [declared, hbases]
  apply Table.putAll_nil_eq
  rw [List.map_map]
  exact nodup_own hown

theorem build_of_no_bases (hbases : d.bases = []) (hown : d.ownError? = none) (id : ClassId) :
    FailsOver (d.build id) (.requiredAfterOptional d.name)
      ((Table.misplaced? StructField.hasDefault false
        ((d.fields.map d.ownField).filter fun f => !f.kwOnly)).map StructField.name) := by
  unfold build
  rw [hown]
  simp only [declared_of_no_bases hbases hown]
  cases Table.misplaced? StructField.hasDefault false _ with
  | some f => rfl
  | none => exact ⟨_, rfl⟩

end StructDecl

/-! ## Fields as they are declared -/

theorem forall₂_mapIdx {α β γ : Type} {R : α → γ → Prop} {g : Nat → α → β} {h : β → γ} {xs : List α}
    (hR : ∀ (i : Nat) (x : α), xs[i]? = some x → R x (h (g i x))) :
    List.Forall₂ R xs ((xs.mapIdx g).map h) := by
  rw [List.forall₂_iff_get]
  refine ⟨by simp, ?_⟩
  intro i hi _
  rw [List.get_eq_getElem, List.get_eq_getElem, List.getElem_map, List.getElem_mapIdx]
  exact hR i _ (List.getElem?_eq_getElem hi)

namespace DeclaredClass

/-- No default that is written means a marker. -/
def Present (c : DeclaredClass) (m : Meaning) : Prop :=
  ∀ (i : Nat) (f : DeclaredField), c.fields[i]? = some f →
    ∀ d ∈ f.default, (m.default (f.plan c.kind i) d).isMissing = false

/-- What the checks look at in a field that was made of a declaration. -/
structure AsDeclared (c : DeclaredClass) {α : Type} (name : α → String)
    (hasDefault hasBoth positional : α → Bool) (f : DeclaredField) (x : α) : Prop where
  name : name x = f.name
  hasDefault : hasDefault x = f.hasDefault
  hasBoth : hasBoth x = false
  positional : positional x = c.isPositional f

section

variable {c : DeclaredClass} {α : Type} {name : α → String}
  {hasDefault hasBoth positional : α → Bool} {fs : List DeclaredField} {xs : List α}
  (h : List.Forall₂ (c.AsDeclared name hasDefault hasBoth positional) fs xs)
include h

theorem AsDeclared.ownFault?_eq_none (hnodup : (fs.map DeclaredField.name).Nodup) :
    Table.ownFault? name hasBoth [] xs = none := by
  have hxs : xs.map name = fs.map DeclaredField.name ∧ ∀ x ∈ xs, hasBoth x = false := by
    clear hnodup
    induction h with
    | nil => simp
    | cons hfx _ ih =>
      rw [List.map_cons, List.map_cons, List.forall_mem_cons, hfx.name, ih.1]
      exact ⟨rfl, hfx.hasBoth, ih.2⟩
  rw [Table.ownFault?_eq_none_iff, hxs.1]
  exact ⟨by simp, hnodup, hxs.2⟩

theorem AsDeclared.map_misplaced? (seen : Bool) :
    (Table.misplaced? hasDefault seen (xs.filter positional)).map name =
      (misplaced? seen (fs.filter c.isPositional)).map DeclaredField.name := by
  induction h generalizing seen with
  | nil => rfl
  | cons hfx _ ih =>
    rw [List.filter_cons, List.filter_cons, hfx.positional]
    split
    · rw [Table.misplaced?, misplaced?, hfx.hasDefault]
      split
      · exact ih true
      · split
        · exact congrArg some hfx.name
        · exact ih seen
    · exact ih seen

end

/-! ## The fields of a plan -/

variable {c : DeclaredClass} {m : Meaning}

theorem asDeclared_spec (hc : c.Sound) (hkind : c.kind = .record) {f : DeclaredField} {i : Nat}
    (hf : c.fields[i]? = some f) (hm : c.Present m) :
    c.AsDeclared FieldSpec.name FieldSpec.hasDefault FieldSpec.hasBoth RecordDecl.isPositional f
      ((f.plan .record i).spec m) := by
  have hpresent := hm i f hf
  have hslots := hc.slots f (List.mem_of_getElem? hf)
  have hkeyword := hc.keyword hkind
  rw [hkind] at hpresent
  rw [f.spec_plan]
  refine ⟨rfl, ?_, ?_, ?_⟩
  · unfold FieldSpec.hasDefault DeclaredField.hasDefault
    cases hd : f.default <;> cases f.factory <;> simp_all
  · unfold FieldSpec.hasBoth
    cases hd : f.default <;> cases hg : f.factory <;> simp_all
  · have hother : (DeclaredKind.record == .compact) = false := rfl
    simp [RecordDecl.isPositional, isPositional, DeclaredField.inConstructor, hkind, hkeyword,
      hother, Bool.and_comm]

theorem asDeclared_structField (hc : c.Sound) (hkind : c.kind = .compact) {f : DeclaredField}
    {i : Nat} (hf : c.fields[i]? = some f) (hm : c.Present m) {d : StructDecl}
    (hd : d.kwOnly = c.options.kwOnly) :
    c.AsDeclared StructField.name StructField.hasDefault StructField.hasBoth (fun f => !f.kwOnly) f
      (d.ownField ((f.plan .compact i).structField m)) := by
  have hpresent := hm i f hf
  have hslots := hc.slots f (List.mem_of_getElem? hf)
  rw [hkind] at hpresent
  rw [f.structField_plan]
  refine ⟨rfl, ?_, ?_, ?_⟩
  · unfold StructField.hasDefault DeclaredField.hasDefault StructDecl.ownField
    cases hd : f.default <;> cases f.factory <;> simp_all
  · unfold StructField.hasBoth StructDecl.ownField
    cases hd : f.default <;> cases hg : f.factory <;> simp_all
  · simp [StructDecl.ownField, isPositional, DeclaredField.inConstructor, hkind, hd]

theorem asDeclared_recordDecl (hc : c.Sound) (hkind : c.kind = .record) (hm : c.Present m)
    (bases : List RecordClass) : List.Forall₂
      (c.AsDeclared FieldSpec.name FieldSpec.hasDefault FieldSpec.hasBoth RecordDecl.isPositional)
      c.fields (c.plan.recordDecl m bases).fields := by
  apply forall₂_mapIdx
  intro i f hf
  rw [hkind]
  exact asDeclared_spec hc hkind hf hm

theorem asDeclared_structDecl (hc : c.Sound) (hkind : c.kind = .compact) (hm : c.Present m)
    (bases : List StructClass) : List.Forall₂
      (c.AsDeclared StructField.name StructField.hasDefault StructField.hasBoth fun f => !f.kwOnly)
      c.fields ((c.plan.structDecl m bases).fields.map (c.plan.structDecl m bases).ownField) := by
  have hfields : (c.plan.structDecl m bases).fields =
      c.plan.fields.map (FieldPlan.structField m) := rfl
  rw [hfields, List.map_map]
  apply forall₂_mapIdx
  intro i f hf
  rw [hkind]
  exact asDeclared_structField hc hkind hf hm rfl

/-! ## The builds of a plan -/

def firstMisplaced? (c : DeclaredClass) : Option DeclaredField :=
  misplaced? false (c.fields.filter c.isPositional)

variable (hc : c.Sound) (hm : c.Present m) (hnodup : (c.fields.map DeclaredField.name).Nodup)
include hc hm hnodup

theorem build_recordDecl (hkind : c.kind = .record) (id : ClassId) :
    FailsOver ((c.plan.recordDecl m []).build id) (.nonDefaultAfterDefault c.name)
      (c.firstMisplaced?.map DeclaredField.name) := by
  have hdeclared := asDeclared_recordDecl hc hkind hm []
  have hown : (c.plan.recordDecl m []).ownError? = none := by
    rw [RecordDecl.ownError?, AsDeclared.ownFault?_eq_none hdeclared hnodup]
  rw [firstMisplaced?, ← AsDeclared.map_misplaced? hdeclared]
  exact RecordDecl.build_of_no_bases rfl hown id

theorem build_structDecl (hkind : c.kind = .compact) (id : ClassId) :
    FailsOver ((c.plan.structDecl m []).build id) (.requiredAfterOptional c.name)
      (c.firstMisplaced?.map DeclaredField.name) := by
  have hdeclared := asDeclared_structDecl hc hkind hm []
  have hown := StructDecl.ownError?_eq_none (AsDeclared.ownFault?_eq_none hdeclared hnodup)
  rw [firstMisplaced?, ← AsDeclared.map_misplaced? hdeclared]
  exact StructDecl.build_of_no_bases rfl hown id

end DeclaredClass

/-! ## Both checks -/

/-- The error of a build whose fields are out of order. -/
def DeclaredKind.orderError (kind : DeclaredKind) (owner field : String) : FieldError :=
  match kind with
  | .record => .record (.nonDefaultAfterDefault owner field)
  | .compact => .struct (.requiredAfterOptional owner field)

namespace Catalogue

variable {p : ClassPlan} {m : Meaning} {id : ClassId}

theorem outcome_record (hkind : p.kind = .record) : outcome p m id [] =
    (((p.recordDecl m []).build id).mapError .record).map .record := by
  unfold outcome
  rw [hkind]
  rfl

def shown (p : ClassPlan) (t : StructClass) : ClassObject :=
  match p.object with
  | some o => .object ⟨t, o, none⟩
  | none => .struct t

theorem outcome_struct (hkind : p.kind = .compact) : outcome p m id [] =
    (((p.structDecl m []).build id).mapError .struct).map (shown p) := by
  unfold outcome shown
  rw [hkind]
  change ((p.structDecl m []).build id).mapError FieldError.struct >>= _ = _
  cases (p.structDecl m []).build id with
  | error e => rfl
  | ok t => cases p.object <;> rfl

end Catalogue

namespace DeclaredClass

theorem checkOrder_eq (c : DeclaredClass) : c.checkOrder = match c.firstMisplaced? with
    | some f => .error ((DeclarationProblem.requiredAfterDefault f.name).fault f.pos)
    | none => .ok () := rfl

theorem mem_of_misplaced? {f : DeclaredField} {seen : Bool} {fs : List DeclaredField}
    (h : misplaced? seen fs = some f) : f ∈ fs := by
  induction fs generalizing seen with
  | nil => cases h
  | cons g gs ih =>
    rw [misplaced?] at h
    split at h
    · exact List.mem_cons_of_mem g (ih h)
    · split at h
      · exact Option.some.inj h ▸ List.mem_cons_self
      · exact List.mem_cons_of_mem g (ih h)

/-- What comes of the class, if its bases are what `resolve` finds for their paths. -/
def outcome (c : DeclaredClass) (m : Meaning)
    (resolve : List Token → Except FieldError ClassObject) (id : ClassId) :
    Except FieldError ClassObject :=
  Catalogue.outcome c.plan m id (c.plan.bases.map resolve)

variable {c : DeclaredClass} {m : Meaning} {resolve : List Token → Except FieldError ClassObject}
  {id : ClassId}

theorem outcome_record (hbases : c.options.bases = []) (hkind : c.kind = .record) :
    c.outcome m resolve id =
      (((c.plan.recordDecl m []).build id).mapError .record).map .record := by
  have hnone : c.plan.bases = [] := hbases
  rw [outcome, hnone]
  exact Catalogue.outcome_record hkind

theorem outcome_struct (hbases : c.options.bases = []) (hkind : c.kind = .compact) :
    c.outcome m resolve id =
      (((c.plan.structDecl m []).build id).mapError .struct).map (Catalogue.shown c.plan) := by
  have hnone : c.plan.bases = [] := hbases
  rw [outcome, hnone]
  exact Catalogue.outcome_struct hkind

theorem outcome_record_ok (hbases : c.options.bases = []) (hkind : c.kind = .record)
    {b : ClassObject} (h : c.outcome m resolve id = .ok b) :
    ∃ r, (c.plan.recordDecl m []).build id = .ok r ∧ b = .record r := by
  rw [outcome_record hbases hkind] at h
  simpa only [map_ok_iff, mapError_ok_iff] using h

theorem outcome_struct_ok (hbases : c.options.bases = []) (hkind : c.kind = .compact)
    {b : ClassObject} (h : c.outcome m resolve id = .ok b) :
    ∃ t, (c.plan.structDecl m []).build id = .ok t ∧ b = Catalogue.shown c.plan t := by
  rw [outcome_struct hbases hkind] at h
  simpa only [map_ok_iff, mapError_ok_iff] using h

theorem outcome_of_sound (hc : c.Sound) (hm : c.Present m)
    (hnodup : (c.fields.map DeclaredField.name).Nodup) (hbases : c.options.bases = [])
    (resolve : List Token → Except FieldError ClassObject) (id : ClassId) :
    FailsOver (c.outcome m resolve id) (c.kind.orderError c.name)
      (c.firstMisplaced?.map DeclaredField.name) := by
  cases hkind : c.kind with
  | record =>
    rw [outcome_record hbases hkind]
    exact (build_recordDecl hc hm hnodup hkind id).lift FieldError.record ClassObject.record
  | compact =>
    rw [outcome_struct hbases hkind]
    exact (build_structDecl hc hm hnodup hkind id).lift FieldError.struct (Catalogue.shown c.plan)

end DeclaredClass

/-- For a class without bases, the order of the fields is accepted when the declaration is read
exactly if it is accepted when the class is built. Else both checks name the same field. -/
theorem order_checks_agree {rules : Grammar.Rules} {kind : DeclaredKind} {i : Item}
    {c : DeclaredClass} (hparsed : DeclaredClass.parsed rules kind i = .ok c)
    (hbases : c.options.bases = []) (hnodup : (c.fields.map DeclaredField.name).Nodup) {m : Meaning}
    (hm : c.Present m) (resolve : List Token → Except FieldError ClassObject) (id : ClassId) :
    (c.checkOrder = .ok () ↔
      ∀ owner field, c.outcome m resolve id ≠ .error (kind.orderError owner field)) ∧
    ∀ fault, c.checkOrder = .error fault → ∃ f ∈ c.fields,
      fault = (DeclarationProblem.requiredAfterDefault f.name).fault f.pos ∧
        c.outcome m resolve id = .error (kind.orderError c.name f.name) := by
  obtain ⟨rfl, hsound⟩ := DeclaredClass.parsed_ok hparsed
  have houtcome := DeclaredClass.outcome_of_sound hsound hm hnodup hbases resolve id
  rw [DeclaredClass.checkOrder_eq]
  cases hfirst : c.firstMisplaced? with
  | none =>
    rw [hfirst] at houtcome
    obtain ⟨b, hb⟩ := houtcome
    simp [hb]
  | some f =>
    rw [hfirst] at houtcome
    have hf : f ∈ c.fields := (List.mem_filter.mp (DeclaredClass.mem_of_misplaced? hfirst)).1
    constructor
    · simp only [reduceCtorEq, false_iff, not_forall, not_not]
      exact ⟨c.name, f.name, houtcome⟩
    · rintro fault ⟨⟩
      exact ⟨f, hf, rfl, houtcome⟩

namespace Unordered

def helper (kind : DeclaredKind) (content : List Token) : Attribute :=
  ⟨⟨false, [(.start, kind.helper)]⟩, .list content .start⟩

def given (key : String) (value : Token) : List Token :=
  [.word .start key, .punct .start '=' false, value]

def type : List Token := [.word .start "i64"]

/-- A field with a default, a required one that no constructor of a record takes, and another one
that is required. -/
def item (kind : DeclaredKind) : Item :=
  ⟨[], .start, "S", 0, .fields [
    ⟨[helper kind (given "default" (.literal .start "0"))], .start, "a", type⟩,
    ⟨[helper kind (given "init" (.word .start "false"))], .start, "b", type⟩,
    ⟨[], .start, "c", type⟩]⟩

def declared (kind : DeclaredKind) : DeclaredClass :=
  ⟨kind, .start, "S", .plain, [
    { DeclaredField.plain .start "a" type with default := some (.code [.literal .start "0"]) },
    { DeclaredField.plain .start "b" type with init := some false },
    .plain .start "c" type]⟩

def rules : Grammar.Rules := .for 12

theorem parsed_record :
    DeclaredClass.parsed rules .record (item .record) = .ok (declared .record) := rfl

theorem parsed_compact :
    DeclaredClass.parsed rules .compact (item .compact) = .ok (declared .compact) := rfl

def zero : Meaning where
  typeName _ := "i64"
  default _ _ := .scalar (.numbered 0) (.int .i64 0)
  factory _ f := ⟨f.name, 0⟩

theorem present (c : DeclaredClass) : c.Present zero := fun _ _ _ _ _ => rfl

def nowhere : List Token → Except FieldError ClassObject := fun _ => .error (.classification "")

end Unordered

open Unordered in
/-- In a record the third field is out of order, in a struct the second. -/
theorem order_checks_agree_unordered :
    DeclaredClass.parsed rules .record (item .record) = .ok (declared .record) ∧
    DeclaredClass.parsed rules .compact (item .compact) = .ok (declared .compact) ∧
    (∃ f ∈ (declared .record).fields, f.name = "c" ∧
      (declared .record).checkOrder =
        .error ((DeclarationProblem.requiredAfterDefault f.name).fault f.pos) ∧
      (declared .record).outcome zero nowhere ⟨1⟩ =
        .error (.record (.nonDefaultAfterDefault "S" f.name))) ∧
    ∃ f ∈ (declared .compact).fields, f.name = "b" ∧
      (declared .compact).checkOrder =
        .error ((DeclarationProblem.requiredAfterDefault f.name).fault f.pos) ∧
      (declared .compact).outcome zero nowhere ⟨1⟩ =
        .error (.struct (.requiredAfterOptional "S" f.name)) := by
  have hrecord : (declared .record).outcome zero nowhere ⟨1⟩ =
      .error (.record (.nonDefaultAfterDefault "S" "c")) := rfl
  have hcompact : (declared .compact).outcome zero nowhere ⟨1⟩ =
      .error (.struct (.requiredAfterOptional "S" "b")) := rfl
  obtain ⟨-, hrefused⟩ :=
    order_checks_agree parsed_record rfl (by decide) (present _) nowhere ⟨1⟩
  obtain ⟨f, hf, hfault, hbuild⟩ := hrefused _ rfl
  obtain ⟨-, hrefused⟩ :=
    order_checks_agree parsed_compact rfl (by decide) (present _) nowhere ⟨1⟩
  obtain ⟨g, hg, hfault', hbuild'⟩ := hrefused _ rfl
  refine ⟨parsed_record, parsed_compact, ⟨f, hf, ?_, congrArg Except.error hfault, hbuild⟩,
    g, hg, ?_, congrArg Except.error hfault', hbuild'⟩
  · have heq := FieldError.record.inj (Except.error.inj (hbuild.symm.trans hrecord))
    exact (RecordError.nonDefaultAfterDefault.inj heq).2
  · have heq := FieldError.struct.inj (Except.error.inj (hbuild'.symm.trans hcompact))
    exact (StructError.requiredAfterOptional.inj heq).2

end FieldAtlas
