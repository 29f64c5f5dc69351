import FieldAtlas.Proofs.Declaration.Given
import FieldAtlas.Proofs.Declaration.Validity

/-!
# Descriptors of declared fields

A record gets everything that is said about a field with the field itself. A struct gets flags and
metadata as overrides, under the name of the field, and meets them again when its fields are
extracted. Either way the descriptor says what the attributes say.
-/

namespace FieldAtlas

open FieldAtlas.Source

namespace GivenField

variable (g : GivenField)

/-- The name in encoded form, if it is another one. -/
def encodedName? : Option String :=
  match g.last? FieldSetting.rename? with
  | some n => if n = g.name then none else some n
  | none => none

/-- What stands in the metadata under a key: the last value that is given for it, else what the name
in encoded form puts there. -/
def metadata? (key : String) : Option Value :=
  (g.lastValue? key).or
    (if key = "encode_name" then g.encodedName?.map fun n => .ofScalar (.text .owned n) else none)

end GivenField

namespace DeclaredClass

variable (c : DeclaredClass)

def isKeyword (g : GivenField) : Bool := g.kwOnly || c.options.kwOnly

/-- The order of the descriptors. -/
def reported (gs : List GivenField) : List GivenField :=
  match c.kind with
  | .record => gs
  | .compact => (gs.filter fun g => !c.isKeyword g) ++ gs.filter c.isKeyword

/-- What is said of a field is what was said about it. -/
structure Describes (m : Meaning) (g : GivenField) (s : FieldSpec) : Prop where
  name : s.name = g.name
  type : s.type = match g.last? FieldSetting.forward? with
    | some f => .forward f.name
    | none => .resolved (m.typeName g.item.type)
  default : s.default =
    ((g.last? FieldSetting.default?).map (m.default (g.plan c.kind))).getD .missing
  factory : s.factory = ((g.last? FieldSetting.factory?).map fun f =>
    .ofScalar (.factory (m.factory (g.plan c.kind) f))).getD .missing
  repr : s.repr = (g.last? (FieldSetting.flag? .repr)).getD true
  compare : s.compare = (g.last? (FieldSetting.flag? .compare)).getD true
  init : s.init = (g.last? (FieldSetting.flag? .init)).getD true
  hash : s.hash = g.last? (FieldSetting.flag? .hash)
  kwOnly : s.kwOnly = c.isKeyword g
  sorted : Dict.Sorted s.metadata
  metadata : ∀ key, s.metadata.get? key = g.metadata? key

end DeclaredClass

/-! ## Metadata -/

theorem DeclaredField.sorted_remarks (f : DeclaredField) : Dict.Sorted (f.remarks []) := by
  rw [f.remarks_nil]
  exact Dict.sorted_ofEntries _

theorem GivenField.get?_remarks (g : GivenField) (key : String) :
    (g.declared.remarks []).get? key = g.lastValue? key := by
  have hmetadata : g.declared.metadata = g.settings.flatMap FieldSetting.entries := rfl
  unfold DeclaredField.remarks GivenField.lastValue?
  rw [hmetadata]
  induction g.settings.flatMap FieldSetting.entries using List.reverseRecOn with
  | nil => rfl
  | append_singleton es e ih =>
    rw [List.foldl_concat, Remark.addTo, lastOf_concat, ← ih]
    cases e.2.value? with
    | none => simp
    | some v =>
      rw [Dict.get?_insert]
      by_cases h : key = e.1
      · simp [h]
      · simp [h, Ne.symm h]

theorem GivenField.lastValue?_eq (g : GivenField)
    (h : ∀ e ∈ g.declared.metadata, e.2.value?.isSome = true) (key : String) :
    g.lastValue? key = (g.lastRemark? key).bind Remark.value? := by
  have h : ∀ e ∈ g.settings.flatMap FieldSetting.entries, e.2.value?.isSome = true := h
  unfold lastValue? lastRemark?
  generalize g.settings.flatMap FieldSetting.entries = es at h ⊢
  induction es using List.reverseRecOn with
  | nil => rfl
  | append_singleton es e ih =>
    rw [List.forall_mem_append, List.forall_mem_singleton] at h
    obtain ⟨v, hv⟩ := Option.isSome_iff_exists.mp h.2
    rw [lastOf_concat, lastOf_concat, ih h.1]
    by_cases hkey : e.1 = key
    · simp [hkey, hv]
    · simp [hkey]

namespace DeclaredClass

variable {c : DeclaredClass} {m : Meaning} {g : GivenField}

/-! ## Records -/

theorem describes_record (hc : c.Sound) (hkind : c.kind = .record) (hm : c.Present m)
    (hg : c.fields[g.index]? = some g.declared) (hrename : g.declared.rename = none) :
    c.Describes m g ((g.plan .record).spec m).settled := by
  have hpresent := hm g.index g.declared hg
  have hplain : g.encodedName? = none := by
    have hlast : g.last? FieldSetting.rename? = none := hrename
    rw [GivenField.encodedName?, hlast]
  rw [hkind] at hpresent
  rw [GivenField.plan, DeclaredField.spec_plan]
  constructor
  · rfl
  · rfl
  · rw [hkind]
    exact Value.orMissing_getD hpresent Value.isMissing_noDefault
  · rw [hkind]
    exact Value.orMissing_getD (fun _ _ => rfl) Value.isMissing_noDefault
  · rfl
  · rfl
  · rfl
  · rfl
  · rw [isKeyword, hc.keyword hkind, Bool.or_false]
    rfl
  · exact g.declared.sorted_remarks
  · intro key
    rw [GivenField.metadata?, hplain, Option.map_none, ite_self, Option.or_none]
    exact g.get?_remarks key

/-! ## Structs -/

/-- No default that is written means a factory. -/
def Plain (c : DeclaredClass) (m : Meaning) : Prop :=
  ∀ (i : Nat) (f : DeclaredField), c.fields[i]? = some f →
    ∀ d ∈ f.default, (m.default (f.plan c.kind i) d).defaultFactory? = none

def structField (c : DeclaredClass) (m : Meaning) (g : GivenField) : StructField :=
  (c.plan.structDecl m []).ownField ((g.plan .compact).structField m)

theorem structField_eq : c.structField m g =
    { name := g.name
      type := (g.plan .compact).typeRef m
      default := ((g.last? FieldSetting.default?).map (m.default (g.plan .compact))).getD .unset
      factory := (g.last? FieldSetting.factory?).map (m.factory (g.plan .compact))
      rename := g.last? FieldSetting.rename?
      kwOnly := c.isKeyword g } := by
  rw [structField, GivenField.plan, DeclaredField.structField_plan]
  rfl

theorem metadata?_struct (g : GivenField) (key : String) :
    Dict.get? key (if (g.last? FieldSetting.rename?).getD g.name = g.name then g.declared.remarks []
      else (g.declared.remarks []).insertNew "encode_name"
        (.ofScalar (.text .owned ((g.last? FieldSetting.rename?).getD g.name)))) =
    g.metadata? key := by
  rw [GivenField.metadata?, GivenField.encodedName?, ← g.get?_remarks]
  cases g.last? FieldSetting.rename? with
  | none => simp
  | some n =>
    by_cases h : n = g.name
    · simp [h]
    · simp [h, Dict.get?_insertNew]

theorem describes_struct (hc : c.Sound) (hkind : c.kind = .compact) (hm : c.Present m)
    (hplain : c.Plain m) (hnodup : (c.fields.map DeclaredField.name).Nodup)
    (hg : c.fields[g.index]? = some g.declared) {t : StructClass}
    (hbuilt : (c.plan.structDecl m []).Built t) :
    c.Describes m g (t.spec (c.structField m g).info) := by
  have hpresent := hm g.index g.declared hg
  have hfactories := hplain g.index g.declared hg
  have hsaid := override?_getD hkind hnodup hbuilt (List.mem_of_getElem? hg)
  rw [hkind] at hpresent hfactories
  have hboth : (c.structField m g).hasBoth = false :=
    (asDeclared_structField hc hkind hg hm rfl).hasBoth
  have hnone : (c.structField m g).default.defaultFactory? = none := by
    rw [structField_eq]
    cases hd : g.last? FieldSetting.default? with
    | none => rfl
    | some d => exact hfactories d hd
  rw [structField_eq] at hboth hnone ⊢
  rw [t.spec_info hnone hboth hsaid]
  constructor
  · rfl
  · rfl
  · rw [hkind]
    exact Value.orMissing_getD hpresent Value.isMissing_unset
  · rw [hkind, Option.map_map]
    rfl
  · rfl
  · rfl
  · rfl
  · rfl
  · rfl
  · have hsorted := g.declared.sorted_remarks
    simp only
    split
    · exact hsorted
    · exact Dict.sorted_insertNew hsorted _ _
  · exact metadata?_struct g

/-! ## Both kinds -/

theorem forall₂_of_map_eq {α β γ : Type} {f : α → γ} {g : β → γ} {P : α → γ → Prop} {xs : List α}
    {ys : List β} (h : ys.map g = xs.map f) (hP : ∀ x ∈ xs, P x (f x)) :
    List.Forall₂ (fun x y => P x (g y)) xs ys := by
  induction xs generalizing ys with
  | nil =>
    obtain rfl := List.map_eq_nil_iff.mp h
    exact .nil
  | cons x xs ih =>
    obtain ⟨y, ys, rfl, hy, hys⟩ := List.map_eq_cons_iff.mp h
    rw [List.forall_mem_cons] at hP
    exact .cons (hy ▸ hP.1) (ih hys hP.2)

variable {gs : List GivenField} {ds : List Descriptor} {id : ClassId}

theorem fields_recordDecl (hkind : c.kind = .record) (hgs : c.GivenBy gs) :
    (c.plan.recordDecl m []).fields = gs.map fun g => (g.plan .record).spec m := by
  have hfields : (c.plan.recordDecl m []).fields = c.plan.fields.map (FieldPlan.spec m) := rfl
  rw [hfields, hgs.plan_fields, hkind, List.map_map]
  rfl

theorem ownFields_structDecl (hkind : c.kind = .compact) (hgs : c.GivenBy gs) :
    (c.plan.structDecl m []).fields.map (c.plan.structDecl m []).ownField =
      gs.map (c.structField m) := by
  have hfields : (c.plan.structDecl m []).fields = c.plan.fields.map (FieldPlan.structField m) := rfl
  rw [hfields, hgs.plan_fields, hkind, List.map_map, List.map_map]
  rfl

theorem ordered_structDecl (hkind : c.kind = .compact) (hgs : c.GivenBy gs)
    (hown : (c.plan.structDecl m []).ownError? = none) :
    (c.plan.structDecl m []).ordered = (c.reported gs).map (c.structField m) := by
  have hkeyword : ∀ g, (c.structField m g).kwOnly = c.isKeyword g := by
    intro g
    rw [structField_eq]
  rw [StructDecl.ordered, StructDecl.declared_of_no_bases rfl hown, ownFields_structDecl hkind hgs,
    List.filter_map, List.filter_map, ← List.map_append, reported, hkind]
  simp only [Function.comp_def, hkeyword]

theorem mem_of_mem_reported {g : GivenField} (hg : g ∈ c.reported gs) : g ∈ gs := by
  unfold reported at hg
  split at hg
  · exact hg
  · rcases List.mem_append.mp hg with hg | hg
    · exact (List.mem_filter.mp hg).1
    · exact (List.mem_filter.mp hg).1

theorem reported_record (hc : c.Sound) (hkind : c.kind = .record) (hm : c.Present m)
    (hgs : c.GivenBy gs) (hrename : ∀ f ∈ c.fields, f.rename = none) {r : RecordClass}
    (hbuild : (c.plan.recordDecl m []).build id = .ok r) (hextract : r.extract = .ok ds) :
    List.Forall₂ (fun g d => c.Describes m g d.spec) (c.reported gs) ds := by
  obtain ⟨w, hs⟩ := Stock.exists_reached_record rfl hbuild
  have hspecs := (hs.extract_record (List.mem_singleton_self r)).2.1 ds hextract
  rw [(RecordDecl.build_ok hbuild).fields_of_no_bases rfl, fields_recordDecl hkind hgs,
    List.map_map] at hspecs
  rw [reported, hkind]
  refine forall₂_of_map_eq hspecs fun g hg => ?_
  have hfield := hgs.getElem?_fields hg
  exact describes_record hc hkind hm hfield (hrename _ (List.mem_of_getElem? hfield))

theorem reported_struct (hc : c.Sound) (hkind : c.kind = .compact) (hm : c.Present m)
    (hplain : c.Plain m) (hnodup : (c.fields.map DeclaredField.name).Nodup)
    (hgs : c.GivenBy gs) {t : StructClass}
    (hbuild : (c.plan.structDecl m []).build id = .ok t) (hextract : t.extract = .ok ds) :
    List.Forall₂ (fun g d => c.Describes m g d.spec) (c.reported gs) ds := by
  obtain ⟨w, hs⟩ := Stock.exists_reached_struct rfl hbuild
  have hspecs := (hs.extract_struct (List.mem_singleton_self t)).2.1 ds hextract
  obtain ⟨hbuilt, _⟩ := StructDecl.build_ok hbuild
  have hinfos : t.infos.map t.spec =
      (c.reported gs).map fun g => t.spec (c.structField m g).info := by
    calc t.infos.map t.spec
        = (t.infos.map FieldInfo.settled).map t.spec := by
          rw [List.map_map]
          exact List.map_congr_left fun f _ => (t.spec_settled f).symm
      _ = ((c.reported gs).map (c.structField m)).map fun f => t.spec f.info.settled := by
          rw [hbuilt.settled_infos, ordered_structDecl hkind hgs hbuilt.sound, List.map_map]
          rfl
      _ = (c.reported gs).map fun g => t.spec (c.structField m g).info := by
          rw [List.map_map]
          exact List.map_congr_left fun g _ => t.spec_settled _
  rw [hinfos] at hspecs
  refine forall₂_of_map_eq hspecs fun g hg => ?_
  exact describes_struct hc hkind hm hplain hnodup (hgs.getElem?_fields (mem_of_mem_reported hg))
    hbuilt

end DeclaredClass

/-- The descriptors of a class without bases say what the attributes of its fields say: of each key
the last value, and the usual thing where nothing is said. Those of a record come in the order of
declaration, those of a struct with the fields by keyword last. No literal is without a value, if
the code compiles. -/
theorem declaration_described {rules : Grammar.Rules} {kind : DeclaredKind} {i : Item}
    {c : DeclaredClass} (haccepted : DeclaredClass.ofItem rules kind i = .ok c)
    (hbases : c.options.bases = []) (hnodup : (c.fields.map DeclaredField.name).Nodup) {m : Meaning}
    (hm : c.Present m) (hplain : c.Plain m) {resolve : List Token → Except FieldError ClassObject}
    {id : ClassId} {b : ClassObject} (hbuilt : c.outcome m resolve id = .ok b)
    {ds : List Descriptor} (hextract : extractFields b = .ok ds) :
    ∃ gs, GivenField.ofItem rules kind i = .ok gs ∧
      List.Forall₂ (fun g d => c.Describes m g d.spec) (c.reported gs) ds ∧
      (c.plan.compiles = true → ∀ g ∈ gs, ∀ key,
        g.lastValue? key = (g.lastRemark? key).bind Remark.value?) := by
  obtain ⟨hparsed, _⟩ := DeclaredClass.ofItem_ok_iff.mp haccepted
  obtain ⟨rfl, hsound⟩ := DeclaredClass.parsed_ok hparsed
  obtain ⟨gs, hread, hgs⟩ := DeclaredClass.givenBy_of_parsed hparsed
  refine ⟨gs, hread, ?_, fun hcompiles g hg => g.lastValue?_eq ?_⟩
  swap
  · exact DeclaredClass.compiles_iff.mp hcompiles _
      (List.mem_of_getElem? (hgs.getElem?_fields hg))
  cases hkind : c.kind with
  | record =>
    obtain ⟨r, hr, rfl⟩ := DeclaredClass.outcome_record_ok hbases hkind hbuilt
    have hrename := DeclaredClass.rename_of_parsed hparsed hkind
    exact DeclaredClass.reported_record hsound hkind hm hgs hrename hr (mapError_ok_iff.mp hextract)
  | compact =>
    obtain ⟨t, ht, rfl⟩ := DeclaredClass.outcome_struct_ok hbases hkind hbuilt
    rw [Catalogue.extractFields_shown] at hextract
    exact DeclaredClass.reported_struct hsound hkind hm hplain hnodup hgs ht
      (mapError_ok_iff.mp hextract)

namespace Repeated

open Unordered (helper given type)

def comma : Token := .punct .start ',' false

def noted (word : String) : List Token :=
  [.word .start "metadata", .group .parens .start (given "k" (.word .start word)) .start]

/-- Two attributes speak to the first field and give some keys twice. -/
def attributes : List Attribute := [
  helper .compact (given "repr" (.word .start "true") ++ comma :: noted "true" ++
    [comma, .word .start "kw_only"]),
  helper .compact (given "repr" (.word .start "false") ++ comma :: noted "false" ++
    comma :: given "rename" (.literal .start "r\"b\""))]

def items : List FieldItem := [⟨attributes, .start, "a", type⟩, ⟨[], .start, "r#c", type⟩]

def item : Item := ⟨[], .start, "S", 0, .fields items⟩

def settings : List FieldSetting := [
  .flag .repr true, .metadata [("k", .bool true)], .kwOnly,
  .flag .repr false, .metadata [("k", .bool false)], .rename "b"]

def fields : List GivenField := [
  ⟨0, ⟨attributes, .start, "a", type⟩, settings⟩, ⟨1, ⟨[], .start, "r#c", type⟩, []⟩]

def declared : DeclaredClass :=
  ⟨.compact, .start, "S", .plain, fields.map GivenField.declared⟩

end Repeated

open Unordered (rules zero present nowhere) in
open Repeated in
/-- The field by keyword comes last, with the last of its values. -/
theorem declaration_described_repeated : ∃ c b d e,
    DeclaredClass.ofItem rules .compact item = .ok c ∧ c.options.bases = [] ∧
    (c.fields.map DeclaredField.name).Nodup ∧ c.Present zero ∧ c.Plain zero ∧
    c.outcome zero nowhere ⟨1⟩ = .ok b ∧ extractFields b = .ok [d, e] ∧
    (d.name = "c" ∧ d.repr = true) ∧ e.name = "a" ∧ e.repr = false ∧ e.kwOnly = true ∧
    e.metadata.get? "k" = some (.ofScalar (.bool false)) ∧
    e.metadata.get? "encode_name" = some (.ofScalar (.text .owned "b")) := by
  have haccepted : DeclaredClass.ofItem rules .compact item = .ok declared := rfl
  have hnodup : (declared.fields.map DeclaredField.name).Nodup := by decide
  have hplain : declared.Plain zero := fun _ _ _ _ _ => rfl
  obtain ⟨b, hb⟩ : ∃ b, declared.outcome zero nowhere ⟨1⟩ = .ok b := ⟨_, rfl⟩
  obtain ⟨ds, hds⟩ : ∃ ds, extractFields b = .ok ds := by
    obtain rfl := Except.ok.inj hb
    exact ⟨_, rfl⟩
  obtain ⟨gs, hgs, hall, -⟩ :=
    declaration_described haccepted rfl hnodup (present _) hplain hb hds
  have hread : GivenField.ofItem rules .compact item = .ok fields := rfl
  obtain rfl := Except.ok.inj (hgs.symm.trans hread)
  have hreported : declared.reported fields = fields.reverse := rfl
  rw [hreported] at hall
  obtain ⟨d, ds, hd, hrest, rfl⟩ := List.forall₂_cons_left_iff.mp hall
  obtain ⟨e, ds, he, hnil, rfl⟩ := List.forall₂_cons_left_iff.mp hrest
  obtain rfl := List.forall₂_nil_left_iff.mp hnil
  exact ⟨declared, b, d, e, haccepted, rfl, hnodup, present _, hplain, hb, hds,
    ⟨hd.name, hd.repr⟩, he.name, he.repr, he.kwOnly, he.metadata "k", he.metadata "encode_name"⟩

end FieldAtlas
