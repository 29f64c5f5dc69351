import FieldAtlas.Proofs.Introspector
import FieldAtlas.Proofs.Migration.Shared
import FieldAtlas.Proofs.Record.Supplier
import FieldAtlas.Proofs.Struct.Inheritance

/-!
# Chains of classes in both forms

A chain of shared classes, each on the one before it, comes out alike in both forms: the same build
fails, for the same reason, and what has been built is described alike.
-/

namespace FieldAtlas

/-- The error of a struct class for the same fault of the same field. -/
def RecordError.counterpart? : RecordError → Option StructError
  | duplicateField owner field => some (.duplicateField owner field)
  | defaultAndFactory owner field => some (.defaultAndFactory owner field)
  | nonDefaultAfterDefault owner field => some (.requiredAfterOptional owner field)
  | inconsistentHierarchy _ _ => none

/-- A record class and a struct class at the end of one chain of shared classes, or none of either
at its start. Whatever else is built may come in between. -/
inductive Twins (s : Stock) : Option RecordClass → Option StructClass → Prop
  | start : Twins s none none
  | next {rb : Option RecordClass} {tb : Option StructClass} {c : SharedClass} {r : RecordClass}
      {t : StructClass} : Twins s rb tb → r ∈ s.records → t ∈ s.structs →
      (c.record rb).build r.id = .ok r → (c.struct tb).build t.id = .ok t →
      Twins s (some r) (some t)

/-- The invariant of a chain: `fs` is the table of both classes. -/
structure Alike (fs : List SharedField) (r : RecordClass) (t : StructClass) : Prop where
  name_eq : r.name = t.name
  nodup : (fs.map SharedField.name).Nodup
  exclusive : ∀ f ∈ fs, f.hasBoth = false
  record : r.fields = fs.map SharedField.record
  struct : t.infos.map FieldInfo.settled = fs.map fun f => f.struct.info.settled
  override : ∀ n, t.override? n = (fs.find? fun f => f.name == n).map SharedField.override

/-- The same for what a next class is built on. -/
inductive AlikeBases : List SharedField → Option RecordClass → Option StructClass → Prop
  | start : AlikeBases [] none none
  | next {fs : List SharedField} {r : RecordClass} {t : StructClass} :
      Alike fs r t → AlikeBases fs (some r) (some t)

section

variable {fs : List SharedField} {rb : Option RecordClass} {tb : Option StructClass}

theorem AlikeBases.nodup (h : AlikeBases fs rb tb) : (fs.map SharedField.name).Nodup := by
  cases h with
  | start => exact List.nodup_nil
  | next h => exact h.nodup

theorem AlikeBases.exclusive (h : AlikeBases fs rb tb) : ∀ f ∈ fs, f.hasBoth = false := by
  cases h with
  | start => simp
  | next h => exact h.exclusive

theorem AlikeBases.override (h : AlikeBases fs rb tb) (n : String) :
    (tb.toList.findSome? fun t => t.override? n) =
      (fs.find? fun f => f.name == n).map SharedField.override := by
  cases h with
  | start => rfl
  | @next _ _ t h =>
    rw [← h.override n, Option.toList_some, List.findSome?_cons, List.findSome?_nil]
    cases t.override? n <;> rfl

end

/-! ## The tables of a next class -/

namespace SharedClass

def table (c : SharedClass) (fs : List SharedField) : List SharedField :=
  Table.putAll SharedField.name fs c.fields

variable {s : Stock} {fs : List SharedField} {rb : Option RecordClass} {tb : Option StructClass}

theorem record_table (hs : s.Reached) (hrb : ∀ r ∈ rb, r ∈ s.records) (h : AlikeBases fs rb tb)
    (c : SharedClass) : ∃ ancestors, (c.record rb).ancestors? = some ancestors ∧
      (c.record rb).table ancestors = (c.table fs).map SharedField.record := by
  have hname : ∀ f : SharedField, f.record.name = f.name := fun _ => rfl
  unfold table
  rw [Table.map_putAll_map hname]
  cases h with
  | start => exact ⟨[], rfl, rfl⟩
  | @next _ r _ h =>
    have hr := hrb r rfl
    refine ⟨r.mro, hs.ancestors?_of_single hr rfl, ?_⟩
    rw [hs.table_of_single hr, h.record]
    rfl

theorem ownField_struct (c : SharedClass) (tb : Option StructClass) :
    (c.struct tb).fields.map (c.struct tb).ownField = c.fields.map SharedField.struct := by
  rw [struct, List.map_map]
  rfl

theorem struct_table (hs : s.Reached) (htb : ∀ t ∈ tb, t ∈ s.structs) (h : AlikeBases fs rb tb)
    (c : SharedClass) : ((c.struct tb).declared.map fun f => f.info.settled) =
      (c.table fs).map fun f => f.struct.info.settled := by
  have hname : ∀ f : SharedField, f.struct.info.settled.name = f.name := fun _ => rfl
  have hinfo : ∀ f : StructField, f.info.settled.name = f.name := fun _ => rfl
  have hown : ((c.fields.map SharedField.struct).map fun f => f.info.settled) =
      c.fields.map fun f => f.struct.info.settled := by
    rw [List.map_map]
    rfl
  unfold table
  rw [Table.map_putAll_map hname]
  cases h with
  | start =>
    have hdeclared : (c.struct none).declared =
        Table.putAll StructField.name [] (c.fields.map SharedField.struct) := by
      rw [← c.ownField_struct none]
      rfl
    rw [hdeclared, Table.map_putAll_map hinfo, hown]
    rfl
  | @next _ _ t h =>
    rw [hs.declared_of_single (htb t rfl) rfl, c.ownField_struct (some t),
      Table.map_putAll_map hinfo, t.map_settled_declarations, h.struct, hown]

/-! ## The checks of a next class -/

def fault? (c : SharedClass) : Option (Table.OwnFault × String) :=
  Table.ownFault? SharedField.name SharedField.hasBoth [] c.fields

theorem fault?_record (c : SharedClass) :
    Table.ownFault? FieldSpec.name FieldSpec.hasBoth [] (c.record rb).fields = c.fault? :=
  Table.ownFault?_map (fun _ => rfl) SharedField.hasBoth_record [] c.fields

theorem fault?_struct (c : SharedClass) :
    Table.ownFault? StructField.name StructField.hasBoth [] (c.struct tb).fields = c.fault? :=
  Table.ownFault?_map (fun _ => rfl) SharedField.hasBoth_struct [] c.fields

def misplaced? (c : SharedClass) (fs : List SharedField) : Option SharedField :=
  Table.misplaced? SharedField.hasDefault false (c.table fs)

theorem misplaced?_record (c : SharedClass) :
    RecordDecl.misplaced? ((c.table fs).map SharedField.record) =
      (c.misplaced? fs).map SharedField.record := by
  have hall : ((c.table fs).map SharedField.record).filter RecordDecl.isPositional =
      (c.table fs).map SharedField.record := by
    rw [List.filter_eq_self, List.forall_mem_map]
    exact fun f _ => f.isPositional_record
  rw [RecordDecl.misplaced?, hall, Table.misplaced?_map SharedField.hasDefault_record]
  rfl

theorem kwOnly_of_mem_declared {c : SharedClass} {d : StructDecl}
    (htable : (d.declared.map fun f => f.info.settled) = (c.table fs).map fun f => f.struct.info.settled)
    {f : StructField} (hf : f ∈ d.declared) : f.kwOnly = false := by
  have hmem : f.info.settled ∈ (d.declared.map fun f => f.info.settled) := List.mem_map_of_mem hf
  rw [htable] at hmem
  obtain ⟨g, _, hg⟩ := List.mem_map.mp hmem
  exact (congrArg FieldInfo.kwOnly hg).symm

theorem misplaced?_struct {c : SharedClass} {d : StructDecl}
    (htable : (d.declared.map fun f => f.info.settled) = (c.table fs).map fun f => f.struct.info.settled) :
    (Table.misplaced? StructField.hasDefault false (d.declared.filter fun f => !f.kwOnly)).map
        StructField.name = (c.misplaced? fs).map SharedField.name := by
  have hall : (d.declared.filter fun f => !f.kwOnly) = d.declared := by
    rw [List.filter_eq_self]
    intro f hf
    simp [kwOnly_of_mem_declared htable hf]
  let present : FieldInfo → Bool := fun i => !i.required
  have hstruct : ∀ f : StructField, present f.info.settled = f.hasDefault := by
    intro f
    simp only [present, FieldInfo.required_settled, StructField.hasDefault_eq_required]
  have hshared : ∀ f : SharedField, present f.struct.info.settled = f.hasDefault := by
    intro f
    rw [hstruct, SharedField.hasDefault_struct]
  have hdeclared := Table.misplaced?_map hstruct false d.declared
  rw [htable, Table.misplaced?_map hshared] at hdeclared
  have hname := congrArg (Option.map FieldInfo.name) hdeclared
  rw [Option.map_map, Option.map_map] at hname
  rw [hall]
  exact hname.symm

/-! ## The overrides of a next class -/

theorem get?_mergedOverrides (hs : s.Reached) (htb : ∀ t ∈ tb, t ∈ s.structs)
    (h : AlikeBases fs rb tb) {c : SharedClass} (hown : (c.fields.map SharedField.name).Nodup)
    (n : String) : (c.struct tb).mergedOverrides.get? n =
      ((c.table fs).find? fun f => f.name == n).map SharedField.override := by
  have hbases : ∀ t ∈ tb.toList, t.overrides.keys.Nodup := by
    intro t ht
    exact hs.nodup_overrides (htb t (Option.mem_toList.mp ht))
  have hkeys : c.overrides.keys.Nodup := Dict.nodup_keys (Dict.sorted_ofEntries _)
  have hnames : (c.struct tb).fields.map StructField.name = c.fields.map SharedField.name := by
    rw [struct, List.map_map]
    rfl
  have hinherited := StructDecl.get?_foldl_extend hbases n
  rw [h.override] at hinherited
  rw [StructDecl.mergedOverrides, table, Table.find?_putAll SharedField.name hown]
  change (Dict.extend _ c.overrides).get? n = _
  rw [Dict.get?_extend hkeys, Dict.get?_foldl_erase, hnames]
  rw [show (c.struct tb).bases = tb.toList from rfl, hinherited, overrides,
    Dict.get?_ofEntries hown]
  -- An own field has its own override. What is inherited has lost only the overrides of own fields.
  have hmem := Table.isSome_find?_iff SharedField.name c.fields n
  cases hfind : c.fields.find? fun f => f.name == n with
  | some f =>
    rw [hfind] at hmem
    rw [if_pos (hmem.mp rfl)]
    rfl
  | none =>
    rw [hfind] at hmem
    rw [if_neg fun hn => by simpa using hmem.mpr hn]
    rfl

/-! ## The build of a next class -/

theorem build_next (hs : s.Reached) (hrb : ∀ r ∈ rb, r ∈ s.records) (htb : ∀ t ∈ tb, t ∈ s.structs)
    (h : AlikeBases fs rb tb) (c : SharedClass) (rid tid : ClassId) :
    (∃ e e', (c.record rb).build rid = .error e ∧ (c.struct tb).build tid = .error e' ∧
      e.counterpart? = some e') ∨
    ∃ r t, (c.record rb).build rid = .ok r ∧ (c.struct tb).build tid = .ok t ∧
      Alike (c.table fs) r t := by
  obtain ⟨ancestors, hancestors, hrecord⟩ := record_table hs hrb h c
  have hstruct := struct_table hs htb h c
  have hmisplaced := misplaced?_struct hstruct
  unfold RecordDecl.build RecordDecl.ownError? StructDecl.build StructDecl.ownError?
  rw [fault?_record, fault?_struct]
  -- Both builds look at the own fields first. A chain always has an order, so that only the places
  -- of the fields can be wrong then.
  rcases hfault : c.fault? with _ | ⟨_ | _, n⟩
  · simp only [hancestors, hrecord, misplaced?_record]
    cases hplaced : c.misplaced? fs with
    | some f =>
      rw [hplaced, Option.map_some, Option.map_eq_some_iff] at hmisplaced
      obtain ⟨g, hg, hname⟩ := hmisplaced
      left
      simp only [hg, Option.map_some]
      exact ⟨_, _, rfl, rfl, by rw [hname]; rfl⟩
    | none =>
      rw [hplaced, Option.map_none, Option.map_eq_none_iff] at hmisplaced
      obtain ⟨_, hown, hexclusive⟩ := (Table.ownFault?_eq_none_iff _ _ _ _).mp hfault
      right
      simp only [hmisplaced, Option.map_none]
      refine ⟨_, _, rfl, rfl, rfl, ?_, ?_, rfl, ?_, ?_⟩
      · exact Table.nodup_putAll SharedField.name h.nodup c.fields
      · intro f hf
        rcases Table.mem_of_mem_putAll SharedField.name hf with hf | hf
        · exact hexclusive f hf
        · exact h.exclusive f hf
      · change (c.struct tb).layout.infos.map FieldInfo.settled = _
        rw [StructDecl.settled_infos_layout, StructDecl.ordered_eq_declared, hstruct]
        exact fun f hf => kwOnly_of_mem_declared hstruct hf
      · exact get?_mergedOverrides hs htb h hown
  · exact Or.inl ⟨_, _, rfl, rfl, rfl⟩
  · exact Or.inl ⟨_, _, rfl, rfl, rfl⟩

end SharedClass

/-! ## The view of a class -/

/-- The two classes are described alike, and so are their definitions under the same settings,
whatever the introspectors have kept. -/
structure SameView (r : RecordClass) (t : StructClass) : Prop where
  fields : ∃ ds es, extractFields (.record r) = .ok ds ∧ extractFields (.struct t) = .ok es ∧
    List.Forall₂ (fun d e => Descriptor.same d e = true) ds es
  definition : ∀ (tables tables' : ClassId → Classification) (w v : World)
    (i j : Option IntrospectorId) (config : ObjectConfig), tables r.id = .record r →
    tables' t.id = .struct t → (w.introspector i).Used tables → (v.introspector j).Used tables' →
    (w.introspector i).settings = (v.introspector j).settings →
    ∃ d e, (w.buildDefinition i (.record r) config).1 = .ok d ∧
      (v.buildDefinition j (.struct t) config).1 = .ok e ∧ d.name = e.name ∧
      ObjectDefinition.sameFields d.fields e.fields = true

namespace Alike

variable {fs : List SharedField} {r : RecordClass} {t : StructClass}

theorem names_infos (h : Alike fs r t) : t.infos.map FieldInfo.name = fs.map SharedField.name := by
  have hnames := congrArg (List.map FieldInfo.name) h.struct
  rw [List.map_map, List.map_map] at hnames
  exact hnames

theorem unknownOverride? (h : Alike fs r t) : t.unknownOverride? = none := by
  rw [t.unknownOverride?_eq_none_iff, h.names_infos]
  intro k hk
  rw [Dict.mem_keys_iff] at hk
  change (t.override? k).isSome at hk
  rwa [h.override, Option.isSome_map, Table.isSome_find?_iff] at hk

theorem extract_record (h : Alike fs r t) : r.extract = .ok (fs.map SharedField.descriptor) := by
  rw [RecordClass.extract, h.record, List.mapM_map]
  exact mapM_eq_ok_map fun f hf => SharedField.describe_record (h.exclusive f hf) r

theorem extract_struct (h : Alike fs r t) : t.extract = .ok (fs.map SharedField.descriptor) := by
  rw [t.extract_eq_settled h.unknownOverride?, h.struct, List.mapM_map]
  apply mapM_eq_ok_map
  intro f hf
  apply SharedField.describe_struct (h.exclusive f hf)
  rw [h.override, Table.find?_of_mem SharedField.name h.nodup hf]
  rfl

theorem sameView (h : Alike fs r t) : SameView r t := by
  have hrecord : extractFields (.record r) = .ok (fs.map SharedField.descriptor) := by
    change r.extract.mapError FieldError.configuration = _
    rw [h.extract_record]
    rfl
  have hstruct : extractFields (.struct t) = .ok (fs.map SharedField.descriptor) := by
    change t.extract.mapError FieldError.configuration = _
    rw [h.extract_struct]
    rfl
  refine ⟨⟨_, _, hrecord, hstruct, ?_⟩, ?_⟩
  · rw [List.forall₂_map_left_iff, List.forall₂_map_right_iff]
    exact List.forall₂_same.mpr fun f _ => f.same_descriptor
  intro tables tables' w v i j config hr ht hi hj hsettings
  have hcr : (ClassObject.record r).classify = tables (ClassObject.record r).id := hr.symm
  have hct : (ClassObject.struct t).classify = tables' (ClassObject.struct t).id := ht.symm
  refine ⟨_, _, World.buildDefinition_eq hi hcr hrecord config,
    World.buildDefinition_eq hj hct hstruct config, ?_, ?_⟩
  · exact congrArg config.name.getD h.name_eq
  rw [hsettings]
  apply ObjectDefinition.sameFields_ofFields
  intro d hd
  obtain ⟨f, _, rfl⟩ := List.mem_map.mp hd
  exact f.same_descriptor

end Alike

/-! ## Chains -/

theorem Twins.alikeBases {s : Stock} (hs : s.Reached) {rb : Option RecordClass}
    {tb : Option StructClass} (h : Twins s rb tb) :
    (∀ r ∈ rb, r ∈ s.records) ∧ (∀ t ∈ tb, t ∈ s.structs) ∧ ∃ fs, AlikeBases fs rb tb := by
  induction h with
  | start => exact ⟨by simp, by simp, [], .start⟩
  | @next rb tb c r t _ hr ht hrecord hstruct ih =>
    obtain ⟨hrb, htb, fs, hfs⟩ := ih
    refine ⟨by simpa using hr, by simpa using ht, c.table fs, ?_⟩
    rcases SharedClass.build_next hs hrb htb hfs c r.id t.id with ⟨e, _, he, _, _⟩ | ⟨r', t', hr', ht', halike⟩
    · rw [hrecord] at he
      cases he
    · rw [hrecord] at hr'
      rw [hstruct] at ht'
      cases hr'
      cases ht'
      exact .next halike

inductive Outcome : Except RecordError RecordClass → Except StructError StructClass → Prop
  | failed {e : RecordError} {e' : StructError} : e.counterpart? = some e' →
      Outcome (.error e) (.error e')
  | built {r : RecordClass} {t : StructClass} : SameView r t → Outcome (.ok r) (.ok t)

/-- At every class of a chain the two builds come to the same. -/
theorem migration_exact {s : Stock} (hs : s.Reached) {rb : Option RecordClass}
    {tb : Option StructClass} (h : Twins s rb tb) (c : SharedClass) (w v : World) :
    Outcome (w.buildRecord (c.record rb)).1 (v.buildStruct (c.struct tb)).1 := by
  obtain ⟨hrb, htb, fs, hfs⟩ := h.alikeBases hs
  unfold World.buildRecord World.buildStruct
  rcases SharedClass.build_next hs hrb htb hfs c w.nextClass v.nextClass with
    ⟨e, e', he, he', hcounterpart⟩ | ⟨r, t, hr, ht, halike⟩
  · rw [he, he']
    exact .failed hcounterpart
  · rw [hr, ht]
    exact .built halike.sameView

namespace Pair

def field : SharedField where
  name := "n"
  type := .resolved "i64"
  default := some (.scalar (.numbered 1) (.int .i64 1))
  factory := none
  repr := some false
  compare := none
  init := none
  hash := none
  metadata := []
  held_default := by simp [Value.Held, Value.place]
  plain_default := by simp [Value.defaultFactory?]
  held_metadata := by simp
  taken := rfl

def base : SharedClass := ⟨"Base", [field], none, false⟩

/-- Declares nothing. -/
def next : SharedClass := ⟨"Next", [], none, false⟩

def record : RecordClass :=
  ⟨⟨1⟩, "Base", [], [], [field.record], [field.record], .named "Base"⟩

def struct : StructClass :=
  ⟨⟨2⟩, "Base", [], [field.struct], [("n", field.override)], false, .ofFields 1 [field.struct],
    [("n", field.override)], false⟩

theorem reached : ∃ w, Stock.Reached ⟨w, [record], [struct]⟩ := by
  obtain ⟨w₁, h₁, n₁⟩ := (Stock.Reached.start (.start ⟨1⟩ 0 [])).record (d := base.record none)
    (c := record) (by simp [SharedClass.record]) rfl
  obtain ⟨w₂, h₂, _⟩ := h₁.struct (d := base.struct none) (c := struct) (by simp [SharedClass.struct])
    (by rw [n₁]; rfl)
  exact ⟨w₂, h₂⟩

theorem twins (w : World) : Twins ⟨w, [record], [struct]⟩ (some record) (some struct) :=
  .next (c := base) .start List.mem_cons_self List.mem_cons_self rfl rfl

end Pair

open Pair in
/-- A class that declares nothing inherits field and override in both forms. -/
theorem migration_exact_next : ∃ w, Stock.Reached ⟨w, [record], [struct]⟩ ∧
    Twins ⟨w, [record], [struct]⟩ (some record) (some struct) ∧
    ∃ r t, w.buildRecord (next.record (some record)) = (.ok r, t) ∧
      Outcome (.ok r) (t.buildStruct (next.struct (some struct))).1 := by
  obtain ⟨w, hw⟩ := reached
  have h := migration_exact hw (twins w) next w (w.buildRecord (next.record (some record))).2
  exact ⟨w, hw, twins w, _, _, rfl, h⟩

end FieldAtlas
