import FieldAtlas.Declaration.Build

/-!
# What plans come to

The calls on one field come to one specification, one field of a struct or one override. Each says
what the declaration says, and the usual thing where that says nothing.
-/

namespace FieldAtlas

namespace DeclaredField

/-- The remarks put over some metadata, so that the last one under each key stays. -/
def remarks (f : DeclaredField) (metadata : Metadata) : Metadata :=
  f.metadata.foldl (fun d e => e.2.addTo e.1 d) metadata

theorem remarks_nil (f : DeclaredField) :
    f.remarks [] = Dict.ofEntries (f.metadata.filterMap fun e => e.2.value?.map (e.1, ·)) := by
  rw [Dict.ofEntries, Dict.extend, List.foldl_filterMap, remarks]
  congr 1
  funext d e
  rw [Remark.addTo]
  cases e.2.value? <;> rfl

/-! ## Remarks among the calls -/

section

variable (f : DeclaredField)

@[simp] theorem remarks_slotCalls : f.slotCalls.filterMap BuilderCall.remark? = [] := by
  unfold slotCalls
  cases f.default <;> cases f.factory <;> rfl

@[simp] theorem remarks_flagCalls : f.flagCalls.filterMap BuilderCall.remark? = [] := by
  unfold flagCalls
  cases f.repr <;> cases f.compare <;> cases f.init <;> cases f.hash <;> rfl

@[simp] theorem remarks_keywordCalls : f.keywordCalls.filterMap BuilderCall.remark? = [] := by
  unfold keywordCalls
  cases f.kwOnly <;> rfl

@[simp] theorem remarks_metadataCalls :
    f.metadataCalls.filterMap BuilderCall.remark? = f.metadata.map Prod.snd := by
  rw [metadataCalls, List.filterMap_map]
  exact congrFun List.filterMap_eq_map f.metadata

theorem remarks_record :
    (f.calls .record).filterMap BuilderCall.remark? = f.metadata.map Prod.snd := by
  simp [calls]

theorem remarks_compact : (f.calls .compact).filterMap BuilderCall.remark? = [] := by
  simp only [calls, List.filterMap_append, remarks_slotCalls, remarks_keywordCalls]
  cases f.rename <;> rfl

theorem remarks_overrideCalls :
    f.overrideCalls.filterMap BuilderCall.remark? = f.metadata.map Prod.snd := by
  simp [overrideCalls]

end

section

variable (m : Meaning) (p : FieldPlan) (f : DeclaredField)

/-! ## Calls on the specification of a field -/

theorem foldl_slotCalls (s : FieldSpec) : f.slotCalls.foldl (p.onSpec m) s =
    { s with
      default := (f.default.map (m.default p)).getD s.default
      factory :=
        (f.factory.map fun c => .ofScalar (.factory (m.factory p c))).getD s.factory } := by
  unfold slotCalls
  cases f.default <;> cases f.factory <;> rfl

theorem foldl_flagCalls (s : FieldSpec) : f.flagCalls.foldl (p.onSpec m) s =
    { s with
      repr := f.repr.getD s.repr
      compare := f.compare.getD s.compare
      init := f.init.getD s.init
      hash := f.hash.or s.hash } := by
  unfold flagCalls
  cases f.repr <;> cases f.compare <;> cases f.init <;> cases f.hash <;> rfl

theorem foldl_keywordCalls (s : FieldSpec) : f.keywordCalls.foldl (p.onSpec m) s =
    { s with kwOnly := f.kwOnly || s.kwOnly } := by
  unfold keywordCalls
  cases f.kwOnly <;> rfl

theorem foldl_metadataCalls (s : FieldSpec) : f.metadataCalls.foldl (p.onSpec m) s =
    { s with metadata := f.remarks s.metadata } := by
  unfold metadataCalls remarks
  rw [List.foldl_map]
  induction f.metadata generalizing s with
  | nil => rfl
  | cons e es ih => exact ih _

/-! ## Calls on an override -/

theorem after_flagCalls (o : FieldOverride) : f.flagCalls.foldl FieldOverride.after o =
    { o with
      repr := f.repr.or o.repr
      compare := f.compare.or o.compare
      init := f.init.or o.init
      hash := f.hash.or o.hash } := by
  unfold flagCalls
  cases f.repr <;> cases f.compare <;> cases f.init <;> cases f.hash <;> rfl

theorem after_metadataCalls (o : FieldOverride) : f.metadataCalls.foldl FieldOverride.after o =
    { o with metadata := f.remarks o.metadata } := by
  unfold metadataCalls remarks
  rw [List.foldl_map]
  induction f.metadata generalizing o with
  | nil => rfl
  | cons e es ih => exact ih _

theorem ofCalls_overrideCalls : FieldOverride.ofCalls f.overrideCalls =
    ⟨f.repr, f.compare, f.init, f.hash, f.remarks []⟩ := by
  rw [FieldOverride.ofCalls, overrideCalls, List.foldl_append, after_flagCalls, after_metadataCalls]
  simp [FieldOverride.empty]

end

/-! ## Fields -/

variable (m : Meaning) (f : DeclaredField) (i : Nat)

theorem spec_plan : (f.plan .record i).spec m =
    { name := f.name
      type := (f.plan .record i).typeRef m
      default := (f.default.map (m.default (f.plan .record i))).getD .noDefault
      factory := (f.factory.map fun c =>
        .ofScalar (.factory (m.factory (f.plan .record i) c))).getD .noDefault
      repr := f.repr.getD true
      hash := f.hash
      compare := f.compare.getD true
      init := f.init.getD true
      kwOnly := f.kwOnly
      metadata := f.remarks [] } := by
  have hcalls : (f.plan .record i).calls =
      f.slotCalls ++ f.flagCalls ++ f.keywordCalls ++ f.metadataCalls := rfl
  rw [FieldPlan.spec, hcalls, List.foldl_append, List.foldl_append, List.foldl_append,
    foldl_slotCalls, foldl_flagCalls, foldl_keywordCalls, foldl_metadataCalls]
  simp [FieldSpec.plain, plan]

theorem structField_plan : (f.plan .compact i).structField m =
    { name := f.name
      type := (f.plan .compact i).typeRef m
      default := (f.default.map (m.default (f.plan .compact i))).getD .unset
      factory := f.factory.map (m.factory (f.plan .compact i))
      rename := f.rename
      kwOnly := f.kwOnly } := by
  unfold FieldPlan.structField
  have hcalls : (f.plan .compact i).calls =
      f.slotCalls ++ (f.rename.map .rename).toList ++ f.keywordCalls := rfl
  rw [hcalls]
  unfold slotCalls keywordCalls
  cases f.default <;> cases f.factory <;> cases f.rename <;> cases f.kwOnly <;> rfl

end DeclaredField

/-! ## Remarks of a class -/

theorem ClassPlan.mem_remarks_iff {p : ClassPlan} {r : Remark} : r ∈ p.remarks ↔
    (∃ f ∈ p.fields, r ∈ f.calls.filterMap BuilderCall.remark?) ∨
      ∃ o ∈ p.overrides, r ∈ o.2.filterMap BuilderCall.remark? := by
  rw [remarks, List.filterMap_append, List.filterMap_flatMap, List.filterMap_flatMap,
    List.mem_append, List.mem_flatMap, List.mem_flatMap]

namespace DeclaredClass

variable {c : DeclaredClass}

theorem overrides_plan : c.plan.overrides = c.overrides := rfl

theorem overrides_record (hkind : c.kind = .record) : c.overrides = [] := by
  rw [overrides, hkind]

theorem overrides_compact (hkind : c.kind = .compact) : c.overrides =
    (c.fields.map fun f => (f.name, f.overrideCalls)).filter fun o => !o.2.isEmpty := by
  rw [overrides, hkind]

theorem mem_fields_plan {p : FieldPlan} : p ∈ c.plan.fields ↔
    ∃ (i : Nat) (f : DeclaredField), c.fields[i]? = some f ∧ p = f.plan c.kind i := by
  change p ∈ c.fields.mapIdx _ ↔ _
  rw [List.mem_mapIdx]
  constructor
  · rintro ⟨i, hi, rfl⟩
    exact ⟨i, c.fields[i], List.getElem?_eq_getElem hi, rfl⟩
  · rintro ⟨i, f, hf, rfl⟩
    obtain ⟨hi, rfl⟩ := List.getElem?_eq_some_iff.mp hf
    exact ⟨i, hi, rfl⟩

theorem mem_remarks_iff {r : Remark} :
    r ∈ c.plan.remarks ↔ ∃ f ∈ c.fields, ∃ e ∈ f.metadata, e.2 = r := by
  simp only [ClassPlan.mem_remarks_iff, mem_fields_plan, overrides_plan]
  cases hkind : c.kind with
  | record =>
    rw [overrides_record hkind]
    constructor
    · rintro (⟨_, ⟨i, f, hf, rfl⟩, hr⟩ | ⟨_, ⟨⟩, _⟩)
      exact ⟨f, List.mem_of_getElem? hf, List.mem_map.mp (f.remarks_record ▸ hr)⟩
    · rintro ⟨f, hf, he⟩
      obtain ⟨i, hi⟩ := List.getElem?_of_mem hf
      refine .inl ⟨_, ⟨i, f, hi, rfl⟩, ?_⟩
      exact f.remarks_record ▸ List.mem_map.mpr he
  | compact =>
    rw [overrides_compact hkind]
    constructor
    · rintro (⟨_, ⟨i, f, hf, rfl⟩, hr⟩ | ⟨o, ho, hr⟩)
      · change r ∈ (f.calls .compact).filterMap BuilderCall.remark? at hr
        rw [f.remarks_compact] at hr
        cases hr
      · obtain ⟨f, hf, rfl⟩ := List.mem_map.mp (List.mem_filter.mp ho).1
        exact ⟨f, hf, List.mem_map.mp (f.remarks_overrideCalls ▸ hr)⟩
    · rintro ⟨f, hf, he⟩
      have hr : r ∈ f.overrideCalls.filterMap BuilderCall.remark? :=
        f.remarks_overrideCalls ▸ List.mem_map.mpr he
      refine .inr ⟨_, List.mem_filter.mpr ⟨List.mem_map_of_mem hf, ?_⟩, hr⟩
      -- An override with a remark is not left out.
      cases hcalls : f.overrideCalls with
      | nil =>
        rw [hcalls] at hr
        cases hr
      | cons => rfl

theorem compiles_iff :
    c.plan.compiles = true ↔ ∀ f ∈ c.fields, ∀ e ∈ f.metadata, e.2.value?.isSome = true := by
  rw [ClassPlan.compiles, List.all_eq_true]
  simp only [mem_remarks_iff]
  exact ⟨fun h f hf e he => h e.2 ⟨f, hf, e, he, rfl⟩,
    fun h _ ⟨f, hf, e, he, heq⟩ => heq ▸ h f hf e he⟩

end DeclaredClass

end FieldAtlas
