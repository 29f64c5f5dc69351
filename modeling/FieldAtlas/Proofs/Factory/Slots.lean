import FieldAtlas.Proofs.Object.Definition

/-!
# What a field starts with

A declaration says what its field starts with: a value or a factory. Both stay the same wherever the
field is seen later: in the tables of the classes below, in descriptors, in kept lists and in
definitions.
-/

namespace FieldAtlas

/-- A value, or a factory to ask. No value is the missing one. -/
structure Slots where
  default : Value
  factory : Option Factory

def FieldSpec.slots (f : FieldSpec) : Slots := ⟨f.default.orMissing, f.factory.factory?⟩

/-- A default that stands for a factory counts as one. -/
def StructField.slots (f : StructField) : Slots :=
  match f.factory.or f.default.defaultFactory? with
  | some g => ⟨.missing, some g⟩
  | none => ⟨f.default.orMissing, none⟩

def FieldInfo.slots (i : FieldInfo) : Slots := ⟨i.default.orMissing, i.factory.factory?⟩

def Descriptor.slots (d : Descriptor) : Slots := ⟨d.default, d.factory?⟩

/-! ## One field -/

theorem FieldInfo.slots_settled (i : FieldInfo) : i.settled.slots = i.slots := by
  simp [slots, settled, Value.factory?_orMissing]

theorem StructField.slots_info (f : StructField) : f.info.slots = f.slots := by
  unfold FieldInfo.slots slots info entry
  cases f.factory with
  | some g => rfl
  | none =>
    rw [Option.none_or]
    cases hg : f.default.defaultFactory? with
    | some g =>
      simp only [Layout.decode, hg]
      rfl
    | none =>
      simp only [Layout.decode, hg]
      rfl

theorem FieldInfo.map_slots_settled (infos : List FieldInfo) :
    ((infos.map settled).map fun i => (i.name, i.slots)) = infos.map fun i => (i.name, i.slots) := by
  rw [List.map_map]
  apply List.map_congr_left
  intro i _
  exact congrArg (Prod.mk i.name) i.slots_settled

theorem StructField.map_slots_info (fields : List StructField) :
    ((fields.map fun f => f.info.settled).map fun i => (i.name, i.slots)) =
      fields.map fun f => (f.name, f.slots) := by
  rw [List.map_map]
  apply List.map_congr_left
  intro f _
  exact congrArg (Prod.mk f.name) (f.info.slots_settled.trans f.slots_info)

theorem FieldInfo.slots_declaration {i : FieldInfo} (h : i.default.defaultFactory? = none)
    (hboth : i.default.isMissing = true ∨ i.factory.factory? = none) :
    i.declaration.slots = i.slots := by
  unfold StructField.slots slots declaration
  rw [h, Option.or_none]
  cases hg : i.factory.factory? with
  | none => rfl
  | some g =>
    have hmissing : i.default.isMissing = true := by simpa [hg] using hboth
    simp [Value.orMissing, hmissing]

theorem StructClass.slots_spec (t : StructClass) (i : FieldInfo) : (t.spec i).slots = i.slots := by
  simp [FieldSpec.slots, spec, FieldInfo.slots, Value.factory?_orMissing]

/-- What is described is settled already. -/
theorem Descriptor.slots_of_spec {d : Descriptor} {f : FieldSpec} (h : d.spec = f.settled) :
    d.slots = f.slots := by
  have hdefault : d.default = f.default.orMissing := congrArg FieldSpec.default h
  have hfactory : d.factorySlot = f.factory.orMissing := congrArg FieldSpec.factory h
  rw [slots, factory?, hdefault, hfactory, Value.factory?_orMissing]
  rfl

/-! ## One class -/

/-- What each field starts with, by the declarations that the class goes by. -/
def StructClass.declaredSlots (t : StructClass) : List (String × Slots) :=
  t.reference.map fun f => (f.name, f.slots)

def RecordClass.declaredSlots (r : RecordClass) : List (String × Slots) :=
  r.fields.map fun f => (f.name, f.slots)

def ClassObject.declaredSlots (c : ClassObject) : List (String × Slots) :=
  match c.classify with
  | .struct t => t.declaredSlots
  | .record r => r.declaredSlots
  | .neither => []

/-- Such a field is declared by the class whose table it shows, or by one above it. -/
def ClassObject.Declares (c : ClassObject) (e : String × Slots) : Prop :=
  match c.classify with
  | .struct t => ∃ a, t.Derives a ∧ ∃ f ∈ a.own, (f.name, f.slots) = e
  | .record r => ∃ a ∈ r.mro, ∃ f ∈ a.own, (f.name, f.slots) = e
  | .neither => False

namespace Stock

variable {s : Stock}

theorem Reached.slots_infos (hs : s.Reached) {t : StructClass} (ht : t ∈ s.structs) :
    (t.infos.map fun i => (i.name, i.slots)) = t.declaredSlots := by
  rw [← FieldInfo.map_slots_settled, ← hs.map_reference t ht, StructField.map_slots_info]
  rfl

theorem Reached.declares_struct (hs : s.Reached) {t : StructClass} (ht : t ∈ s.structs) :
    ∀ e ∈ t.declaredSlots, ∃ a, t.Derives a ∧ ∃ f ∈ a.own, (f.name, f.slots) = e := by
  rw [StructClass.declaredSlots, List.forall_mem_map]
  intro f hf
  obtain ⟨a, _, hta, hfa⟩ := StructClass.exists_mem_ownFields hs t ht f hf
  obtain ⟨g, hg, rfl⟩ := List.mem_map.mp hfa
  exact ⟨a, hta, g, hg, rfl⟩

theorem Reached.slots_table (hs : s.Reached) {t : StructClass} (ht : t ∈ s.structs) {v : Value}
    (hv : v ∈ t.layout.defaults) {g : Factory} (hg : v.defaultFactory? = some g) :
    ∃ n, (n, ⟨.missing, some g⟩) ∈ t.declaredSlots := by
  obtain ⟨d, hbuilt, _⟩ := hs.exists_structBuilt t ht
  have hordered : t.declaredSlots = d.ordered.map fun f => (f.name, f.slots) := by
    rw [← hs.slots_infos ht, ← FieldInfo.map_slots_settled, hbuilt.settled_infos,
      StructField.map_slots_info]
  rw [hbuilt.layout_eq] at hv
  obtain ⟨f, hf, rfl⟩ := List.mem_map.mp hv
  have hslots : f.slots = ⟨.missing, some g⟩ := by
    have hinfo : f.info.slots = ⟨.missing, some g⟩ := by
      rw [FieldInfo.slots, StructField.info, Layout.decode, hg]
      rfl
    rw [← f.slots_info, hinfo]
  refine ⟨f.name, ?_⟩
  rw [hordered, ← hslots]
  exact List.mem_map_of_mem (List.dropWhile_subset _ hf)

end Stock

/-- No entry is read as a default that stands for a factory, or as both a default and a factory. -/
theorem StructClass.slots_declarations (t : StructClass) :
    (t.layout.declarations.map fun f => (f.name, f.slots)) =
      t.infos.map fun i => (i.name, i.slots) := by
  rw [Layout.declarations, List.map_map]
  apply List.map_congr_left
  intro i hi
  obtain ⟨n, hn, rfl⟩ := List.mem_mapIdx.mp hi
  generalize (t.layout.names.zip t.layout.types).zip _ = rows at hn
  generalize rows[n] = row
  have hslots : ∀ slot, (Layout.decode slot).1.defaultFactory? = none ∧
      ((Layout.decode slot).1.isMissing = true ∨ (Layout.decode slot).2.factory? = none) := by
    intro slot
    cases slot with
    | none => exact ⟨rfl, Or.inl rfl⟩
    | some v =>
      cases hv : v.defaultFactory? with
      | some g => exact ⟨by rw [Layout.decode, hv]; rfl, Or.inl (by rw [Layout.decode, hv]; rfl)⟩
      | none => exact ⟨by rw [Layout.decode, hv]; exact hv, Or.inr (by rw [Layout.decode, hv]; rfl)⟩
  exact congrArg (Prod.mk _) (FieldInfo.slots_declaration (hslots row.2.2).1 (hslots row.2.2).2)

/-! ## Every class of a program -/

namespace Program

variable {p : Program} {c : ClassObject}

theorem Reached.slots_extracted (hp : p.Reached) (hc : c ∈ p.classes) {ds : List Descriptor}
    (h : extractFields c = .ok ds) : (ds.map fun d => (d.name, d.slots)) = c.declaredSlots := by
  -- The descriptors go by their specifications, whichever kind of table these are read off.
  have hslots : ∀ specs : List FieldSpec, ds.map Descriptor.spec = specs.map FieldSpec.settled →
      (ds.map fun d => (d.name, d.slots)) = specs.map fun f => (f.name, f.slots) := by
    intro specs hspecs
    rw [← List.forall₂_eq_eq_eq, List.forall₂_map_left_iff, List.forall₂_map_right_iff] at hspecs ⊢
    refine List.Forall₂.imp ?_ hspecs
    intro d f hd
    exact Prod.ext (congrArg FieldSpec.name hd) (Descriptor.slots_of_spec hd)
  unfold ClassObject.declaredSlots
  rcases classify_of_extractFields h with ⟨t, ht⟩ | ⟨r, hr⟩
  · have hspec := (hp.extracted_struct hc ht h).2
    have hsettled : t.infos.map t.spec = (t.infos.map t.spec).map FieldSpec.settled := by
      rw [List.map_map]
      apply List.map_congr_left
      exact fun i _ => (t.settled_spec i).symm
    rw [ht]
    simp only
    rw [hslots _ (hspec.trans hsettled), List.map_map,
      ← hp.stock.slots_infos (hp.mem_structs_of_classify hc ht)]
    apply List.map_congr_left
    exact fun i _ => Prod.ext rfl (t.slots_spec i)
  · rw [hr]
    exact hslots r.fields (hp.extracted_record hc hr h)

theorem Reached.slots_found (hp : p.Reached) (hc : c ∈ p.classes) {via : Option IntrospectorId}
    {list : FieldList} (h : (p.world.getFields via c).1 = .ok list) :
    (list.fields.map fun d => (d.name, d.slots)) = c.declaredSlots := by
  have hused := (hp.used hp.tables_eq).introspector via
  have hget := World.map_getFields hused (hp.tables_eq c hc)
  rw [h] at hget
  exact hp.slots_extracted hc hget.symm

theorem Reached.slots_kept (hp : p.Reached) (hc : c ∈ p.classes) {via : Option IntrospectorId}
    {list : FieldList} (h : p.world.cached? via c = some list) :
    (list.fields.map fun d => (d.name, d.slots)) = c.declaredSlots :=
  hp.slots_extracted hc
    (((hp.used hp.tables_eq).introspector via).extractFields_of_cached (hp.tables_eq c hc) h)

theorem Reached.slots_shown (hp : p.Reached) (hc : c ∈ p.classes) {via : Option IntrospectorId}
    {config : ObjectConfig} {d : ObjectDefinition}
    (h : (p.world.buildDefinition via c config).1 = .ok d) :
    (d.fields.map fun f => (f.name, f.descriptor.slots)).Sublist c.declaredSlots := by
  obtain ⟨ds, hds, rfl⟩ := hp.buildDefinition_ok hc h
  rw [← hp.slots_extracted hc hds, ObjectDefinition.ofFields, List.map_map]
  exact List.filter_sublist.map _

/-- Wherever the program sees the fields of the class, they start with what was declared for them. -/
structure SharesSlots (p : Program) (c : ClassObject) : Prop where
  declared : ∀ e ∈ c.declaredSlots, c.Declares e
  infos : ∀ t, c.classify = .struct t → (t.infos.map fun i => (i.name, i.slots)) = c.declaredSlots
  declarations : ∀ t, c.classify = .struct t →
    (t.layout.declarations.map fun f => (f.name, f.slots)) = c.declaredSlots
  table : ∀ t, c.classify = .struct t → ∀ v ∈ t.layout.defaults, ∀ g, v.defaultFactory? = some g →
    ∃ n, (n, ⟨.missing, some g⟩) ∈ c.declaredSlots
  extracted : ∀ ds, extractFields c = .ok ds →
    (ds.map fun d => (d.name, d.slots)) = c.declaredSlots
  found : ∀ via list, (p.world.getFields via c).1 = .ok list →
    (list.fields.map fun d => (d.name, d.slots)) = c.declaredSlots
  kept : ∀ via list, p.world.cached? via c = some list →
    (list.fields.map fun d => (d.name, d.slots)) = c.declaredSlots
  shown : ∀ via config d, (p.world.buildDefinition via c config).1 = .ok d →
    (d.fields.map fun f => (f.name, f.descriptor.slots)).Sublist c.declaredSlots
  offered : ∀ strict d, (p.world.definition c strict).1 = .ok (some d) →
    (d.fields.map fun f => (f.name, f.descriptor.slots)).Sublist c.declaredSlots

theorem Reached.sharesSlots (hp : p.Reached) : ∀ c ∈ p.classes, p.SharesSlots c := by
  intro c hc
  refine {
    declared := ?_
    infos := ?_
    declarations := ?_
    table := ?_
    extracted := fun _ => hp.slots_extracted hc
    found := fun _ _ => hp.slots_found hc
    kept := fun _ _ => hp.slots_kept hc
    shown := fun _ _ _ => hp.slots_shown hc
    offered := ?_ }
  · unfold ClassObject.declaredSlots ClassObject.Declares
    cases hclass : c.classify with
    | struct t => exact hp.stock.declares_struct (hp.mem_structs_of_classify hc hclass)
    | record r =>
      simp only [RecordClass.declaredSlots, List.forall_mem_map]
      intro f hf
      obtain ⟨a, ha, hfa⟩ := hp.stock.exists_declaring (hp.mem_records_of_classify hc hclass) hf
      exact ⟨a, ha, f, hfa, rfl⟩
    | neither => simp
  · intro t ht
    rw [hp.stock.slots_infos (hp.mem_structs_of_classify hc ht), ClassObject.declaredSlots, ht]
  · intro t ht
    rw [t.slots_declarations, hp.stock.slots_infos (hp.mem_structs_of_classify hc ht),
      ClassObject.declaredSlots, ht]
  · intro t ht v hv g hg
    rw [ClassObject.declaredSlots, ht]
    exact hp.stock.slots_table (hp.mem_structs_of_classify hc ht) hv hg
  · intro strict d h
    obtain ⟨o, _, hbuild⟩ := World.definition_ok h
    exact hp.slots_shown hc hbuild

end Program

end FieldAtlas
