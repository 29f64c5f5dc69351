import FieldAtlas.Proofs.Domain
import FieldAtlas.Proofs.Program
import FieldAtlas.Proofs.Request

/-!
# What an object definition shows

A definition shows the extracted fields that are not private, in their order. Their names are
distinct, since those of any table are.
-/

namespace FieldAtlas

namespace ObjectDefinition

@[simp] theorem name_ofDescriptor (auto : Bool) (d : Descriptor) :
    (ObjectField.ofDescriptor auto d).name = d.name := rfl

theorem mem_fields_ofFields {c : ClassObject} {config : ObjectConfig} {auto : Bool}
    {ds : List Descriptor} {f : ObjectField} : f ∈ (ofFields c config auto ds).fields ↔
      ∃ d ∈ ds, ObjectField.isPrivate d = false ∧ f = .ofDescriptor auto d := by
  simp only [ofFields, List.mem_map, List.mem_filter, Bool.not_eq_true', and_assoc]
  simp only [eq_comm]

theorem field?_eq_none_iff (d : ObjectDefinition) (n : String) :
    d.field? n = none ↔ ∀ f ∈ d.fields, f.name ≠ n := by
  simp [field?]

theorem field?_ofFields_eq_none_iff (c : ClassObject) (config : ObjectConfig) (auto : Bool)
    (ds : List Descriptor) (n : String) : (ofFields c config auto ds).field? n = none ↔
      ∀ d ∈ ds, d.name = n → ObjectField.isPrivate d = true := by
  rw [field?_eq_none_iff]
  constructor
  · intro h d hd hn
    by_contra hshown
    have hf : .ofDescriptor auto d ∈ (ofFields c config auto ds).fields :=
      mem_fields_ofFields.mpr ⟨d, hd, by simpa using hshown, rfl⟩
    exact h _ hf hn
  · intro h f hf hn
    obtain ⟨d, hd, hshown, rfl⟩ := mem_fields_ofFields.mp hf
    rw [h d hd hn] at hshown
    cases hshown

theorem map_name_ofFields (c : ClassObject) (config : ObjectConfig) (auto : Bool)
    (ds : List Descriptor) : (ofFields c config auto ds).fields.map ObjectField.name =
      (ds.filter fun d => !ObjectField.isPrivate d).map Descriptor.name := by
  rw [ofFields, List.map_map]
  rfl

end ObjectDefinition

/-! ## Extraction in a program -/

namespace ClassObject

variable {c : ClassObject}

theorem structTable?_of_classify {t : StructClass} (h : c.classify = .struct t) :
    c.structTable? = some t := by
  unfold classify at h
  split at h
  · rename_i ht
    obtain rfl := Classification.struct.inj h
    exact ht
  · split at h <;> cases h

theorem recordTable?_of_classify {r : RecordClass} (h : c.classify = .record r) :
    c.recordTable? = some r := by
  unfold classify at h
  split at h
  · cases h
  · split at h
    · rename_i hr
      obtain rfl := Classification.record.inj h
      exact hr
    · cases h

end ClassObject

namespace Program

variable {p : Program} {c : ClassObject} {ds : List Descriptor}

theorem Reached.mem_structs_of_classify (hp : p.Reached) (hc : c ∈ p.classes) {t : StructClass}
    (h : c.classify = .struct t) : t ∈ p.stock.structs :=
  (mem_structs t).mpr ((hp.founded c hc).struct t (c.structTable?_of_classify h)).1

theorem Reached.mem_records_of_classify (hp : p.Reached) (hc : c ∈ p.classes) {r : RecordClass}
    (h : c.classify = .record r) : r ∈ p.stock.records :=
  (mem_records r).mpr ((hp.founded c hc).record r (c.recordTable?_of_classify h)).1

theorem Reached.extracted_struct (hp : p.Reached) (hc : c ∈ p.classes) {t : StructClass}
    (hclass : c.classify = .struct t) (h : extractFields c = .ok ds) :
    (∀ k ∈ t.overrides.keys, k ∈ t.layout.names) ∧ ds.map Descriptor.spec = t.infos.map t.spec := by
  rw [extractFields, hclass, mapError_ok_iff] at h
  obtain ⟨hdomain, hspec, _⟩ := hp.stock.extract_struct (hp.mem_structs_of_classify hc hclass)
  exact ⟨(hdomain.mp ⟨ds, h⟩).1, hspec ds h⟩

theorem Reached.extracted_record (hp : p.Reached) (hc : c ∈ p.classes) {r : RecordClass}
    (hclass : c.classify = .record r) (h : extractFields c = .ok ds) :
    ds.map Descriptor.spec = r.fields.map FieldSpec.settled := by
  rw [extractFields, hclass, mapError_ok_iff] at h
  obtain ⟨_, hspec, _⟩ := hp.stock.extract_record (hp.mem_records_of_classify hc hclass)
  exact hspec ds h

theorem classify_of_extractFields (h : extractFields c = .ok ds) :
    (∃ t, c.classify = .struct t) ∨ ∃ r, c.classify = .record r := by
  unfold extractFields at h
  cases hclass : c.classify with
  | struct t => exact Or.inl ⟨t, rfl⟩
  | record r => exact Or.inr ⟨r, rfl⟩
  | neither =>
    rw [hclass] at h
    cases h

theorem map_name_of_spec {specs : List FieldSpec} (h : ds.map Descriptor.spec = specs) :
    ds.map Descriptor.name = specs.map FieldSpec.name := by
  rw [← h, List.map_map]
  rfl

theorem Reached.nodup_names (hp : p.Reached) (hc : c ∈ p.classes) (h : extractFields c = .ok ds) :
    (ds.map Descriptor.name).Nodup := by
  rcases classify_of_extractFields h with ⟨t, ht⟩ | ⟨r, hr⟩
  · have hnames := hp.stock.nodup_infos (hp.mem_structs_of_classify hc ht)
    rw [List.map_map] at hnames
    rw [map_name_of_spec (hp.extracted_struct hc ht h).2, List.map_map]
    exact hnames
  · have hnames := hp.stock.nodup_fields (hp.mem_records_of_classify hc hr)
    rw [map_name_of_spec (hp.extracted_record hc hr h), List.map_map]
    exact hnames

/-- A definition is one of what extraction gives, whatever has been kept. -/
theorem Reached.buildDefinition_ok (hp : p.Reached) (hc : c ∈ p.classes)
    {via : Option IntrospectorId} {config : ObjectConfig} {d : ObjectDefinition}
    (h : (p.world.buildDefinition via c config).1 = .ok d) :
    ∃ ds, extractFields c = .ok ds ∧
      d = .ofFields c config (p.world.introspector via).settings.autoCamelCase ds := by
  have hused := (hp.used hp.tables_eq).introspector via
  rw [World.buildDefinition_fst, World.map_getFields hused (hp.tables_eq c hc)] at h
  cases hds : extractFields c with
  | error e =>
    rw [hds] at h
    cases h
  | ok ds =>
    rw [hds] at h
    exact ⟨ds, rfl, (Except.ok.inj h).symm⟩

end Program

theorem World.definition_ok {w : World} {c : ClassObject} {strict : Bool} {d : ObjectDefinition}
    (h : (w.definition c strict).1 = .ok (some d)) : ∃ o, c.capability? = some o ∧
      (w.buildDefinition o.via c o.config).1 = .ok d := by
  cases ho : c.capability? with
  | none =>
    unfold World.definition at h
    rw [ho] at h
    cases strict <;> simp at h
  | some o =>
    rw [World.definition_of_capability ho] at h
    refine ⟨o, rfl, ?_⟩
    cases hd : (w.buildDefinition o.via c o.config).1 with
    | error e => simp [hd, Except.map] at h
    | ok d' => simpa [hd, Except.map] using h

end FieldAtlas
