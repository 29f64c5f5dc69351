import FieldAtlas.Proofs.Extract
import FieldAtlas.Proofs.Record.Supplier
import FieldAtlas.Proofs.Struct.Inheritance
import FieldAtlas.Proofs.World

/-!
# Where values come from

Classes, descriptors and kept lists hold the values that were declared. What building and extraction
put in besides is a marker, a factory that is wrapped, or a name.
-/

namespace FieldAtlas

/-- What building and extraction put in. -/
inductive Value.Added : Value → Prop
  | marker (m : Marker) : Added (ofMarker m)
  | factory (f : Factory) : Added (ofScalar (.factory f))
  | defaultFactory (f : Factory) : Added (ofScalar (.defaultFactory f))
  | name (s : String) : Added (ofScalar (.text .owned s))

/-! ## What holds of all values of something -/

/-- All values that the specification holds. -/
def FieldSpec.values (f : FieldSpec) : List Value :=
  f.default :: f.factory :: f.metadata.map Prod.snd

/-- All values that the descriptor holds. -/
def Descriptor.values (d : Descriptor) : List Value := d.spec.values

section

variable (P : Value → Prop)

def FieldSpec.Over (f : FieldSpec) : Prop := ∀ v ∈ f.values, P v

def FieldOverride.Over (o : FieldOverride) : Prop := ∀ e ∈ o.metadata, P e.2

def RecordClass.Over (c : RecordClass) : Prop := ∀ a ∈ c.mro, ∀ f ∈ a.fields, f.Over P

structure StructClass.Over (c : StructClass) : Prop where
  default : ∀ v ∈ c.layout.defaults, P v
  override : ∀ e ∈ c.overrides, e.2.Over P

structure ClassObject.Over (c : ClassObject) : Prop where
  record : ∀ r, c.recordTable? = some r → r.Over P
  struct : ∀ t, c.structTable? = some t → t.Over P

def Descriptor.Over (d : Descriptor) : Prop := ∀ v ∈ d.values, P v

def FieldList.Over (l : FieldList) : Prop := ∀ d ∈ l.fields, d.Over P

def Introspector.Over (i : Introspector) : Prop := ∀ e ∈ i.cache, e.2.Over P

abbrev World.Over (w : World) : Prop := w.Each (Introspector.Over P)

end

variable {P : Value → Prop}

theorem FieldSpec.over_iff {f : FieldSpec} :
    f.Over P ↔ P f.default ∧ P f.factory ∧ ∀ e ∈ f.metadata, P e.2 := by
  simp only [Over, values, List.forall_mem_cons, List.forall_mem_map]

section

variable {P' : Value → Prop} (sub : ∀ v, P v → P' v)
include sub

theorem FieldSpec.Over.mono {f : FieldSpec} (h : f.Over P) : f.Over P' :=
  fun v hv => sub v (h v hv)

theorem FieldOverride.Over.mono {o : FieldOverride} (h : o.Over P) : o.Over P' :=
  fun e he => sub e.2 (h e he)

theorem RecordClass.Over.mono {c : RecordClass} (h : c.Over P) : c.Over P' :=
  fun a ha f hf => (h a ha f hf).mono sub

theorem StructClass.Over.mono {c : StructClass} (h : c.Over P) : c.Over P' :=
  ⟨fun v hv => sub v (h.default v hv), fun e he => (h.override e he).mono sub⟩

theorem ClassObject.Over.mono {c : ClassObject} (h : c.Over P) : c.Over P' :=
  ⟨fun r hr => (h.record r hr).mono sub, fun t ht => (h.struct t ht).mono sub⟩

theorem Descriptor.Over.mono {d : Descriptor} (h : d.Over P) : d.Over P' :=
  fun v hv => sub v (h v hv)

theorem FieldList.Over.mono {l : FieldList} (h : l.Over P) : l.Over P' :=
  fun d hd => (h d hd).mono sub

theorem World.Over.mono {w : World} (h : w.Over P) : w.Over P' :=
  ⟨fun e he => (h.global e he).mono sub, fun i hi e he => (h.others i hi e he).mono sub⟩

end

/-! ## Builds -/

theorem RecordDecl.Built.over {d : RecordDecl} {id : ClassId} {c : RecordClass} (h : d.Built id c)
    (bases : ∀ b ∈ d.bases, b.Over P) (fields : ∀ f ∈ d.fields, f.Over P) : c.Over P := by
  have hancestors : ∀ a ∈ c.ancestors, ∀ f ∈ a.fields, f.Over P := by
    intro a ha
    obtain ⟨b, hb, hab⟩ := RecordDecl.exists_mem_mro_of_mem_ancestors h.ancestors ha
    exact bases b hb a hab
  refine List.forall_mem_cons.mpr ⟨?_, hancestors⟩
  rw [h.fields]
  intro f hf
  rcases Table.mem_of_mem_putAll FieldSpec.name hf with hf | hf
  · exact fields f hf
  · rcases Table.mem_of_mem_foldl_putAll FieldSpec.name hf with hf | ⟨a, ha, hf⟩
    · cases hf
    · exact hancestors a (List.mem_reverse.mp ha) f hf

section

variable (added : ∀ v : Value, v.Added → P v)
include added

theorem Layout.over_decode {slot : Option Value} (h : ∀ v ∈ slot, P v) :
    P (decode slot).1 ∧ P (decode slot).2 := by
  have hunset : P .unset := added _ (.marker .unset)
  cases slot with
  | none => exact ⟨hunset, hunset⟩
  | some v =>
    cases hv : v.defaultFactory? with
    | none => simpa only [decode, hv] using ⟨h v rfl, hunset⟩
    | some g => simpa only [decode, hv] using ⟨hunset, added _ (.factory g)⟩

theorem Layout.over_infos {l : Layout} (h : ∀ v ∈ l.defaults, P v) :
    ∀ i ∈ l.infos, P i.default ∧ P i.factory := by
  intro i hi
  obtain ⟨n, hn, rfl⟩ := List.mem_mapIdx.mp hi
  apply Layout.over_decode added
  intro v hv
  have hrow := List.getElem_mem hn
  generalize ((l.names.zip l.types).zip (l.encodeNames.zip l.slots))[n] = row at hrow hv
  have hslot : row.2.2 ∈ l.slots := (List.of_mem_zip (List.of_mem_zip hrow).2).2
  rw [Option.mem_def.mp hv] at hslot
  rcases List.mem_append.mp hslot with hslot | hslot
  · cases List.eq_of_mem_replicate hslot
  · obtain ⟨w, hw, hwv⟩ := List.mem_map.mp hslot
    exact Option.some.inj hwv ▸ h w hw

theorem StructField.over_entry {f : StructField} (h : P f.default) : P f.entry := by
  unfold entry
  cases f.factory with
  | none => exact h
  | some g => exact added _ (.defaultFactory g)

theorem StructDecl.Built.over {d : StructDecl} {c : StructClass} (h : d.Built c)
    (bases : ∀ b ∈ d.bases, b.Over P) (fields : ∀ f ∈ d.fields, P f.default)
    (overrides : ∀ e ∈ d.overrides, e.2.Over P) : c.Over P := by
  have hdeclared : ∀ f ∈ d.declared, P f.default := by
    intro f hf
    rcases Table.mem_of_mem_putAll StructField.name hf with hf | hf
    · obtain ⟨g, hg, rfl⟩ := List.mem_map.mp hf
      exact fields g hg
    · rcases Table.mem_of_mem_foldl_putAll StructField.name hf with hf | ⟨b, hb, hf⟩
      · cases hf
      · obtain ⟨i, hi, rfl⟩ := List.mem_map.mp hf
        exact (Layout.over_infos added (bases b (List.mem_reverse.mp hb)).default i hi).1
  constructor
  · intro v hv
    rw [h.layout_eq] at hv
    obtain ⟨f, hf, rfl⟩ := List.mem_map.mp hv
    have hf := d.declared_perm_ordered.mem_iff.mpr (List.dropWhile_subset _ hf)
    exact StructField.over_entry added (hdeclared f hf)
  · intro e he
    rw [h.overrides] at he
    rcases StructDecl.mem_mergedOverrides he with he | ⟨b, hb, he⟩
    · exact overrides e he
    · exact (bases b hb).override e he

/-! ## Descriptors -/

theorem Value.over_orMissing {v : Value} (h : P v) : P v.orMissing := by
  unfold orMissing
  split
  · exact added _ (.marker .missing)
  · exact h

theorem Descriptor.over_make {owner : String} {f : FieldSpec} {d : Descriptor}
    (h : make owner f = .ok d) (hf : f.Over P) : d.Over P := by
  obtain ⟨hdefault, hfactory, hmetadata⟩ := FieldSpec.over_iff.mp hf
  unfold Over values
  rw [make_ok h]
  exact FieldSpec.over_iff.mpr
    ⟨Value.over_orMissing added hdefault, Value.over_orMissing added hfactory, hmetadata⟩

theorem RecordClass.over_extract {r : RecordClass} (hr : r.Over P) {ds : List Descriptor}
    (h : r.extract = .ok ds) : ∀ d ∈ ds, d.Over P := by
  intro d hd
  obtain ⟨f, hf, hfd⟩ := exists_of_mem_mapM h d hd
  obtain ⟨hdefault, hfactory, hmetadata⟩ := FieldSpec.over_iff.mp (hr r r.mem_mro_self f hf)
  exact Descriptor.over_make added hfd (FieldSpec.over_iff.mpr
    ⟨Value.over_orMissing added hdefault, Value.over_orMissing added hfactory, hmetadata⟩)

theorem StructClass.over_spec {t : StructClass} (ht : t.Over P) {i : FieldInfo} (hi : i ∈ t.infos) :
    (t.spec i).Over P := by
  obtain ⟨hdefault, hfactory⟩ := Layout.over_infos added ht.default i hi
  have hsaid : ((t.override? i.name).getD .empty).Over P := by
    cases h : t.override? i.name with
    | none => exact fun e he => nomatch he
    | some o => exact ht.override _ (Dict.mem_of_get? h)
  refine FieldSpec.over_iff.mpr
    ⟨Value.over_orMissing added hdefault, Value.over_orMissing added hfactory, ?_⟩
  intro e he
  unfold spec at he
  simp only at he
  split at he
  · exact hsaid e he
  · rcases Dict.mem_insertNew he with rfl | he
    · exact added _ (.name i.encodeName)
    · exact hsaid e he

theorem StructClass.over_extract {t : StructClass} (ht : t.Over P) {ds : List Descriptor}
    (h : t.extract = .ok ds) : ∀ d ∈ ds, d.Over P := by
  intro d hd
  unfold extract at h
  split at h
  · cases h
  obtain ⟨i, hi, hid⟩ := exists_of_mem_mapM h d hd
  unfold describe at hid
  simp only at hid
  split at hid
  · cases hid
  · exact Descriptor.over_make added hid (over_spec added ht hi)

theorem over_extractFields {c : ClassObject} (hc : c.Over P) {ds : List Descriptor}
    (h : extractFields c = .ok ds) : ∀ d ∈ ds, d.Over P := by
  rcases extractFields_ok h with ⟨t, ht, h⟩ | ⟨r, hr, h⟩
  · exact StructClass.over_extract added (hc.struct t ht) h
  · exact RecordClass.over_extract added (hc.record r hr) h

end

/-! ## Worlds -/

namespace Introspector

variable {i : Introspector}

theorem over_new (settings : Settings) : (new settings).Over P := fun _ he => nomatch he

theorem Over.forget (h : i.Over P) (id : ClassId) : (i.forget id).Over P :=
  fun e he => h e (List.mem_filter.mp he).1

theorem over_clear (i : Introspector) : i.clear.Over P := fun _ he => nomatch he

theorem Over.keep (h : i.Over P) (id : ClassId) {l : FieldList} (hl : l.Over P) :
    (i.keep id l).Over P := by
  unfold Introspector.keep
  split
  · exact h
  · exact List.forall_mem_cons.mpr ⟨hl, h⟩

theorem Over.of_cached (h : i.Over P) {id : ClassId} {l : FieldList} (hl : i.cached? id = some l) :
    l.Over P := by
  obtain ⟨e, he, rfl⟩ := Option.map_eq_some_iff.mp hl
  exact h e (List.mem_of_find?_eq_some he)

theorem Over.getFields (added : ∀ v : Value, v.Added → P v) (h : i.Over P) {c : ClassObject}
    (hc : c.Over P) {number : Nat} {l : FieldList} {j : Introspector}
    (hget : i.getFields c number = .ok (l, j)) : l.Over P ∧ j.Over P := by
  unfold Introspector.getFields at hget
  split at hget
  · rename_i kept hhit
    obtain ⟨rfl, rfl⟩ := Prod.mk.inj (Except.ok.inj hget)
    exact ⟨h.of_cached (cached?_of_hit? hhit), h⟩
  · split at hget
    · cases hget
    · rename_i fields hfields
      obtain ⟨rfl, rfl⟩ := Prod.mk.inj (Except.ok.inj hget)
      have hl : FieldList.Over P ⟨number, fields⟩ := over_extractFields added hc hfields
      refine ⟨hl, ?_⟩
      split
      · exact h.keep c.id hl
      · exact h

end Introspector

theorem World.Over.getFields (added : ∀ v : Value, v.Added → P v) {w : World} (h : w.Over P)
    (via : Option IntrospectorId) {c : ClassObject} (hc : c.Over P) :
    (∀ l, (w.getFields via c).1 = .ok l → l.Over P) ∧ (w.getFields via c).2.Over P := by
  have hget : ∀ number l j, (w.introspector via).getFields c number = .ok (l, j) →
      l.Over P ∧ j.Over P := fun _ _ _ => (h.introspector via).getFields added hc
  constructor
  · intro l hl
    obtain ⟨number, hfst⟩ := w.getFields_fst via c
    obtain ⟨⟨_, j⟩, hj, rfl⟩ := map_ok_iff.mp (hfst.symm.trans hl)
    exact (hget number l j hj).1
  · exact Each.getFields h via fun number l j hj => (hget number l j hj).2

theorem World.over_extractFields (added : ∀ v : Value, v.Added → P v) (w : World) {c : ClassObject}
    (hc : c.Over P) {l : FieldList} (h : (w.extractFields c).1 = .ok l) : l.Over P := by
  have hfst := w.extractFields_fst c
  rw [h] at hfst
  exact FieldAtlas.over_extractFields added hc hfst.symm

end FieldAtlas
