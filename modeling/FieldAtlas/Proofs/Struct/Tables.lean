import FieldAtlas.Proofs.Struct.Reference

/-!
# Parallel tables

The tables of a layout describe the same fields, index by index. The table of defaults alone is
shorter: it begins at the first field that has a default or a factory.
-/

namespace FieldAtlas

namespace Layout

/-- Where the first field stands that has a default or a factory, or the end. -/
def start (l : Layout) : Nat := l.infos.findIdx fun f => !f.required

theorem required_info (l : Layout) (i : Nat) (name : String) (type : TypeRef) (encodeName : String)
    (slot : Option Value) :
    (l.info i name type encodeName slot).required = (slot.map Value.isMissing).getD true :=
  isMissing_decode slot

section

variable (n : Nat) (fields : List StructField)

theorem defaults_ofFields : (ofFields n fields).defaults =
    (fields.drop (fields.findIdx StructField.hasDefault)).map StructField.entry := by
  simp [ofFields, List.dropWhile_eq_drop_findIdx_not]

theorem getElem?_slots_ofFields {i : Nat} (h : i < fields.length) :
    (ofFields n fields).slots[i]? = some
      (if i < fields.findIdx StructField.hasDefault then none else some fields[i].entry) := by
  have hle : fields.findIdx StructField.hasDefault ≤ fields.length := List.findIdx_le_length
  have hnames : (ofFields n fields).names.length = fields.length := by simp [ofFields]
  rw [slots, defaults_ofFields, hnames, List.getElem?_append]
  simp only [List.length_map, List.length_drop, List.length_replicate, Nat.sub_sub_self hle]
  split
  · rename_i hi
    rw [List.getElem?_replicate_of_lt hi]
  · rename_i hi
    simp [Nat.add_sub_cancel' (Nat.le_of_not_lt hi), h]

theorem getElem?_infos_ofFields {i : Nat} (h : i < fields.length) :
    (ofFields n fields).infos[i]? = some ((ofFields n fields).info i fields[i].name fields[i].type
      fields[i].encodeName
      (if i < fields.findIdx StructField.hasDefault then none else some fields[i].entry)) := by
  have hslot := getElem?_slots_ofFields n fields h
  rw [infos, List.getElem?_mapIdx]
  simp only [List.zip, List.getElem?_zipWith, hslot]
  simp [ofFields, h]

@[simp] theorem length_infos_ofFields : (ofFields n fields).infos.length = fields.length := by
  have hslots : (ofFields n fields).slots.length = fields.length :=
    (holds_slots n fields).length_eq.symm
  rw [infos, List.length_mapIdx, List.length_zip, List.length_zip, List.length_zip, hslots]
  simp [ofFields]

theorem map_required_ofFields :
    (ofFields n fields).infos.map FieldInfo.required = fields.map fun f => !f.hasDefault := by
  apply List.ext_getElem?
  intro i
  by_cases h : i < fields.length
  · rw [List.getElem?_map, List.getElem?_map, getElem?_infos_ofFields n fields h, Option.map_some,
      required_info, List.getElem?_eq_getElem h, Option.map_some]
    split
    · rename_i hi
      have hnone : fields[i].hasDefault = false := List.not_of_lt_findIdx hi
      simp [hnone]
    · simp [StructField.isMissing_entry]
  · simp [h]

theorem start_ofFields : (ofFields n fields).start = fields.findIdx StructField.hasDefault := by
  have hstart : (ofFields n fields).start =
      ((ofFields n fields).infos.map FieldInfo.required).findIdx fun r => !r := by
    rw [List.findIdx_map]
    rfl
  rw [hstart, map_required_ofFields, List.findIdx_map]
  simp only [Function.comp_def, Bool.not_not]

theorem getElem_infos_ofFields {i : Nat} (h : i < (ofFields n fields).infos.length)
    (hi : i < fields.length) :
    (ofFields n fields).infos[i] = (ofFields n fields).info i fields[i].name fields[i].type
      fields[i].encodeName
      (if i < (ofFields n fields).start then none else some fields[i].entry) := by
  rw [List.getElem_eq_iff, start_ofFields]
  exact getElem?_infos_ofFields n fields hi

theorem getElem?_defaults_ofFields {i : Nat} (h : i < fields.length)
    (hi : (ofFields n fields).start ≤ i) :
    (ofFields n fields).defaults[i - (ofFields n fields).start]? = some fields[i].entry := by
  rw [start_ofFields] at hi ⊢
  simp [defaults_ofFields, Nat.add_sub_cancel' hi, h]

end

/-- The tables fit together. -/
structure Aligned (l : Layout) : Prop where
  distinct : l.names.Nodup
  types : l.types.length = l.names.length
  encodeNames : l.encodeNames.length = l.names.length
  infos : l.infos.length = l.names.length
  positional : l.positionalCount ≤ l.names.length
  kwOnly : ∀ i (h : i < l.infos.length), l.infos[i].kwOnly = true ↔ l.positionalCount ≤ i
  /-- By position, no required field comes after one that has a default or a factory. -/
  ordered : (l.infos.take l.positionalCount).Pairwise fun f g =>
    f.required = false → g.required = false
  /-- The entries are those of the fields from `start` on. -/
  defaults : l.start + l.defaults.length = l.names.length
  /-- What is reported of a field stands in the tables at its index. -/
  reads : ∀ i (h : i < l.infos.length), ∃ name type encodeName slot,
    l.names[i]? = some name ∧ l.types[i]? = some type ∧ l.encodeNames[i]? = some encodeName ∧
    (i < l.start ∧ slot = none ∨ l.start ≤ i ∧ slot = l.defaults[i - l.start]? ∧ slot.isSome) ∧
    l.infos[i] = l.info i name type encodeName slot
  required : ∀ i (h : i < l.infos.length), l.infos[i].required = true ↔
    i < l.start ∨ ∃ v, l.defaults[i - l.start]? = some v ∧ v.isMissing = true

theorem aligned_ofFields {n : Nat} {fields : List StructField}
    (distinct : (fields.map StructField.name).Nodup) (hn : n ≤ fields.length)
    (ordered : (fields.take n).Pairwise fun f g => f.hasDefault = true → g.hasDefault = true) :
    (ofFields n fields).Aligned := by
  have hnames : (ofFields n fields).names.length = fields.length := by simp [ofFields]
  have hinfos := length_infos_ofFields n fields
  refine ⟨distinct, by simp [ofFields], by simp [ofFields], by rw [hinfos, hnames],
    by rwa [hnames], ?_, ?_, ?_, ?_, ?_⟩
  · intro i h
    rw [getElem_infos_ofFields n fields h (hinfos ▸ h)]
    exact decide_eq_true_iff
  · -- The fields by position are required as they were declared, one by one.
    have hmap : ((ofFields n fields).infos.take n).map FieldInfo.required =
        (fields.take n).map fun f => !f.hasDefault := by
      rw [List.map_take, map_required_ofFields, ← List.map_take]
    have hpair : ((fields.take n).map fun f => !f.hasDefault).Pairwise fun r r' =>
        r = false → r' = false := by
      rw [List.pairwise_map]
      simpa using ordered
    rw [← hmap, List.pairwise_map] at hpair
    exact hpair
  · have hle : fields.findIdx StructField.hasDefault ≤ fields.length := List.findIdx_le_length
    rw [start_ofFields, defaults_ofFields, hnames, List.length_map, List.length_drop]
    omega
  · intro i h
    have hi : i < fields.length := hinfos ▸ h
    refine ⟨fields[i].name, fields[i].type, fields[i].encodeName, _, ?_, ?_, ?_, ?_,
      getElem_infos_ofFields n fields h hi⟩
    · simp [ofFields, hi]
    · simp [ofFields, hi]
    · simp [ofFields, hi]
    · by_cases hlt : i < (ofFields n fields).start
      · exact Or.inl ⟨hlt, if_pos hlt⟩
      · have hle := Nat.le_of_not_lt hlt
        rw [if_neg hlt, getElem?_defaults_ofFields n fields hi hle]
        exact Or.inr ⟨hle, rfl, rfl⟩
  · intro i h
    have hi : i < fields.length := hinfos ▸ h
    rw [getElem_infos_ofFields n fields h hi, required_info]
    by_cases hlt : i < (ofFields n fields).start
    · simp [hlt]
    · simp [hlt, getElem?_defaults_ofFields n fields hi (Nat.le_of_not_lt hlt)]

end Layout

/-! ## Every struct class -/

/-- Whatever bases a struct class was built over, its tables fit together, and they tell of each
declaration whether it is by keyword and whether it is required. -/
theorem layout_aligned {s : Stock} (hs : s.Reached) {c : StructClass} (hc : c ∈ s.structs) :
    c.layout.Aligned ∧ (c.layout.infos.map fun i => (i.kwOnly, i.required)) =
      c.reference.map fun f => (f.kwOnly, !f.hasDefault) := by
  obtain ⟨d, hbuilt, _⟩ := hs.exists_structBuilt c hc
  constructor
  · rw [hbuilt.layout_eq]
    apply Layout.aligned_ofFields
    · exact (d.declared_perm_ordered.map StructField.name).nodup_iff.mp d.nodup_declared
    · rw [StructDecl.ordered, List.length_append]
      omega
    · rw [StructDecl.ordered, List.take_left]
      exact ((Table.misplaced?_eq_none_iff _ _ _).mp hbuilt.placed).2
  · have hkw : ∀ i : FieldInfo, i.settled.kwOnly = i.kwOnly := fun _ => rfl
    have hsettled := congrArg (List.map fun i => (i.kwOnly, i.required)) (hs.map_reference c hc)
    simp only [List.map_map, Function.comp_def, hkw, FieldInfo.required_settled] at hsettled
    simp only [StructField.hasDefault_eq_required, Bool.not_not]
    exact hsettled.symm

namespace Offset

open Holes (size key)

def label : StructField := .plain "label" (.resolved "String")

def base : StructClass :=
  ⟨⟨1⟩, "Base", [], [key, label], [], false, .ofFields 1 [label, key], [], false⟩

/-- Its own field by position goes in front of the inherited one by keyword. -/
def next : StructClass :=
  ⟨⟨2⟩, "Next", [base], [size], [], false, .ofFields 2 [label, size, key], [], false⟩

theorem reached : ∃ w, Stock.Reached ⟨w, [], [next, base]⟩ := by
  have h₀ : Stock.Reached ⟨.start ⟨1⟩ 0 [], [], []⟩ := .start _
  obtain ⟨_, h₁, n₁⟩ := h₀.structAt rfl ⟨"Base", [], [key, label], [], false, false⟩ base (by simp)
    rfl
  obtain ⟨w, h, _⟩ := h₁.structAt n₁ ⟨"Next", [base], [size], [], false, false⟩ next (by simp) rfl
  exact ⟨w, h⟩

end Offset

open Offset in
/-- The table of defaults begins at the second of three fields, and has a hole for the last. -/
theorem layout_aligned_next : ∃ w, Stock.Reached ⟨w, [], [next, base]⟩ ∧ next ∈ [next, base] ∧
    next.layout.start = 1 ∧ next.layout.defaults.map Value.isMissing = [false, true] ∧
    next.layout.Aligned ∧ (next.layout.infos.map fun i => (i.kwOnly, i.required)) =
      [(false, true), (false, false), (true, true)] := by
  obtain ⟨w, hw⟩ := reached
  obtain ⟨haligned, hreported⟩ := layout_aligned hw (c := next) List.mem_cons_self
  exact ⟨w, hw, List.mem_cons_self, rfl, rfl, haligned, hreported⟩

end FieldAtlas
