import FieldAtlas.Struct.Layout
import Mathlib.Data.List.Forall2

/-!
# Reading a layout back

A layout holds one entry for a default and a factory together, and none for the fields in front of
the first that has either. What is read back from it agrees with what was laid out, up to which
marker stands for an empty slot.
-/

namespace FieldAtlas

/-- The field with the shared missing value for every marker. -/
def FieldInfo.settled (f : FieldInfo) : FieldInfo :=
  { f with default := f.default.orMissing, factory := f.factory.orMissing }

/-- What a layout with an entry for the field reports of it. -/
def StructField.info (f : StructField) : FieldInfo where
  name := f.name
  encodeName := f.encodeName
  type := f.type
  default := (Layout.decode (some f.entry)).1
  factory := (Layout.decode (some f.entry)).2
  kwOnly := f.kwOnly

theorem Value.defaultFactory?_of_isMissing {v : Value} (h : v.isMissing = true) :
    v.defaultFactory? = none := by
  unfold Value.defaultFactory?
  split
  · simp [Value.isMissing, FieldAtlas.isMissing, Value.isMarker, Value.marker?] at h
  · rfl

theorem Value.eq_of_orMissing_eq {v w : Value} (hw : w.isMissing = false)
    (h : v.orMissing = w.orMissing) : v = w := by
  have hv : v.isMissing = false := by rw [← v.isMissing_orMissing, h, w.isMissing_orMissing, hw]
  simpa [orMissing, hv, hw] using h

/-! ## Both slots in one entry -/

namespace StructField

variable {f : StructField}

theorem default_info (hplain : f.default.defaultFactory? = none) (hboth : f.hasBoth = false) :
    f.info.default.orMissing = f.default.orMissing := by
  unfold info entry
  cases hg : f.factory with
  | none => simp [Layout.decode, hplain]
  | some g =>
    have hentry : (Value.ofScalar (.defaultFactory g)).defaultFactory? = some g := rfl
    have hmissing : f.default.isMissing = true := by simpa [hasBoth, hg] using hboth
    simp only [Layout.decode, hentry, Value.orMissing, hmissing, if_true]
    rfl

theorem factory_info (hplain : f.default.defaultFactory? = none) :
    f.info.factory = (f.factory.map fun g => Value.ofScalar (.factory g)).getD .unset := by
  unfold info entry
  cases f.factory with
  | none => simp [Layout.decode, hplain]
  | some g => rfl

end StructField

namespace Layout

/-! ## Declarations -/

theorem decode_of_declaration (slot : Option Value) (f : StructField)
    (hdefault : f.default = (decode slot).1) (hfactory : f.factory = (decode slot).2.factory?) :
    decode (some f.entry) = decode slot := by
  unfold StructField.entry
  cases slot with
  | none =>
    have hnone : f.factory = none := hfactory
    have hunset : f.default = .unset := hdefault
    rw [hnone, hunset]
    rfl
  | some entry =>
    cases hentry : entry.defaultFactory? with
    | some g =>
      have hsome : f.factory = some g := by rw [hfactory, decode, hentry]; rfl
      rw [hsome, decode, decode, hentry]
      rfl
    | none =>
      have hnone : f.factory = none := by rw [hfactory, decode, hentry]; rfl
      have heq : f.default = entry := by rw [hdefault, decode, hentry]
      simp [hnone, heq]

theorem info_declaration_info (l : Layout) (i : Nat) (name : String) (type : TypeRef)
    (encodeName : String) (slot : Option Value) :
    (l.info i name type encodeName slot).declaration.info = l.info i name type encodeName slot := by
  have hdecode := decode_of_declaration slot (l.info i name type encodeName slot).declaration rfl rfl
  unfold StructField.info
  rw [hdecode]
  by_cases h : encodeName = name <;> simp [info, FieldInfo.declaration, StructField.encodeName, h]

theorem map_info_declarations (l : Layout) : l.declarations.map StructField.info = l.infos := by
  rw [declarations, List.map_map]
  nth_rewrite 2 [← List.map_id l.infos]
  apply List.map_congr_left
  intro f hf
  obtain ⟨i, _, rfl⟩ := List.mem_mapIdx.mp hf
  exact l.info_declaration_info i _ _ _ _

/-! ## Slots -/

/-- The entry of a field, which a field without default and factory need not have. -/
def Holds (f : StructField) (slot : Option Value) : Prop :=
  slot = some f.entry ∨ slot = none ∧ f.hasDefault = false

theorem slots_cons {f : StructField} (h : f.hasDefault = false) (n : Nat) (fs : List StructField) :
    (ofFields n (f :: fs)).slots = none :: (ofFields n fs).slots := by
  have hlen : (fs.dropWhile fun f => !f.hasDefault).length ≤ fs.length :=
    (List.dropWhile_suffix _).length_le
  unfold slots ofFields
  simp only [List.map_cons, List.length_cons, List.length_map, List.dropWhile_cons, h, Bool.not_false,
    if_true]
  rw [Nat.succ_sub hlen, List.replicate_succ, List.cons_append]

theorem holds_slots (n : Nat) (fields : List StructField) :
    List.Forall₂ Holds fields (ofFields n fields).slots := by
  induction fields with
  | nil => exact List.Forall₂.nil
  | cons f fs ih =>
    cases h : f.hasDefault with
    | false =>
      rw [slots_cons h]
      exact List.Forall₂.cons (Or.inr ⟨rfl, h⟩) ih
    | true =>
      have hslots : (ofFields n (f :: fs)).slots = (f :: fs).map fun g => some g.entry := by
        simp [slots, ofFields, h]
      rw [hslots, List.forall₂_map_right_iff]
      exact List.forall₂_same.mpr fun g _ => Or.inl rfl

theorem settled_info {f : StructField} {slot : Option Value} (h : Holds f slot) (l : Layout)
    (i : Nat) (hkw : f.kwOnly = decide (l.positionalCount ≤ i)) :
    (l.info i f.name f.type f.encodeName slot).settled = f.info.settled := by
  unfold StructField.info
  rw [hkw]
  rcases h with rfl | ⟨rfl, h⟩
  · rfl
  simp only [StructField.hasDefault, Bool.or_eq_false_iff, Bool.not_eq_false',
    Option.isSome_eq_false_iff, Option.isNone_iff_eq_none] at h
  obtain ⟨hmissing, hfactory⟩ := h
  have hdecode : decode (some f.entry) = (f.default, .unset) := by
    rw [StructField.entry, hfactory, decode, Value.defaultFactory?_of_isMissing hmissing]
  have hsettled : f.default.orMissing = Value.unset.orMissing := by
    rw [Value.orMissing, if_pos hmissing]
    rfl
  rw [hdecode]
  simp only [info, decode, FieldInfo.settled, hsettled]

/-! ## Fields -/

theorem settled_infos_ofFields {n : Nat} {fields : List StructField}
    (hkw : ∀ i (h : i < fields.length), fields[i].kwOnly = decide (n ≤ i)) :
    (ofFields n fields).infos.map FieldInfo.settled = fields.map fun f => f.info.settled := by
  have hslots := holds_slots n fields
  have hlen : (ofFields n fields).slots.length = fields.length := hslots.length_eq.symm
  -- The tables are parallel: each index is one field.
  apply List.ext_getElem
  · rw [List.length_map, infos, List.length_mapIdx, List.length_zip, List.length_zip, List.length_zip,
      hlen]
    simp [ofFields]
  intro i _ hi
  rw [List.length_map] at hi
  have hslot := hslots.get hi (by rwa [hlen])
  simp only [infos, List.getElem_map, List.getElem_mapIdx, List.getElem_zip]
  simpa [ofFields] using settled_info hslot (ofFields n fields) i (hkw i hi)

theorem settled_infos_ofFields_append {positional keyword : List StructField}
    (hpos : ∀ f ∈ positional, f.kwOnly = false) (hkey : ∀ f ∈ keyword, f.kwOnly = true) :
    (ofFields positional.length (positional ++ keyword)).infos.map FieldInfo.settled =
      (positional ++ keyword).map fun f => f.info.settled := by
  apply settled_infos_ofFields
  intro i h
  rw [List.getElem_append]
  split
  · rename_i hi
    rw [hpos _ (List.getElem_mem hi), eq_comm, decide_eq_false_iff_not]
    omega
  · rw [hkey _ (List.getElem_mem _), eq_comm, decide_eq_true_iff]
    omega

end Layout

end FieldAtlas
