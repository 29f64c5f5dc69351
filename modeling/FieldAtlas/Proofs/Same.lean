import FieldAtlas.Object.Definition

/-!
# Equality with oneself

A value need not equal a copy of itself. It equals itself if it can be met again at its place, and a
factory does so in any case, by its closure.
-/

namespace FieldAtlas

namespace Value

/-- The value can be met again through another handle. -/
def Held (v : Value) : Prop := v.place ≠ .passing

/-- The value is held, or it is a factory. -/
def Lasting (v : Value) : Prop := v.Held ∨ v.factory?.isSome

end Value

theorem Place.same_self {p : Place} (h : p ≠ .passing) : p.same p = true := by
  cases p with
  | passing => exact absurd rfl h
  | shared m => simp [same]
  | numbered n => simp [same]

namespace Value

theorem same_self {v : Value} (h : v.Held) : v.same v = true := by
  have hplace : v.place.same v.place = true := Place.same_self h
  cases v with
  | scalar p s => simp only [same, Bool.or_eq_true]; exact Or.inl hplace
  | list p vs => simp only [same, Bool.or_eq_true]; exact Or.inl hplace
  | dict p es => simp only [same, Bool.or_eq_true]; exact Or.inl hplace
  | wrapped p v => simp only [same, Bool.or_eq_true]; exact Or.inl hplace

theorem held_ofMarker (m : Marker) : (ofMarker m).Held := by simp [Held, ofMarker, place]

theorem held_orMissing {v : Value} (h : v.Held) : v.orMissing.Held := by
  unfold orMissing
  split
  · exact held_ofMarker .missing
  · exact h

theorem Lasting.same_self {v : Value} (h : v.Lasting) : v.same v = true := by
  rcases h with h | h
  · exact Value.same_self h
  · unfold factory? at h
    split at h
    · simp [same, Scalar.same, Factory.same]
    · simp at h

theorem sameEntries_self {es : List (String × Value)} (h : ∀ e ∈ es, e.2.same e.2 = true) :
    sameEntries es es = true := by
  induction es with
  | nil => simp [sameEntries]
  | cons e es ih =>
    rw [List.forall_mem_cons] at h
    simp [sameEntries, h.1, ih h.2]

end Value

theorem Descriptor.same_self {d : Descriptor} (default : d.default.same d.default = true)
    (factory : d.factorySlot.same d.factorySlot = true)
    (metadata : ∀ e ∈ d.metadata, e.2.same e.2 = true) : d.same d = true := by
  simp [same, default, factory, Value.sameEntries_self metadata]

/-! ## Definitions -/

namespace ObjectDefinition

theorem sameFields_self {fs : List ObjectField} (h : ∀ f ∈ fs, f.same f = true) :
    sameFields fs fs = true := by
  induction fs with
  | nil => rfl
  | cons f fs ih =>
    rw [List.forall_mem_cons] at h
    simp [sameFields, h.1, ih h.2]

theorem sameFields_ofFields (b c : ClassObject) (config : ObjectConfig) (autoCamelCase : Bool)
    {ds : List Descriptor} (h : ∀ d ∈ ds, d.same d = true) :
    sameFields (ofFields b config autoCamelCase ds).fields
      (ofFields c config autoCamelCase ds).fields = true := by
  apply sameFields_self
  intro f hf
  obtain ⟨d, hd, rfl⟩ := List.mem_map.mp hf
  simp [ObjectField.same, ObjectField.ofDescriptor, h d (List.mem_filter.mp hd).1]

theorem same_ofFields (c : ClassObject) (config : ObjectConfig) (autoCamelCase : Bool)
    {ds : List Descriptor} (h : ∀ d ∈ ds, d.same d = true) :
    (ofFields c config autoCamelCase ds).same (ofFields c config autoCamelCase ds) = true := by
  simp [same, sameFields_ofFields c c config autoCamelCase h]

end ObjectDefinition

end FieldAtlas
