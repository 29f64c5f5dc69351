import FieldAtlas.Proofs.Object.Definition

/-!
# What a definition holds

A definition can be built exactly when its fields can be had. It holds those that do not say that
they are private, and since no two of them share a name, a lookup by name has only one field to
find. A lookup by the public name may meet several, but never a private one.
-/

namespace FieldAtlas

/-- The metadata have the truth value true under `private`. Another value there, be it the text
`true`, says nothing. -/
def Descriptor.SaysPrivate (x : Descriptor) : Prop :=
  ∃ place, x.metadataValue? "private" = some (.scalar place (.bool true))

theorem Value.bool?_eq_some_iff (v : Value) (b : Bool) :
    v.bool? = some b ↔ ∃ place, v = .scalar place (.bool b) := by
  constructor
  · intro h
    unfold bool? at h
    split at h
    · obtain rfl := Option.some.inj h
      exact ⟨_, rfl⟩
    · cases h
  · rintro ⟨place, rfl⟩
    rfl

theorem ObjectField.isPrivate_iff (x : Descriptor) : isPrivate x = true ↔ x.SaysPrivate := by
  unfold isPrivate Descriptor.SaysPrivate
  cases x.metadataValue? "private" with
  | none => simp
  | some v =>
    simp only [Option.bind_some, Option.some.injEq, ← Value.bool?_eq_some_iff]
    cases v.bool? <;> simp

instance : DecidablePred Descriptor.SaysPrivate :=
  fun x => decidable_of_iff _ (ObjectField.isPrivate_iff x)

namespace ObjectDefinition

variable (c : ClassObject) (config : ObjectConfig) (auto : Bool) (xs : List Descriptor)

theorem map_descriptor_ofFields : (ofFields c config auto xs).fields.map ObjectField.descriptor =
    xs.filter fun x => ¬ x.SaysPrivate := by
  rw [ofFields, List.map_map]
  have hself : ObjectField.descriptor ∘ ObjectField.ofDescriptor auto = id := rfl
  rw [hself, List.map_id]
  apply List.filter_congr
  intro x _
  rw [Bool.eq_iff_iff]
  simp [← ObjectField.isPrivate_iff]

theorem not_saysPrivate_of_mem {f : ObjectField} (hf : f ∈ (ofFields c config auto xs).fields) :
    ¬ f.descriptor.SaysPrivate := by
  have hmem := List.mem_map_of_mem (f := ObjectField.descriptor) hf
  rw [map_descriptor_ofFields] at hmem
  simpa using (List.mem_filter.mp hmem).2

theorem field?_ofFields_eq_some_iff (distinct : (xs.map Descriptor.name).Nodup) (q : String)
    (x : Descriptor) : ((ofFields c config auto xs).field? q).map ObjectField.descriptor = some x ↔
      x ∈ xs ∧ x.name = q ∧ ¬ x.SaysPrivate := by
  have hlookup : ((ofFields c config auto xs).field? q).map ObjectField.descriptor =
      (xs.filter fun x => ¬ x.SaysPrivate).find? fun x => x.name == q := by
    rw [← map_descriptor_ofFields c config auto xs, List.find?_map]
    rfl
  rw [hlookup]
  constructor
  · intro h
    have hmem := List.mem_filter.mp (List.mem_of_find?_eq_some h)
    exact ⟨hmem.1, by simpa using List.find?_some h, by simpa using hmem.2⟩
  · rintro ⟨hx, rfl, hshown⟩
    have hkept : ((xs.filter fun x => ¬ x.SaysPrivate).map Descriptor.name).Nodup :=
      distinct.sublist (List.filter_sublist.map Descriptor.name)
    exact Table.find?_of_mem Descriptor.name hkept (List.mem_filter.mpr ⟨hx, by simpa using hshown⟩)

end ObjectDefinition

/-- A definition can be built exactly if the fields can be had, and fails as they do. It holds the
extracted fields that do not say that they are private, in their order. A lookup by name gives such a
field and never another one of that name, and no lookup at all gives a private one. -/
theorem definition_contents {p : Program} (hp : p.Reached) {c : ClassObject} (hc : c ∈ p.classes)
    (via : Option IntrospectorId) (config : ObjectConfig) :
    ((∃ d, (p.world.buildDefinition via c config).1 = .ok d) ↔
      ∃ l, (p.world.getFields via c).1 = .ok l) ∧
    (∀ e, (p.world.buildDefinition via c config).1 = .error e ↔
      (p.world.getFields via c).1 = .error e) ∧
    ∀ d, (p.world.buildDefinition via c config).1 = .ok d → ∃ l,
      (p.world.getFields via c).1 = .ok l ∧ extractFields c = .ok l.fields ∧
      d.fields.map ObjectField.descriptor = (l.fields.filter fun x => ¬ x.SaysPrivate) ∧
      (∀ q, (d.field? q).isSome ↔ ∃ x ∈ l.fields, x.name = q ∧ ¬ x.SaysPrivate) ∧
      (∀ q x, (d.field? q).map ObjectField.descriptor = some x ↔
        x ∈ l.fields ∧ x.name = q ∧ ¬ x.SaysPrivate) ∧
      ∀ q f, d.field? q = some f ∨ d.publicField? q = some f → ¬ f.descriptor.SaysPrivate := by
  -- Whatever the introspector has kept, its answer is that of an extraction.
  have hused := (hp.used hp.tables_eq).introspector via
  have hextract := World.map_getFields hused (hp.tables_eq c hc)
  rw [World.buildDefinition_fst]
  cases hget : (p.world.getFields via c).1 with
  | error e =>
    refine ⟨by simp [Except.map], by simp [Except.map], ?_⟩
    rintro d ⟨⟩
  | ok l =>
    refine ⟨by simp [Except.map], by simp [Except.map], ?_⟩
    rintro d ⟨⟩
    rw [hget] at hextract
    have hfields : extractFields c = .ok l.fields := hextract.symm
    have hnames := hp.nodup_names hc hfields
    have hfind := ObjectDefinition.field?_ofFields_eq_some_iff c config
      (p.world.introspector via).settings.autoCamelCase l.fields hnames
    refine ⟨l, rfl, hfields, ObjectDefinition.map_descriptor_ofFields .., ?_, hfind, ?_⟩
    · intro q
      rw [← Option.isSome_map (f := ObjectField.descriptor), Option.isSome_iff_exists]
      exact exists_congr (hfind q)
    · intro q f hf
      apply ObjectDefinition.not_saysPrivate_of_mem c config _ l.fields
      rcases hf with hf | hf
      · exact List.mem_of_find?_eq_some hf
      · exact List.mem_of_find?_eq_some hf

/-! ## A name that is shown for another field -/

namespace Note

def field (name : String) (metadata : Metadata) : FieldSpec :=
  { FieldSpec.plain .noDefault name (.resolved "String") with metadata := metadata }

def secret : FieldSpec := field "secret" [("private", .scalar (.numbered 0) (.bool true))]

/-- Says `true` where a truth value is looked for. -/
def half : FieldSpec := field "half" [("private", .scalar (.numbered 1) (.text .static "true"))]

/-- Goes by the name of the private field. -/
def shown : FieldSpec :=
  field "shown" [("graphql_name", .scalar (.numbered 2) (.text .static "secret"))]

def note : RecordClass :=
  ⟨⟨1⟩, "Note", [], [], [secret, half, shown], [secret, half, shown], .named "Note"⟩

/-- Declares the private field again. -/
def memo : RecordClass :=
  ⟨⟨2⟩, "Memo", [note], [note], [field "secret" []], [field "secret" [], half, shown], .named "Memo"⟩

def classes : List ClassObject := [.record memo, .record note]

theorem lasting_field {name : String} {metadata : Metadata} (h : ∀ e ∈ metadata, e.2.Lasting) :
    (field name metadata).Lasting :=
  ⟨Or.inl (Value.held_ofMarker .noDefault), Or.inl (Value.held_ofMarker .noDefault), h⟩

theorem lasting_own : ∀ f ∈ [secret, half, shown], f.Lasting := by
  have hnumbered (n : Nat) (s : Scalar) : (Value.scalar (.numbered n) s).Lasting := Or.inl nofun
  simp only [List.forall_mem_cons, List.not_mem_nil, false_implies, implies_true, and_true]
  refine ⟨lasting_field ?_, lasting_field ?_, lasting_field ?_⟩ <;>
    simp only [List.forall_mem_singleton, hnumbered]

theorem reached : ∃ w, Program.Reached ⟨w, classes⟩ ∧
    (w.cached? none (.record note)).isSome = true ∧
    (∃ d f, (w.buildDefinition none (.record note) note.object).1 = .ok d ∧
      d.fields.map ObjectField.name = ["half", "shown"] ∧
      d.publicField? "secret" = some f ∧ f.name = "shown") ∧
    ∃ d, (w.buildDefinition none (.record memo) memo.object).1 = .ok d := by
  have h₀ : Program.Reached ⟨.start ⟨1⟩ 3 [], []⟩ := .start rfl rfl
  have h₁ := h₀.step (.made (.record (d := ⟨"Note", [], [secret, half, shown], none⟩) (c := note)
    (by simp) lasting_own rfl))
  have h₂ := h₁.step (.made (.record (d := ⟨"Memo", [note], [field "secret" []], none⟩) (c := memo)
    (by simp) (by simpa using lasting_field (by simp)) rfl))
  have h₃ := h₂.step (.done (.getFields none (c := .record note) (by simp)))
  exact ⟨_, h₃, rfl, ⟨_, _, rfl, rfl, rfl, rfl⟩, _, rfl⟩

end Note

open Note in
/-- The private field is not found under its name, where by public name another field is. Below, it
is shown again. -/
theorem definition_contents_note : ∃ w, Program.Reached ⟨w, classes⟩ ∧
    (w.cached? none (.record note)).isSome = true ∧
    (∃ d f, (w.buildDefinition none (.record note) note.object).1 = .ok d ∧
      d.fields.map ObjectField.name = ["half", "shown"] ∧ (d.field? "secret").isSome = false ∧
      d.publicField? "secret" = some f ∧ f.name = "shown" ∧ ¬ f.descriptor.SaysPrivate) ∧
    ∃ d, (w.buildDefinition none (.record memo) memo.object).1 = .ok d ∧
      (d.field? "secret").map ObjectField.descriptor =
        some (field "secret" []).settled.descriptor := by
  obtain ⟨w, hw, hkept, ⟨d, f, hd, hnames, hpublic, hf⟩, e, he⟩ := reached
  have hnote : .record note ∈ classes := by simp [classes]
  have hmemo : .record memo ∈ classes := by simp [classes]
  obtain ⟨-, -, habove⟩ := definition_contents hw hnote none note.object
  obtain ⟨-, -, hbelow⟩ := definition_contents hw hmemo none memo.object
  obtain ⟨l, -, hl, -, hfound, -, hopen⟩ := habove d hd
  obtain ⟨m, -, hm, -, -, hfind, -⟩ := hbelow e he
  have hl := Except.ok.inj hl
  have hm := Except.ok.inj hm
  have hshown := hopen "secret" f (Or.inr hpublic)
  refine ⟨w, hw, hkept, ⟨d, f, hd, hnames, ?_, hpublic, hf, hshown⟩, e, he, ?_⟩
  · rw [Bool.eq_false_iff, Ne, hfound, ← hl]
    decide
  · rw [hfind, ← hm]
    exact ⟨List.mem_cons_self, rfl, by decide⟩

end FieldAtlas
