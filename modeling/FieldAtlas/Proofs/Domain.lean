import FieldAtlas.Proofs.Bytes
import FieldAtlas.Proofs.Lasting

/-!
# What extraction refuses

A struct class is refused for an override that is no field's, else for a required field that its
override keeps out of the constructor. A record class is refused for a factory slot that holds
something else. No class is refused for a field with both slots filled, since none can be built.
-/

namespace FieldAtlas

/-! ## Overrides in order -/

theorem find?_least {l : List String} (hl : l.Pairwise fun a b => a < b) {p : String → Bool}
    {k k' : String} (hk : l.find? p = some k) (hmem : k' ∈ l) (hp : p k' = true) :
    k' = k ∨ Text.bytes k < Text.bytes k' := by
  obtain ⟨_, as, bs, rfl, has⟩ := List.find?_eq_some_iff_append.mp hk
  rcases List.mem_append.mp hmem with hmem | hmem
  · have hnot := has k' hmem
    rw [hp] at hnot
    cases hnot
  · rcases List.mem_cons.mp hmem with rfl | hmem
    · exact Or.inl rfl
    · have hlt := List.rel_of_pairwise_cons (List.pairwise_append.mp hl).2.1 hmem
      exact Or.inr (Text.bytes_lt hlt)

/-! ## One descriptor -/

namespace FieldSpec

/-- The specification with the shared missing value for every marker. -/
def settled (f : FieldSpec) : FieldSpec :=
  { f with default := f.default.orMissing, factory := f.factory.orMissing }

/-- The factory slot holds something that is no factory. -/
def misfilled (f : FieldSpec) : Bool := !f.factory.isMissing && f.factory.factory?.isNone

theorem misfilled_eq_false_iff (f : FieldSpec) :
    f.misfilled = false ↔ f.factory.isMissing = true ∨ f.factory.factory?.isSome = true := by
  cases h : f.factory.factory? <;> simp [misfilled, h]

def descriptor (f : FieldSpec) : Descriptor :=
  ⟨f.name, f.type, f.default, f.factory, f.repr, f.hash, f.compare, f.init, f.kwOnly, f.metadata⟩

@[simp] theorem settled_settled (f : FieldSpec) : f.settled.settled = f.settled := by
  simp [settled]

end FieldSpec

theorem Descriptor.make_eq_ite (owner : String) (f : FieldSpec) :
    make owner f = if f.misfilled then .error ⟨owner, f.name, .notAFactory f.factory.shown⟩
      else if f.hasBoth then .error ⟨owner, f.name, .defaultAndFactory⟩
      else .ok f.settled.descriptor := by
  unfold make checkFactory FieldSpec.misfilled FieldSpec.hasBoth
  cases hfactory : f.factory.isMissing with
  | true =>
    have hslot : f.factory.orMissing = .missing := if_pos hfactory
    simp [bind, Except.bind, FieldSpec.settled, FieldSpec.descriptor, hslot]
  | false =>
    have hslot : f.factory.orMissing = f.factory := if_neg (by simp [hfactory])
    cases hheld : f.factory.factory? with
    | none => simp [bind, Except.bind]
    | some g => simp [bind, Except.bind, hfactory, FieldSpec.settled, FieldSpec.descriptor, hslot]

theorem Descriptor.make_eq {f : FieldSpec} (hboth : f.hasBoth = false) (owner : String) :
    make owner f = if f.misfilled then .error ⟨owner, f.name, .notAFactory f.factory.shown⟩
      else .ok f.settled.descriptor := by
  rw [make_eq_ite, hboth, if_neg Bool.false_ne_true]

theorem FieldSpec.misfilled_settled (f : FieldSpec) : f.settled.misfilled = f.misfilled := by
  unfold misfilled settled
  cases hfactory : f.factory.isMissing with
  | true => simp [Value.orMissing, hfactory]
  | false => simp [Value.orMissing, hfactory]

theorem FieldSpec.hasBoth_settled (f : FieldSpec) : f.settled.hasBoth = f.hasBoth := by
  simp [hasBoth, settled, Value.isMissing_orMissing]

/-! ## Record classes -/

namespace RecordClass

/-- What an extraction can have against a record class. -/
inductive Blamed (c : RecordClass) : ConfigurationError → Prop
  | misfilled {f : FieldSpec} (first : c.fields.find? FieldSpec.misfilled = some f) :
      Blamed c ⟨c.name, f.name, .notAFactory f.factory.shown⟩

theorem describe_eq (c : RecordClass) {f : FieldSpec} (hboth : f.hasBoth = false) :
    c.describe f = if f.misfilled then .error ⟨c.name, f.name, .notAFactory f.factory.shown⟩
      else .ok f.settled.descriptor := by
  have hmake := Descriptor.make_eq (f := f.settled) (by rw [f.hasBoth_settled, hboth]) c.name
  rw [f.misfilled_settled, f.settled_settled] at hmake
  refine hmake.trans ?_
  cases hmis : f.misfilled with
  | false => rfl
  | true =>
    -- What is shown is the slot as it was declared, since it holds no marker.
    have hpresent : ¬ f.factory.isMissing = true := by
      intro h
      simp [FieldSpec.misfilled, h] at hmis
    have hslot : f.settled.factory = f.factory := if_neg hpresent
    rw [if_pos rfl, if_pos rfl, hslot]
    rfl

end RecordClass

namespace Stock

theorem Reached.hasBoth_fields {s : Stock} (hs : s.Reached) {c : RecordClass} (hc : c ∈ s.records) :
    ∀ f ∈ c.fields, f.hasBoth = false := by
  intro f hf
  obtain ⟨a, ha, hfa⟩ := hs.exists_own hc hf
  obtain ⟨d, id, hbuilt⟩ := hs.exists_recordBuilt a ha
  exact hbuilt.hasBoth_own f hfa

end Stock

/-! ## Struct classes -/

namespace Layout

theorem decode_cases (slot : Option Value) :
    (decode slot).2 = .unset ∨ ∃ g, decode slot = (.unset, .ofScalar (.factory g)) := by
  cases slot with
  | none => exact Or.inl rfl
  | some v =>
    cases hv : v.defaultFactory? with
    | none => exact Or.inl (by rw [decode, hv])
    | some g => exact Or.inr ⟨g, by rw [decode, hv]⟩

end Layout

namespace StructClass

variable (c : StructClass)

/-- There is an override for a name that is no field. -/
def Stray (k : String) : Prop := k ∈ c.overrides.keys ∧ k ∉ c.layout.names

/-- The override keeps the field out of the constructor. -/
def excludes (f : FieldInfo) : Bool := (c.override? f.name).bind FieldOverride.init == some false

/-- What an extraction can have against a struct class. -/
inductive Blamed : ConfigurationError → Prop
  | stray {k : String} (stray : c.Stray k)
      (least : ∀ k', c.Stray k' → k' = k ∨ Text.bytes k < Text.bytes k') :
      Blamed ⟨c.name, k, .unknownOverride⟩
  | excluded {f : FieldInfo} (known : ∀ k, ¬ c.Stray k)
      (first : (c.infos.find? fun f => c.excludes f && f.required) = some f) :
      Blamed ⟨c.name, f.name, .excludedAndRequired⟩

theorem init_spec (f : FieldInfo) : (c.spec f).init = !c.excludes f := by
  unfold spec excludes
  cases hover : c.override? f.name with
  | none => rfl
  | some o => cases hinit : o.init <;> simp [hinit]

theorem settled_spec (f : FieldInfo) : (c.spec f).settled = c.spec f := by
  simp [spec, FieldSpec.settled]

variable {c}

/-- Whatever a layout holds, what is read from it has no more than one slot filled, and nothing but
a factory in the factory slot. -/
theorem sound_spec {f : FieldInfo} (hf : f ∈ c.infos) :
    (c.spec f).hasBoth = false ∧ (c.spec f).misfilled = false := by
  obtain ⟨i, hi, rfl⟩ := List.mem_mapIdx.mp hf
  generalize (c.layout.names.zip c.layout.types).zip _ = rows at hi
  generalize rows[i] = row
  have hmissing : Value.unset.orMissing = .missing := rfl
  unfold FieldSpec.hasBoth FieldSpec.misfilled spec Layout.info
  rcases Layout.decode_cases row.2.2 with hunset | ⟨g, hfactory⟩
  · simp [hunset, hmissing]
  · have hheld : (Value.ofScalar (.factory g)).orMissing = .ofScalar (.factory g) := rfl
    have hsome : (Value.ofScalar (.factory g)).factory? = some g := rfl
    simp [hfactory, hmissing, hheld, hsome]

theorem describe_eq {f : FieldInfo} (hf : f ∈ c.infos) : c.describe f =
    if c.excludes f && f.required then .error ⟨c.name, f.name, .excludedAndRequired⟩
    else .ok (c.spec f).descriptor := by
  obtain ⟨hboth, hfilled⟩ := sound_spec hf
  have hmake : Descriptor.make c.name (c.spec f) = .ok (c.spec f).descriptor := by
    rw [Descriptor.make_eq hboth, hfilled, if_neg Bool.false_ne_true, c.settled_spec]
  rw [describe, hmake, c.init_spec, Bool.not_not]

theorem unknownOverride?_eq (hnames : c.infos.map FieldInfo.name = c.layout.names) :
    c.unknownOverride? = c.overrides.keys.find? fun k => k ∉ c.layout.names := by
  rw [unknownOverride?, ← hnames]
  apply List.find?_congr
  intro k _
  rw [Bool.eq_iff_iff]
  simp

end StructClass

namespace Stock

theorem Reached.names_infos {s : Stock} (hs : s.Reached) {c : StructClass} (hc : c ∈ s.structs) :
    c.infos.map FieldInfo.name = c.layout.names := by
  obtain ⟨d, hbuilt, _⟩ := hs.exists_structBuilt c hc
  rw [← hbuilt.names_declarations, Layout.declarations, List.map_map]
  rfl

theorem Reached.find?_stray {s : Stock} (hs : s.Reached) {c : StructClass} (hc : c ∈ s.structs) :
    match c.unknownOverride? with
    | some k => c.Stray k ∧ ∀ k', c.Stray k' → k' = k ∨ Text.bytes k < Text.bytes k'
    | none => ∀ k, ¬ c.Stray k := by
  obtain ⟨d, hbuilt, _⟩ := hs.exists_structBuilt c hc
  have hsorted : c.overrides.keys.Pairwise fun a b => a < b := by
    rw [hbuilt.overrides, Dict.keys, List.pairwise_map]
    exact d.sorted_mergedOverrides
  rw [StructClass.unknownOverride?_eq (hs.names_infos hc)]
  cases hfirst : c.overrides.keys.find? fun k => k ∉ c.layout.names with
  | none =>
    intro k hk
    exact absurd (by simpa using hk.2) (List.find?_eq_none.mp hfirst k hk.1)
  | some k =>
    refine ⟨⟨List.mem_of_find?_eq_some hfirst, by simpa using List.find?_some hfirst⟩, ?_⟩
    intro k' hk'
    exact find?_least hsorted hfirst hk'.1 (by simpa using hk'.2)

theorem Reached.extract_struct {s : Stock} (hs : s.Reached) {c : StructClass} (hc : c ∈ s.structs) :
    ((∃ ds, c.extract = .ok ds) ↔ (∀ k ∈ c.overrides.keys, k ∈ c.layout.names) ∧
      ∀ f ∈ c.infos, c.excludes f = true → f.required = false) ∧
    (∀ ds, c.extract = .ok ds → ds.map Descriptor.spec = c.infos.map c.spec) ∧
    ∀ e, c.extract = .error e → c.Blamed e := by
  have hstray := hs.find?_stray hc
  have hdescribe : ∀ f ∈ c.infos, _ := fun f hf => StructClass.describe_eq hf
  unfold StructClass.extract
  cases hunknown : c.unknownOverride? with
  | some k =>
    -- The fields are not looked at.
    rw [hunknown] at hstray
    refine ⟨?_, by simp, ?_⟩
    · simp only [reduceCtorEq, exists_false, false_iff]
      rintro ⟨hall, _⟩
      exact hstray.1.2 (hall k hstray.1.1)
    · rintro e ⟨⟩
      exact .stray hstray.1 hstray.2
  | none =>
    rw [hunknown] at hstray
    have hall : ∀ k ∈ c.overrides.keys, k ∈ c.layout.names := by
      intro k hk
      by_contra hnot
      exact hstray k ⟨hk, hnot⟩
    refine ⟨?_, ?_, ?_⟩
    · simp only [exists_mapM_ok_iff hdescribe, Bool.and_eq_false_imp]
      exact ⟨fun h => ⟨hall, h⟩, fun h => h.2⟩
    · intro ds hds
      rw [mapM_ok hdescribe hds, List.map_map]
      rfl
    · intro e he
      obtain ⟨f, hfirst, rfl⟩ := mapM_error hdescribe he
      exact .excluded hstray hfirst

theorem Reached.names_extracted {s : Stock} (hs : s.Reached) {c : StructClass}
    (hc : c ∈ s.structs) {ds : List Descriptor} (h : ds.map Descriptor.spec = c.infos.map c.spec) :
    ds.map Descriptor.name = c.layout.names := by
  have hnames := congrArg (List.map FieldSpec.name) h
  rw [List.map_map, List.map_map] at hnames
  exact hnames.trans (hs.names_infos hc)

theorem Reached.extract_record {s : Stock} (hs : s.Reached) {c : RecordClass} (hc : c ∈ s.records) :
    ((∃ ds, c.extract = .ok ds) ↔
      ∀ f ∈ c.fields, f.factory.isMissing = true ∨ f.factory.factory?.isSome = true) ∧
    (∀ ds, c.extract = .ok ds → ds.map Descriptor.spec = c.fields.map FieldSpec.settled) ∧
    ∀ e, c.extract = .error e → c.Blamed e := by
  have hdescribe : ∀ f ∈ c.fields, _ := fun f hf => c.describe_eq (hs.hasBoth_fields hc f hf)
  unfold RecordClass.extract
  refine ⟨?_, ?_, ?_⟩
  · simp only [exists_mapM_ok_iff hdescribe, FieldSpec.misfilled_eq_false_iff]
  · intro ds hds
    rw [mapM_ok hdescribe hds, List.map_map]
    rfl
  · intro e he
    obtain ⟨f, hfirst, rfl⟩ := mapM_error hdescribe he
    exact .misfilled hfirst

end Stock

/-! ## Every class -/

/-- Extraction succeeds for a struct class exactly if all overrides are those of fields and no
required field is kept out of the constructor, and for a record class exactly if no factory slot
holds something else. It gives one descriptor for each entry of the table, or the first thing that
is wrong. -/
theorem extraction_exact {s : Stock} (hs : s.Reached) (c : ClassObject) :
    (∀ t ∈ s.structs, c.classify = .struct t →
      ((∃ ds, extractFields c = .ok ds) ↔ (∀ k ∈ t.overrides.keys, k ∈ t.layout.names) ∧
        ∀ f ∈ t.infos, t.excludes f = true → f.required = false) ∧
      (∀ ds, extractFields c = .ok ds → ds.map Descriptor.spec = t.infos.map t.spec ∧
        ds.map Descriptor.name = t.layout.names) ∧
      ∀ e, extractFields c = .error e →
        ∃ b, e = .configuration b ∧ t.Blamed b ∧ b.fault ≠ .defaultAndFactory) ∧
    ∀ r ∈ s.records, c.classify = .record r →
      ((∃ ds, extractFields c = .ok ds) ↔
        ∀ f ∈ r.fields, f.factory.isMissing = true ∨ f.factory.factory?.isSome = true) ∧
      (∀ ds, extractFields c = .ok ds → ds.map Descriptor.spec = r.fields.map FieldSpec.settled) ∧
      ∀ e, extractFields c = .error e →
        ∃ b, e = .configuration b ∧ r.Blamed b ∧ b.fault ≠ .defaultAndFactory := by
  constructor
  · intro t ht hclass
    obtain ⟨hdomain, hok, herror⟩ := hs.extract_struct ht
    simp only [extractFields, hclass, mapError_ok_iff, mapError_error_iff]
    refine ⟨hdomain, fun ds hds => ⟨hok ds hds, hs.names_extracted ht (hok ds hds)⟩, ?_⟩
    rintro e ⟨b, hb, rfl⟩
    have hblamed := herror b hb
    exact ⟨b, rfl, hblamed, by cases hblamed <;> simp⟩
  · intro r hr hclass
    obtain ⟨hdomain, hok, herror⟩ := hs.extract_record hr
    simp only [extractFields, hclass, mapError_ok_iff, mapError_error_iff]
    refine ⟨hdomain, hok, ?_⟩
    rintro e ⟨b, hb, rfl⟩
    have hblamed := herror b hb
    exact ⟨b, rfl, hblamed, by cases hblamed; simp⟩

namespace Refused

def field : StructField := .plain "x" (.resolved "i64")

def base : StructClass :=
  ⟨⟨1⟩, "Base", [], [field], [("z", .empty)], false, .ofFields 1 [field], [("z", .empty)], false⟩

def closed : FieldOverride := { FieldOverride.empty with init := some false }

/-- Has an override for no field of its own beside the inherited one, and a required field that no
constructor takes. -/
def next : StructClass :=
  ⟨⟨2⟩, "Next", [base], [], [("b", .empty), ("x", closed)], false, .ofFields 1 [field],
    [("b", .empty), ("x", closed), ("z", .empty)], false⟩

def slot : FieldSpec :=
  { FieldSpec.plain .noDefault "n" (.resolved "i64") with
    factory := .scalar (.numbered 0) (.int .i64 1) }

def row : RecordClass := ⟨⟨3⟩, "Row", [], [], [slot], [slot], .named "Row"⟩

theorem reached : ∃ w, Stock.Reached ⟨w, [row], [next, base]⟩ := by
  have h₀ : Stock.Reached ⟨.start ⟨1⟩ 0 [], [], []⟩ := .start _
  obtain ⟨_, h₁, n₁⟩ := h₀.structAt rfl ⟨"Base", [], [field], [("z", .empty)], false, false⟩ base
    (by simp) rfl
  obtain ⟨_, h₂, n₂⟩ := h₁.structAt n₁
    ⟨"Next", [base], [], [("b", .empty), ("x", closed)], false, false⟩ next (by simp) rfl
  obtain ⟨w, h₃, _⟩ := h₂.recordAt n₂ ⟨"Row", [], [slot], none⟩ row (by simp) rfl
  exact ⟨w, h₃⟩

end Refused

open Refused in
/-- Of two overrides that are no field's the lesser is reported, and not the field that no
constructor takes. -/
theorem extraction_exact_refused : ∃ w, Stock.Reached ⟨w, [row], [next, base]⟩ ∧
    extractFields (.struct next) = .error (.configuration ⟨"Next", "b", .unknownOverride⟩) ∧
    next.Blamed ⟨"Next", "b", .unknownOverride⟩ ∧ next.Stray "z" ∧
    (∃ f ∈ next.infos, next.excludes f = true ∧ f.required = true) ∧
    extractFields (.record row) = .error (.configuration ⟨"Row", "n", .notAFactory "1"⟩) ∧
    row.Blamed ⟨"Row", "n", .notAFactory "1"⟩ := by
  obtain ⟨w, hw⟩ := reached
  obtain ⟨hstruct, -⟩ := extraction_exact hw (.struct next)
  obtain ⟨-, -, hrefused⟩ := hstruct next List.mem_cons_self rfl
  obtain ⟨_, ⟨⟩, hnext, -⟩ := hrefused (.configuration ⟨"Next", "b", .unknownOverride⟩) rfl
  obtain ⟨-, hrecord⟩ := extraction_exact hw (.record row)
  obtain ⟨-, -, hrefused⟩ := hrecord row List.mem_cons_self rfl
  obtain ⟨_, ⟨⟩, hrow, -⟩ := hrefused (.configuration ⟨"Row", "n", .notAFactory "1"⟩) rfl
  refine ⟨w, hw, rfl, hnext, ⟨by decide, by decide⟩, ⟨_, List.mem_cons_self, rfl, rfl⟩, rfl, hrow⟩

end FieldAtlas
