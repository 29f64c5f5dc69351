import FieldAtlas.Proofs.Naming
import FieldAtlas.Proofs.Object.Definition

/-!
# Fields by their public names

Public names are not checked against each other: a lookup gives the first field of that name. Two
names of a class meet only where a field names itself in its remarks, or in camel case.
-/

namespace FieldAtlas

/-- The remarks of the field hold its public name. -/
def ObjectField.isNamed (f : ObjectField) : Bool :=
  ((f.descriptor.metadataValue? "graphql_name").bind Value.text?).isSome

/-! ## Lookups in a list with distinct names -/

namespace ObjectDefinition

section

variable {d : ObjectDefinition} (distinct : (d.fields.map ObjectField.name).Nodup)
include distinct

theorem eq_of_name_eq {f g : ObjectField} (hf : f ∈ d.fields) (hg : g ∈ d.fields)
    (h : f.name = g.name) : f = g :=
  List.inj_on_of_nodup_map distinct hf hg h

theorem publicField?_eq_some_iff {before after : List ObjectField} {f : ObjectField}
    (split : d.fields = before ++ f :: after) :
    d.publicField? f.publicName = some f ↔ ∀ g ∈ before, g.publicName ≠ f.publicName := by
  rw [publicField?, split, List.find?_append]
  cases hfirst : before.find? fun g => g.publicName == f.publicName with
  | none =>
    rw [List.find?_eq_none] at hfirst
    simpa using hfirst
  | some g =>
    have hg : g ∈ before := List.mem_of_find?_eq_some hfirst
    have hpublic : g.publicName = f.publicName := by simpa using List.find?_some hfirst
    -- What is found instead is another field, since `f` does not stand twice.
    have hne : g ≠ f := by
      rintro rfl
      rw [split, List.map_append, List.map_cons, List.nodup_append] at distinct
      exact distinct.2.2 _ (List.mem_map_of_mem hg) _ List.mem_cons_self rfl
    simp only [Option.some_or, Option.some.injEq, hne, false_iff]
    exact fun h => h g hg hpublic

theorem publicField?_all_iff : (∀ f ∈ d.fields, d.publicField? f.publicName = some f) ↔
    (d.fields.map ObjectField.publicName).Nodup := by
  constructor
  · intro h
    apply List.Nodup.map_on
    · intro f hf g hg hpublic
      have hfound := h f hf
      rw [hpublic, h g hg] at hfound
      exact (Option.some.inj hfound).symm
    · exact List.Nodup.of_map _ distinct
  · intro h f hf
    obtain ⟨before, after, split⟩ := List.append_of_mem hf
    rw [publicField?_eq_some_iff distinct split]
    intro g hg hpublic
    rw [split, List.map_append, List.map_cons, List.nodup_append] at h
    exact h.2.2 _ (List.mem_map_of_mem hg) _ List.mem_cons_self hpublic

end

/-! ## Where a public name comes from -/

theorem publicName_of_mem {c : ClassObject} {config : ObjectConfig} {auto : Bool}
    {ds : List Descriptor} {f : ObjectField} (hf : f ∈ (ofFields c config auto ds).fields)
    (unnamed : f.isNamed = false) :
    f.publicName = if auto then Naming.toCamelCase f.name else f.name := by
  obtain ⟨d, _, _, rfl⟩ := mem_fields_ofFields.mp hf
  have hnone : (d.metadataValue? "graphql_name").bind Value.text? = none := by
    simpa [ObjectField.isNamed, ObjectField.ofDescriptor] using unnamed
  rw [name_ofDescriptor, ObjectField.ofDescriptor, ObjectField.publicNameOf, hnone]

section

variable {c : ClassObject} {config : ObjectConfig} {auto : Bool} {ds : List Descriptor}
  (distinct : ((ofFields c config auto ds).fields.map ObjectField.name).Nodup)
include distinct

theorem meet_of_publicName_eq {f g : ObjectField} (hf : f ∈ (ofFields c config auto ds).fields)
    (hg : g ∈ (ofFields c config auto ds).fields) (hne : f ≠ g)
    (hpublic : f.publicName = g.publicName) :
    f.isNamed = true ∨ g.isNamed = true ∨
      auto = true ∧ Naming.toCamelCase f.name = Naming.toCamelCase g.name := by
  by_contra hnot
  simp only [not_or, Bool.not_eq_true] at hnot
  obtain ⟨hfn, hgn, hcamel⟩ := hnot
  rw [publicName_of_mem hf hfn, publicName_of_mem hg hgn] at hpublic
  cases auto with
  | false => exact hne (eq_of_name_eq distinct hf hg hpublic)
  | true => exact hcamel ⟨rfl, hpublic⟩

theorem nodup_publicName (unnamed : ∀ f ∈ (ofFields c config auto ds).fields, f.isNamed = false)
    (apart : auto = false ∨
      ∀ f ∈ (ofFields c config auto ds).fields, Naming.Plain f.name.toList) :
    ((ofFields c config auto ds).fields.map ObjectField.publicName).Nodup := by
  apply List.Nodup.map_on
  · intro f hf g hg hpublic
    by_contra hne
    rcases meet_of_publicName_eq distinct hf hg hne hpublic with h | h | ⟨rfl, hcamel⟩
    · rw [unnamed f hf] at h
      cases h
    · rw [unnamed g hg] at h
      cases h
    · rcases apart with h | plain
      · cases h
      · have hname := Naming.toCamelCase_inj (plain f hf) (plain g hg) hcamel
        exact hne (eq_of_name_eq distinct hf hg hname)
  · exact List.Nodup.of_map _ distinct

end

end ObjectDefinition

theorem Program.Reached.distinct_names {p : Program} (hp : p.Reached) {c : ClassObject}
    (hc : c ∈ p.classes) {via : Option IntrospectorId} {config : ObjectConfig} {d : ObjectDefinition}
    (built : (p.world.buildDefinition via c config).1 = .ok d) :
    (d.fields.map ObjectField.name).Nodup := by
  obtain ⟨ds, hds, rfl⟩ := hp.buildDefinition_ok hc built
  rw [ObjectDefinition.map_name_ofFields]
  exact (hp.nodup_names hc hds).sublist (List.filter_sublist.map Descriptor.name)

/-- A lookup by the public name of a field gives this field exactly if no field before it has the
name too. Of two fields with one public name, one names itself, or both names are one in camel case;
so all fields are found by their names where none names itself and camel case keeps the names
apart. -/
theorem public_name_finds_first {p : Program} (hp : p.Reached) {c : ClassObject}
    (hc : c ∈ p.classes) {via : Option IntrospectorId} {config : ObjectConfig} {d : ObjectDefinition}
    (built : (p.world.buildDefinition via c config).1 = .ok d) :
    (∀ before f after, d.fields = before ++ f :: after →
      (d.publicField? f.publicName = some f ↔ ∀ g ∈ before, g.publicName ≠ f.publicName)) ∧
    ((∀ f ∈ d.fields, d.publicField? f.publicName = some f) ↔
      (d.fields.map ObjectField.publicName).Nodup) ∧
    (∀ f ∈ d.fields, ∀ g ∈ d.fields, f ≠ g → f.publicName = g.publicName →
      f.isNamed = true ∨ g.isNamed = true ∨
        (p.world.introspector via).settings.autoCamelCase = true ∧
          Naming.toCamelCase f.name = Naming.toCamelCase g.name) ∧
    ((∀ f ∈ d.fields, f.isNamed = false) →
      (p.world.introspector via).settings.autoCamelCase = false ∨
        (∀ f ∈ d.fields, Naming.Plain f.name.toList) →
      ∀ f ∈ d.fields, d.publicField? f.publicName = some f) := by
  have distinct := hp.distinct_names hc built
  obtain ⟨ds, _, rfl⟩ := hp.buildDefinition_ok hc built
  refine ⟨fun _ _ _ => ObjectDefinition.publicField?_eq_some_iff distinct,
    ObjectDefinition.publicField?_all_iff distinct, ?_, ?_⟩
  · intro f hf g hg
    exact ObjectDefinition.meet_of_publicName_eq distinct hf hg
  · intro unnamed apart
    rw [ObjectDefinition.publicField?_all_iff distinct]
    exact ObjectDefinition.nodup_publicName distinct unnamed apart

/-! ## Two names that are one in camel case -/

namespace Clash

def snake : StructField := .plain "a_b" (.resolved "i64")

def camel : StructField := .plain "aB" (.resolved "i64")

def pair : StructClass :=
  ⟨⟨1⟩, "Pair", [], [snake, camel], [], false, .ofFields 2 [snake, camel], [], false⟩

theorem lasting_default : ∀ f ∈ [snake, camel], f.default.Lasting := by
  simp [snake, camel, StructField.plain, Value.Lasting, Value.unset, Value.held_ofMarker]

theorem reached : ∃ w, Program.Reached ⟨w, [.struct pair]⟩ ∧ ∃ d f g,
    (w.buildDefinition none (.struct pair) (.named "Pair")).1 = .ok d ∧ d.fields = [f, g] ∧
      f.name = "a_b" ∧ g.name = "aB" ∧ f.publicName = "aB" ∧ g.publicName = "aB" := by
  have h₀ : Program.Reached ⟨.start ⟨1⟩ 0 [], []⟩ := .start rfl rfl
  have h₁ := h₀.step (.made (.struct (d := ⟨"Pair", [], [snake, camel], [], false, false⟩) (c := pair)
    (by simp) lasting_default (by simp) rfl))
  exact ⟨_, h₁, _, _, _, rfl, rfl, rfl, rfl, rfl, rfl⟩

end Clash

open Clash in
/-- Only the first of the two is found. -/
theorem public_name_finds_first_pair : ∃ w, Program.Reached ⟨w, [.struct pair]⟩ ∧
    .struct pair ∈ [ClassObject.struct pair] ∧ ∃ d f g,
      (w.buildDefinition none (.struct pair) (.named "Pair")).1 = .ok d ∧ d.fields = [f, g] ∧
      d.publicField? f.publicName = some f ∧ d.publicField? g.publicName ≠ some g := by
  obtain ⟨w, hw, d, f, g, hd, hfields, -, -, hf, hg⟩ := reached
  have hc : .struct pair ∈ [ClassObject.struct pair] := List.mem_cons_self
  obtain ⟨hfinds, -⟩ := public_name_finds_first hw hc hd
  refine ⟨w, hw, hc, d, f, g, hd, hfields, ?_, ?_⟩
  · exact (hfinds [] f [g] hfields).mpr (by simp)
  · intro h
    exact (hfinds [f] g [] hfields).mp h f List.mem_cons_self (hf.trans hg.symm)

open Clash in
/-- The lookup by the public name of the second field gives the first. -/
theorem public_name_of_another : ∃ w, Program.Reached ⟨w, [.struct pair]⟩ ∧ ∃ d f g,
    (w.buildDefinition none (.struct pair) (.named "Pair")).1 = .ok d ∧ d.fields = [f, g] ∧
      f.name = "a_b" ∧ g.name = "aB" ∧ d.publicField? g.publicName = some f := by
  obtain ⟨w, hw, d, f, g, hd, hfields, hsnake, hcamel, hf, hg⟩ := reached
  refine ⟨w, hw, d, f, g, hd, hfields, hsnake, hcamel, ?_⟩
  simp [ObjectDefinition.publicField?, hfields, hf, hg]

end FieldAtlas
