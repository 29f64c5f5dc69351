import FieldAtlas.Proofs.First
import FieldAtlas.Proofs.Record.Hierarchy
import FieldAtlas.Proofs.Table

/-!
# Where the fields of a record class come from

A class stores a field as it declares it, or else as the first of its bases that has the field
stores it. That need not be how the nearest class in the resolution order declares it: a class that
merely inherits a field passes it on ahead of one that declares it anew.
-/

namespace FieldAtlas

namespace RecordClass

/-- The field as the class itself declares it. -/
def declared? (c : RecordClass) (n : String) : Option FieldSpec :=
  c.own.find? fun f => f.name == n

/-- The field as the nearest class in the resolution order declares it. -/
def nearest? (c : RecordClass) (n : String) : Option FieldSpec :=
  c.mro.findSome? fun a => a.declared? n

/-- The classes ahead of `p` in the resolution order. -/
def ahead (c p : RecordClass) : List RecordClass :=
  c.mro.takeWhile fun a => a.id ≠ p.id

/-- The walk that ends at the class which a field comes from: at each class that does not declare
the field it goes to the first base that has it. -/
inductive Supplies : RecordClass → String → RecordClass → Prop
  | own {c : RecordClass} {n : String} : (c.declared? n).isSome → Supplies c n c
  | base {c b p : RecordClass} {n : String} : c.declared? n = none →
      (c.bases.find? fun b => (b.field? n).isSome) = some b → Supplies b n p → Supplies c n p

theorem isSome_field?_iff (c : RecordClass) (n : String) :
    (c.field? n).isSome ↔ n ∈ c.fields.map FieldSpec.name :=
  Table.isSome_find?_iff FieldSpec.name c.fields n

end RecordClass

/-! ## The merged table -/

namespace RecordDecl

variable {d : RecordDecl} {id : ClassId} {c : RecordClass}

theorem Built.nodup_fields (h : d.Built id c) : (c.fields.map FieldSpec.name).Nodup := by
  rw [h.fields]
  exact Table.nodup_putAll FieldSpec.name (Table.nodup_foldl_putAll _ _ (by simp)) d.fields

theorem ownFault?_eq_none (h : d.ownError? = none) :
    Table.ownFault? FieldSpec.name FieldSpec.hasBoth [] d.fields = none := by
  unfold ownError? at h
  split at h
  · assumption
  · simp at h
  · simp at h

theorem Built.nodup_own (h : d.Built id c) : (d.fields.map FieldSpec.name).Nodup :=
  ((Table.ownFault?_eq_none_iff _ _ _ _).mp (ownFault?_eq_none h.sound)).2.1

theorem Built.hasBoth_own (h : d.Built id c) : ∀ f ∈ c.own, f.hasBoth = false := by
  rw [h.own_eq]
  exact ((Table.ownFault?_eq_none_iff _ _ _ _).mp (ownFault?_eq_none h.sound)).2.2

theorem Built.field?_eq (h : d.Built id c)
    (has : ∀ a ∈ c.ancestors, (a.fields.map FieldSpec.name).Nodup) (n : String) :
    c.field? n = (c.declared? n).or (c.ancestors.findSome? fun a => a.field? n) := by
  rw [RecordClass.field?, h.fields, table, Table.find?_putAll FieldSpec.name h.nodup_own,
    Table.find?_foldl_putAll FieldSpec.name has, RecordClass.declared?, h.own_eq]
  rfl

end RecordDecl

/-! ## The law of the first base -/

namespace Stock

variable {s : Stock} {c : RecordClass}

theorem Reached.nodup_fields (hs : s.Reached) (hc : c ∈ s.records) :
    (c.fields.map FieldSpec.name).Nodup := by
  obtain ⟨d, id, hbuilt⟩ := hs.exists_recordBuilt c hc
  exact hbuilt.nodup_fields

theorem Reached.table_of_single (hs : s.Reached) {b : RecordClass} (hb : b ∈ s.records)
    (d : RecordDecl) : d.table b.mro = Table.putAll FieldSpec.name b.fields d.fields := by
  obtain ⟨_, _, hbuilt⟩ := hs.exists_recordBuilt b hb
  have hprefix := Table.prefix_map_putAll FieldSpec.name
    (b.ancestors.reverse.foldl (fun t c => Table.putAll FieldSpec.name t c.fields) []) b.own
  rw [hbuilt.own_eq, ← RecordDecl.table, ← hbuilt.fields] at hprefix
  rw [RecordDecl.table, RecordClass.mro, List.reverse_cons, List.foldl_append, List.foldl_cons,
    List.foldl_nil, Table.putAll_eq_of_prefix FieldSpec.name hbuilt.nodup_fields hprefix]

theorem Reached.mem_of_mem_ancestors (hs : s.Reached) (hc : c ∈ s.records) {a : RecordClass}
    (ha : a ∈ c.ancestors) : a ∈ s.records :=
  hs.mem_of_mem_mro c hc a (List.mem_cons_of_mem _ ha)

theorem Reached.field?_eq_ancestors (hs : s.Reached) (hc : c ∈ s.records) (n : String) :
    c.field? n = (c.declared? n).or (c.ancestors.findSome? fun a => a.field? n) := by
  obtain ⟨d, id, hbuilt⟩ := hs.exists_recordBuilt c hc
  exact hbuilt.field?_eq (fun a ha => hs.nodup_fields (hs.mem_of_mem_ancestors hc ha)) n

theorem Reached.isSome_field?_of_mem_mro (hs : s.Reached) (hc : c ∈ s.records) {a : RecordClass}
    (ha : a ∈ c.mro) {n : String} (h : (a.field? n).isSome) : (c.field? n).isSome := by
  rcases List.mem_cons.mp ha with rfl | ha
  · exact h
  have hsome : (c.ancestors.findSome? fun a => a.field? n).isSome :=
    List.findSome?_isSome_iff.mpr ⟨a, ha, h⟩
  rw [hs.field?_eq_ancestors hc]
  simp [hsome]

theorem Reached.mem_of_mem_bases (hs : s.Reached) (hc : c ∈ s.records) {b : RecordClass}
    (hb : b ∈ c.bases) : b ∈ c.ancestors :=
  (hs.resolves c hc).keeps_bases.subset hb

theorem Reached.field?_eq_bases (hs : s.Reached) (hc : c ∈ s.records) (n : String) :
    c.field? n = (c.declared? n).or (c.bases.findSome? fun b => b.field? n) := by
  have hres := hs.resolves c hc
  rw [hs.field?_eq_ancestors hc,
    First.findSome?_sublist hres.keeps_bases (List.Nodup.of_map _ hres.nodup)]
  intro y hy hyn
  obtain ⟨b, hb, hby⟩ := (hres.mem_iff y).mp hy
  have hbs := hs.mem_of_mem_ancestors hc (hs.mem_of_mem_bases hc hb)
  have hmro : y ∈ b.mro := ((hs.ordered b hbs).mem_iff y).mpr hby
  refine ⟨b, hb, hs.isSome_field?_of_mem_mro hbs hmro hyn, ?_⟩
  rcases List.mem_cons.mp hmro with rfl | hmem
  · exact Or.inl rfl
  · right
    exact ((List.singleton_sublist.mpr hmem).cons_cons b).trans (hres.keeps_orders b hb)

theorem Reached.exists_supplier (hs : s.Reached) (n : String) : ∀ c ∈ s.records,
    (c.field? n).isSome → ∃ p, c.Supplies n p ∧ p ∈ c.mro ∧ (p.declared? n).isSome ∧
      c.field? n = p.declared? n := by
  apply hs.hierarchy_induction (P := fun c => (c.field? n).isSome → ∃ p, c.Supplies n p ∧
    p ∈ c.mro ∧ (p.declared? n).isSome ∧ c.field? n = p.declared? n)
  intro c hc ih hn
  rw [hs.field?_eq_bases hc] at hn ⊢
  cases hdecl : c.declared? n with
  | some f => exact ⟨c, .own (by simp [hdecl]), c.mem_mro_self, by simp [hdecl], by simp [hdecl]⟩
  | none =>
    rw [hdecl, Option.none_or, First.findSome?_eq_bind] at hn
    cases hfirst : c.bases.find? fun b => (b.field? n).isSome with
    | none => simp [hfirst] at hn
    | some b =>
      have hb := hs.mem_of_mem_bases hc (List.mem_of_find?_eq_some hfirst)
      obtain ⟨p, hsup, hp, hpn, heq⟩ := ih b hb (by simpa using List.find?_some hfirst)
      refine ⟨p, .base hdecl hfirst hsup, ?_, hpn, ?_⟩
      · exact ((hs.ordered c hc).keeps b (List.mem_cons_of_mem _ hb)).subset hp
      · rw [Option.none_or, First.findSome?_eq_bind, hfirst, ← heq]
        rfl

/-- The field is stored as the class at the end of the walk declares it. -/
theorem Reached.field?_of_supplies (hs : s.Reached) {p : RecordClass} {n : String}
    (h : c.Supplies n p) (hc : c ∈ s.records) : p ∈ s.records ∧ c.field? n = p.declared? n := by
  induction h with
  | own hn =>
    obtain ⟨f, hf⟩ := Option.isSome_iff_exists.mp hn
    refine ⟨hc, ?_⟩
    rw [hs.field?_eq_bases hc, hf]
    rfl
  | base hdecl hfirst _ ih =>
    have hb := hs.mem_of_mem_bases hc (List.mem_of_find?_eq_some hfirst)
    obtain ⟨hp, heq⟩ := ih (hs.mem_of_mem_ancestors hc hb)
    refine ⟨hp, ?_⟩
    rw [hs.field?_eq_bases hc, hdecl, Option.none_or, First.findSome?_eq_bind, hfirst, ← heq]
    rfl

theorem Reached.exists_declaring (hs : s.Reached) (hc : c ∈ s.records) {f : FieldSpec}
    (hf : f ∈ c.fields) : ∃ a ∈ c.mro, f ∈ a.own := by
  have hfind : c.field? f.name = some f := Table.find?_of_mem FieldSpec.name (hs.nodup_fields hc) hf
  obtain ⟨a, _, ha, _, heq⟩ := hs.exists_supplier f.name c hc (by rw [hfind]; rfl)
  rw [hfind, eq_comm] at heq
  exact ⟨a, ha, List.mem_of_find?_eq_some heq⟩

theorem Reached.exists_own (hs : s.Reached) {c : RecordClass} (hc : c ∈ s.records) {f : FieldSpec}
    (hf : f ∈ c.fields) : ∃ a ∈ s.records, f ∈ a.own := by
  obtain ⟨a, ha, hfa⟩ := hs.exists_declaring hc hf
  exact ⟨a, hs.mem_of_mem_mro c hc a ha, hfa⟩

end Stock

/-! ## The nearest declaration -/

theorem RecordClass.nearest?_eq {c p : RecordClass} (hc : (c.mro.map RecordClass.id).Nodup)
    (hp : p ∈ c.mro) {n : String} (hn : (p.declared? n).isSome) :
    c.nearest? n = ((c.ahead p).findSome? fun a => a.declared? n).or (p.declared? n) := by
  unfold nearest? ahead
  generalize c.mro = l at hc hp
  induction l with
  | nil => simp at hp
  | cons a l ih =>
    rw [List.map_cons, List.nodup_cons] at hc
    rcases List.mem_cons.mp hp with rfl | hp
    · obtain ⟨f, hf⟩ := Option.isSome_iff_exists.mp hn
      simp [hf]
    · have hne : a.id ≠ p.id := fun h => hc.1 (h ▸ List.mem_map_of_mem hp)
      have ih := ih hc.2 hp
      cases ha : a.declared? n with
      | none => simpa [hne, ha] using ih
      | some f => simp [hne, ha]

/-- A field is stored as the class at the end of the walk declares it. The nearest class that
declares the field declares it so too exactly if the first such class ahead of that one does, should
there be one. -/
theorem stored_field_exact {s : Stock} (hs : s.Reached) {c : RecordClass} (hc : c ∈ s.records)
    {n : String} (hn : n ∈ c.fields.map FieldSpec.name) :
    ∃ p, c.Supplies n p ∧ p ∈ c.mro ∧ (p.declared? n).isSome ∧ c.field? n = p.declared? n ∧
      (c.field? n = c.nearest? n ↔
        ∀ q, ((c.ahead p).find? fun a => (a.declared? n).isSome) = some q →
          q.declared? n = p.declared? n) := by
  obtain ⟨p, hsup, hp, hpn, heq⟩ := hs.exists_supplier n c hc ((c.isSome_field?_iff n).mpr hn)
  refine ⟨p, hsup, hp, hpn, heq, ?_⟩
  rw [heq, RecordClass.nearest?_eq (hs.ordered c hc).nodup hp hpn, First.findSome?_eq_bind]
  cases hfirst : (c.ahead p).find? fun a => (a.declared? n).isSome with
  | none => simp
  | some q =>
    have hq : (q.declared? n).isSome := by simpa using List.find?_some hfirst
    obtain ⟨f, hf⟩ := Option.isSome_iff_exists.mp hq
    simp [hf, eq_comm]

open Diamond in
/-- The side that inherits the field is asked first. -/
theorem stored_field_exact_bottom :
    ∃ w, Stock.Reached ⟨w, [bottom, right, left, root], []⟩ ∧ bottom ∈ [bottom, right, left, root] ∧
      "n" ∈ bottom.fields.map FieldSpec.name ∧
      ∃ p, bottom.Supplies "n" p ∧ bottom.field? "n" = p.declared? "n" := by
  obtain ⟨w, hw⟩ := reached_bottom
  have hc : bottom ∈ [bottom, right, left, root] := List.mem_cons_self
  have hn : "n" ∈ bottom.fields.map FieldSpec.name := by simp [bottom, field, FieldSpec.plain]
  obtain ⟨p, hsup, _, _, heq, _⟩ := stored_field_exact hw hc hn
  exact ⟨w, hw, hc, hn, p, hsup, heq⟩

open Diamond in
/-- The nearest declaration need not be the one that is stored. -/
theorem nearest_declaration_not_stored :
    ∃ w, Stock.Reached ⟨w, [bottom, right, left, root], []⟩ ∧ bottom.field? "n" = some (field 1) ∧
      bottom.nearest? "n" = some (field 2) ∧ field 1 ≠ field 2 := by
  obtain ⟨w, hw⟩ := reached_bottom
  exact ⟨w, hw, rfl, rfl, by simp [field]⟩

end FieldAtlas
