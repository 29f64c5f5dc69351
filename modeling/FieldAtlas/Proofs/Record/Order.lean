import FieldAtlas.Proofs.Names
import FieldAtlas.Proofs.Record.Supplier

/-!
# The order of the fields of a record class

The names in the table of a record class come up along its resolution order, from the furthest class
to the class itself.
-/

namespace FieldAtlas

namespace RecordClass

/-- The names that the class declares itself. -/
def ownNames (c : RecordClass) : List String := c.own.map FieldSpec.name

mutual

/-- The class, then all that is above each of its bases in turn, however often that is met. -/
def depthFirst : RecordClass → List RecordClass
  | ⟨id, name, bases, ancestors, own, fields, object⟩ =>
    ⟨id, name, bases, ancestors, own, fields, object⟩ :: depthFirstAll bases

def depthFirstAll : List RecordClass → List RecordClass
  | [] => []
  | b :: bs => b.depthFirst ++ depthFirstAll bs

end

theorem depthFirstAll_eq (bs : List RecordClass) : depthFirstAll bs = bs.flatMap depthFirst := by
  induction bs with
  | nil => simp [depthFirstAll]
  | cons b bs ih => rw [depthFirstAll, ih, List.flatMap_cons]

theorem depthFirst_eq (c : RecordClass) : c.depthFirst = c :: c.bases.flatMap depthFirst := by
  cases c
  rw [depthFirst, depthFirstAll_eq]

theorem dedup_flatMap_mro (f : RecordClass → List String) {l : List RecordClass}
    (hl : ∀ as a bs, l = as ++ a :: bs → ∀ x ∈ a.ancestors, x ∈ bs) :
    (l.flatMap fun a => a.mro.flatMap f).dedup = (l.flatMap f).dedup := by
  induction l with
  | nil => rfl
  | cons a l ih =>
    have hsub : a.ancestors.flatMap f ⊆ l.flatMap f := by
      intro n hn
      obtain ⟨x, hx, hnx⟩ := List.mem_flatMap.mp hn
      exact List.mem_flatMap.mpr ⟨x, hl [] a l rfl x hx, hnx⟩
    have ih := ih fun as b bs hb => hl (a :: as) b bs (by rw [hb, List.cons_append])
    rw [List.flatMap_cons, List.flatMap_cons, mro, List.flatMap_cons, List.append_assoc]
    apply Names.dedup_append_congr
    rw [Names.dedup_append_congr _ ih, List.Subset.dedup_append_right hsub]

end RecordClass

namespace Stock

variable {s : Stock} {c : RecordClass}

theorem Reached.mem_of_mem_ancestors_append (hs : s.Reached) (hc : c ∈ s.records)
    {as bs : List RecordClass} {a x : RecordClass} (h : c.ancestors = as ++ a :: bs)
    (hx : x ∈ a.ancestors) : x ∈ bs := by
  have hord := hs.ordered c hc
  have hmro : c.mro = c :: as ++ a :: bs := by rw [RecordClass.mro, h, List.cons_append]
  have hkeeps : (a :: a.ancestors).Sublist (c :: as ++ a :: bs) := by
    rw [← hmro]
    exact hord.keeps a (by rw [hmro]; simp)
  have hnodup : (c :: as ++ a :: bs).Nodup := by
    rw [← hmro]
    exact List.Nodup.of_map _ hord.nodup
  have hfront : a ∉ c :: as := by
    intro ha
    exact (List.nodup_append.mp hnodup).2.2 a ha a List.mem_cons_self rfl
  obtain ⟨r₁, r₂, heq, h₁, h₂⟩ := List.sublist_append_iff.mp hkeeps
  -- Nothing of the kept order falls on what stands before `a`, as `a` heads it.
  cases r₁ with
  | nil =>
    rw [List.nil_append] at heq
    subst heq
    exact (List.cons_sublist_cons.mp h₂).subset hx
  | cons y r₁ =>
    rw [List.cons_append, List.cons.injEq] at heq
    exact absurd (h₁.subset (heq.1 ▸ List.mem_cons_self)) hfront

theorem Reached.reverse_names (hs : s.Reached) : ∀ c ∈ s.records,
    (c.fields.map FieldSpec.name).reverse =
      (c.mro.flatMap fun a => a.ownNames.reverse).dedup := by
  apply hs.hierarchy_induction (P := fun c => (c.fields.map FieldSpec.name).reverse =
    (c.mro.flatMap fun a => a.ownNames.reverse).dedup)
  intro c hc ih
  obtain ⟨d, _, hbuilt⟩ := hs.exists_recordBuilt c hc
  have hnodup : ((c.ancestors.reverse.foldl (fun t a => Table.putAll FieldSpec.name t a.fields)
      []).map FieldSpec.name).Nodup := Table.nodup_foldl_putAll FieldSpec.name _ (by simp)
  have hancestors : (c.ancestors.flatMap fun a => (a.fields.map FieldSpec.name).reverse).dedup =
      (c.ancestors.flatMap fun a => a.ownNames.reverse).dedup := by
    rw [List.flatMap_congr ih, Names.dedup_flatMap_dedup]
    apply RecordClass.dedup_flatMap_mro
    intro as a bs h x hx
    exact hs.mem_of_mem_ancestors_append hc h hx
  rw [hbuilt.fields, RecordDecl.table, Names.reverse_map_putAll FieldSpec.name hnodup,
    Names.reverse_map_foldl_putAll, Names.dedup_append_dedup, ← hbuilt.own_eq, RecordClass.mro,
    List.flatMap_cons]
  exact Names.dedup_append_congr _ hancestors

/-- The names come up along the resolution order, furthest class first. -/
theorem Reached.names_eq_firsts (hs : s.Reached) (hc : c ∈ s.records) :
    c.fields.map FieldSpec.name = Names.firsts (c.mro.reverse.flatMap RecordClass.ownNames) := by
  rw [Names.firsts_flatMap_reverse, ← hs.reverse_names c hc, List.reverse_reverse]

theorem Reached.mem_depthFirst_iff (hs : s.Reached) :
    ∀ c ∈ s.records, ∀ a, a ∈ c.depthFirst ↔ a ∈ c.mro := by
  apply hs.hierarchy_induction (P := fun c => ∀ a, a ∈ c.depthFirst ↔ a ∈ c.mro)
  intro c hc ih a
  rw [(hs.ordered c hc).mem_iff, RecordClass.derives_iff, RecordClass.depthFirst_eq, List.mem_cons,
    List.mem_flatMap, eq_comm]
  refine or_congr_right (exists_congr fun b => and_congr_right fun hb => ?_)
  have hba := hs.mem_of_mem_bases hc hb
  rw [ih b hba, (hs.ordered b (hs.mem_of_mem_ancestors hc hba)).mem_iff]

end Stock

/-- Each name has one entry. The names stand as they come up along the resolution order, from the
furthest class to the class itself, each where it comes up first. -/
theorem record_fields_exact {s : Stock} (hs : s.Reached) {c : RecordClass} (hc : c ∈ s.records) :
    (c.fields.map FieldSpec.name).Nodup ∧
      c.fields.map FieldSpec.name = (c.mro.reverse.flatMap RecordClass.ownNames).eraseDups ∧
      ∀ f ∈ c.fields, c.field? f.name = some f := by
  have hnodup := hs.nodup_fields hc
  refine ⟨hnodup, ?_, ?_⟩
  · rw [hs.names_eq_firsts hc, Names.firsts_eq_eraseDups]
  · intro f hf
    exact Table.find?_of_mem FieldSpec.name hnodup hf

/-! ## Names at several levels -/

namespace Redeclared

def field (name : String) : FieldSpec := .plain .noDefault name (.resolved "i64")

def root : RecordClass :=
  ⟨⟨1⟩, "Root", [], [], [field "a", field "b"], [field "a", field "b"], .named "Root"⟩

def left : RecordClass :=
  ⟨⟨2⟩, "Left", [root], [root], [field "c", field "a"], [field "a", field "b", field "c"],
    .named "Left"⟩

def right : RecordClass :=
  ⟨⟨3⟩, "Right", [root], [root], [field "d", field "b"], [field "a", field "b", field "d"],
    .named "Right"⟩

def bottom : RecordClass :=
  ⟨⟨4⟩, "Bottom", [left, right], [left, right, root], [field "e", field "d"],
    [field "a", field "b", field "d", field "c", field "e"], .named "Bottom"⟩

open Diamond (decl)

theorem reached : ∃ w, Stock.Reached ⟨w, [bottom, right, left, root], []⟩ := by
  have h₀ : Stock.Reached ⟨.start ⟨1⟩ 0 [], [], []⟩ := .start _
  obtain ⟨_, h₁, n₁⟩ := h₀.recordAt rfl (decl root) root (by simp [decl, root]) rfl
  obtain ⟨_, h₂, n₂⟩ := h₁.recordAt n₁ (decl left) left (by simp [decl, left]) rfl
  obtain ⟨_, h₃, n₃⟩ := h₂.recordAt n₂ (decl right) right (by simp [decl, right]) rfl
  obtain ⟨w, h₄, _⟩ := h₃.recordAt n₃ (decl bottom) bottom (by simp [decl, bottom]) rfl
  exact ⟨w, h₄⟩

end Redeclared

open Redeclared in
/-- Each side declares a name of the root anew, and the bottom one of its sides. -/
theorem record_fields_exact_bottom : ∃ w, Stock.Reached ⟨w, [bottom, right, left, root], []⟩ ∧
    bottom ∈ [bottom, right, left, root] ∧
    bottom.mro.reverse.flatMap RecordClass.ownNames = ["a", "b", "d", "b", "c", "a", "e", "d"] ∧
    ["a", "b", "d", "c", "e"] =
      (bottom.mro.reverse.flatMap RecordClass.ownNames).eraseDups ∧
    ∀ f ∈ bottom.fields, bottom.field? f.name = some f := by
  obtain ⟨w, hw⟩ := reached
  obtain ⟨-, hnames, hfield⟩ := record_fields_exact hw (c := bottom) List.mem_cons_self
  exact ⟨w, hw, List.mem_cons_self, rfl, hnames, hfield⟩

end FieldAtlas
