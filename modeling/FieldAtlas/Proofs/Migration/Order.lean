import FieldAtlas.Proofs.Migration.Hierarchy
import FieldAtlas.Proofs.Record.Order

/-!
# The order of fields in both forms

Names come up along the resolution order in a record class. In a struct class they come up along the
bases, depth first. The two orders agree as long as the resolution order is the depth-first one with
the last of each class kept.
-/

namespace FieldAtlas

/-- A field of this name that is given by position. -/
def FieldSpec.PlacedAs (f : FieldSpec) (g : StructField) : Prop :=
  g.name = f.name ∧ g.kwOnly = false

namespace FieldSpec.PlacedAs

variable {fs : List FieldSpec} {gs : List StructField}

theorem map_name (h : List.Forall₂ PlacedAs fs gs) :
    gs.map StructField.name = fs.map FieldSpec.name := by
  induction h with
  | nil => rfl
  | cons hfg _ ih => rw [List.map_cons, List.map_cons, hfg.1, ih]

theorem kwOnly (h : List.Forall₂ PlacedAs fs gs) : ∀ g ∈ gs, g.kwOnly = false := by
  induction h with
  | nil => simp
  | cons hfg _ ih => exact List.forall_mem_cons.mpr ⟨hfg.2, ih⟩

end FieldSpec.PlacedAs

/-! ## The names of a struct class -/

namespace StructDecl

variable {d : StructDecl} {c : StructClass}

theorem mem_declared {f : StructField} (h : f ∈ d.declared) :
    f ∈ d.fields.map d.ownField ∨ ∃ b ∈ d.bases, f ∈ b.layout.declarations := by
  rcases Table.mem_of_mem_putAll StructField.name h with h | h
  · exact Or.inl h
  · rcases Table.mem_of_mem_foldl_putAll StructField.name h with h | ⟨b, hb, hf⟩
    · simp at h
    · exact Or.inr ⟨b, List.mem_reverse.mp hb, hf⟩

theorem Built.kwOnly_declarations (h : d.Built c) (hpos : ∀ f ∈ d.declared, f.kwOnly = false) :
    ∀ f ∈ c.layout.declarations, f.kwOnly = false := by
  intro f hf
  have hmem : f.info.settled ∈ c.infos.map FieldInfo.settled := by
    rw [← c.map_settled_declarations]
    exact List.mem_map.mpr ⟨f, hf, rfl⟩
  rw [h.settled_infos] at hmem
  obtain ⟨g, hg, heq⟩ := List.mem_map.mp hmem
  have hkw : g.kwOnly = f.kwOnly := congrArg FieldInfo.kwOnly heq
  rw [← hkw]
  exact hpos g (d.declared_perm_ordered.mem_iff.mpr hg)

/-- Read from the back, the own names in front of those of the bases, with the last of each kept. -/
theorem Built.reverse_names (h : d.Built c) (hpos : ∀ f ∈ d.declared, f.kwOnly = false)
    (hbases : ∀ b ∈ c.bases, b.layout.declarations.map StructField.name = b.layout.names) :
    c.layout.names.reverse = ((c.ownFields.map StructField.name).reverse ++
      c.bases.flatMap fun b => b.layout.names.reverse).dedup := by
  have hnodup : ((d.bases.reverse.foldl (fun t b => Table.putAll StructField.name t
      b.layout.declarations) []).map StructField.name).Nodup :=
    Table.nodup_foldl_putAll StructField.name _ (by simp)
  rw [h.bases_eq] at hbases ⊢
  rw [h.names_eq, ordered_eq_declared hpos, declared, Names.reverse_map_putAll _ hnodup,
    Names.reverse_map_foldl_putAll, Names.dedup_append_dedup, h.ownFields_eq]
  congr 2
  exact List.flatMap_congr fun b hb => congrArg List.reverse (hbases b hb)

end StructDecl

namespace Counterparts

variable {s : Stock} {r : RecordClass} {t : StructClass}

theorem exists_zip (hlen : r.bases.length = t.bases.length) {b : StructClass} (hb : b ∈ t.bases) :
    ∃ p ∈ r.bases.zip t.bases, p.2 = b := by
  rw [← List.map_snd_zip hlen.ge] at hb
  exact List.mem_map.mp hb

theorem kwOnly_declared {d : StructDecl} (hbuilt : d.Built t)
    (hown : List.Forall₂ FieldSpec.PlacedAs r.own t.ownFields)
    (hbases : ∀ b ∈ t.bases, ∀ f ∈ b.layout.declarations, f.kwOnly = false) :
    ∀ f ∈ d.declared, f.kwOnly = false := by
  intro f hf
  rcases StructDecl.mem_declared hf with hf | ⟨b, hb, hf⟩
  · rw [← hbuilt.ownFields_eq] at hf
    exact FieldSpec.PlacedAs.kwOnly hown f hf
  · rw [← hbuilt.bases_eq] at hb
    exact hbases b hb f hf

theorem kwOnly_declarations (hs : s.Reached) (h : Counterparts s FieldSpec.PlacedAs r t) :
    ∀ f ∈ t.layout.declarations, f.kwOnly = false := by
  induction h with
  | @built r t _ ht hown hlen _ ih =>
    obtain ⟨d, hbuilt, _⟩ := hs.exists_structBuilt t ht
    apply hbuilt.kwOnly_declarations
    apply kwOnly_declared hbuilt hown
    intro b hb
    obtain ⟨p, hp, rfl⟩ := exists_zip hlen hb
    exact ih p hp

theorem reverse_names (hs : s.Reached) (h : Counterparts s FieldSpec.PlacedAs r t) :
    t.layout.names.reverse = (r.depthFirst.flatMap fun a => a.ownNames.reverse).dedup := by
  induction h with
  | @built r t hr ht hown hlen hpairs ih =>
    obtain ⟨d, hbuilt, hbases⟩ := hs.exists_structBuilt t ht
    have hpos : ∀ f ∈ d.declared, f.kwOnly = false := by
      apply kwOnly_declared hbuilt hown
      intro b hb
      obtain ⟨p, hp, rfl⟩ := exists_zip hlen hb
      exact (hpairs p hp).kwOnly_declarations hs
    have hdeclarations : ∀ b ∈ t.bases,
        b.layout.declarations.map StructField.name = b.layout.names := by
      intro b hb
      obtain ⟨_, hb, _⟩ := hs.exists_structBuilt b (hbases b hb)
      exact hb.names_declarations
    have hbelow : (r.bases.map fun b => (b.depthFirst.flatMap fun a => a.ownNames.reverse).dedup) =
        t.bases.map fun b => b.layout.names.reverse := by
      rw [← List.forall₂_eq_eq_eq, List.forall₂_map_left_iff, List.forall₂_map_right_iff,
        List.forall₂_iff_zip]
      exact ⟨hlen, fun hp => (ih _ hp).symm⟩
    rw [hbuilt.reverse_names hpos hdeclarations, FieldSpec.PlacedAs.map_name hown, List.flatMap_def,
      ← hbelow, ← List.flatMap_def, r.depthFirst_eq, List.flatMap_cons, List.flatMap_assoc]
    exact Names.dedup_append_congr _ (Names.dedup_flatMap_dedup _ _)

/-- The names come up along the bases from the last to the first, each after all that is above it. -/
theorem names_eq_firsts (hs : s.Reached) (h : Counterparts s FieldSpec.PlacedAs r t) :
    t.layout.names = Names.firsts (r.depthFirst.reverse.flatMap RecordClass.ownNames) := by
  rw [Names.firsts_flatMap_reverse, ← h.reverse_names hs, List.reverse_reverse]

end Counterparts

/-! ## The two orders -/

namespace RecordClass

/-- The resolution order is the depth-first one with the last of each class kept. -/
def InDepth (c : RecordClass) : Prop :=
  (c.depthFirst.map RecordClass.id).dedup = c.mro.map RecordClass.id

/-- Each class of the resolution order declares a name that no other of them declares. -/
def Told (c : RecordClass) : Prop :=
  ∀ a ∈ c.mro, ∃ n, ∀ b ∈ c.mro, n ∈ b.ownNames ↔ b = a

end RecordClass

namespace Stock

variable {s : Stock} {c : RecordClass}

theorem Reached.eq_of_mem_mro (hs : s.Reached) (hc : c ∈ s.records) {a b : RecordClass}
    (ha : a ∈ c.mro) (hb : b ∈ c.mro) (h : a.id = b.id) : a = b :=
  hs.eq_of_id_eq a (hs.mem_of_mem_mro c hc a ha) b (hs.mem_of_mem_mro c hc b hb) h

theorem Reached.nodup_ownNames (hs : s.Reached) (hc : c ∈ s.records) : c.ownNames.Nodup := by
  obtain ⟨d, _, hbuilt⟩ := hs.exists_recordBuilt c hc
  rw [RecordClass.ownNames, hbuilt.own_eq]
  exact hbuilt.nodup_own

theorem Reached.dedup_names_of_inDepth (hs : s.Reached) (hc : c ∈ s.records) (h : c.InDepth) :
    (c.depthFirst.flatMap fun a => a.ownNames.reverse).dedup =
      (c.mro.flatMap fun a => a.ownNames.reverse).dedup := by
  have hmem := hs.mem_depthFirst_iff c hc
  refine Names.dedup_flatMap_of_map_dedup _ ?_ (fun a ha => (hmem a).mpr ha) h
  intro a ha b hb hid
  exact hs.eq_of_mem_mro hc ((hmem a).mp ha) ((hmem b).mp hb) hid

theorem Reached.exists_pick (hs : s.Reached) (hc : c ∈ s.records) (h : c.Told) :
    ∃ g : String → Option ClassId, (∀ m n i, g m = some i → g n = some i → m = n) ∧
      ∀ a ∈ c.mro, a.ownNames.reverse.filterMap g = [a.id] := by
  choose! pick hpick using h
  have hown : ∀ a ∈ c.mro, pick a ∈ a.ownNames := fun a ha => (hpick a ha a ha).mpr rfl
  let g : String → Option ClassId := fun n =>
    (c.mro.find? fun a => pick a == n).map RecordClass.id
  have hg : ∀ n i, g n = some i → ∃ a ∈ c.mro, pick a = n ∧ a.id = i := by
    intro n i hn
    obtain ⟨a, ha, hid⟩ := Option.map_eq_some_iff.mp hn
    exact ⟨a, List.mem_of_find?_eq_some ha, by simpa using List.find?_some ha, hid⟩
  refine ⟨g, ?_, ?_⟩
  · intro m n i hm hn
    obtain ⟨a, ha, rfl, hai⟩ := hg m i hm
    obtain ⟨b, hb, rfl, hbi⟩ := hg n i hn
    rw [hs.eq_of_mem_mro hc ha hb (hai.trans hbi.symm)]
  · intro a ha
    have hnodup : a.ownNames.reverse.Nodup :=
      List.nodup_reverse.mpr (hs.nodup_ownNames (hs.mem_of_mem_mro c hc a ha))
    have hself : g (pick a) = some a.id := by
      have hsome : (c.mro.find? fun b => pick b == pick a).isSome :=
        List.find?_isSome.mpr ⟨a, ha, by simp⟩
      obtain ⟨b, hb⟩ := Option.isSome_iff_exists.mp hsome
      have hbc := List.mem_of_find?_eq_some hb
      have hba : pick b = pick a := by simpa using List.find?_some hb
      obtain rfl : b = a := (hpick a ha b hbc).mp (hba ▸ hown b hbc)
      simp only [g, hb, Option.map_some]
    refine Names.filterMap_eq_singleton hnodup (List.mem_reverse.mpr (hown a ha)) hself ?_
    intro n hn hne
    cases hgn : g n with
    | none => rfl
    | some i =>
      obtain ⟨b, hb, rfl, _⟩ := hg n i hgn
      exact absurd (congrArg pick ((hpick b hb a ha).mp (List.mem_reverse.mp hn))).symm hne

theorem Reached.inDepth_of_dedup_names (hs : s.Reached) (hc : c ∈ s.records) (htold : c.Told)
    (h : (c.mro.flatMap fun a => a.ownNames.reverse).dedup =
      (c.depthFirst.flatMap fun a => a.ownNames.reverse).dedup) : c.InDepth := by
  obtain ⟨g, hinj, hpick⟩ := hs.exists_pick hc htold
  have hids : ∀ l : List RecordClass, (∀ a ∈ l, a ∈ c.mro) →
      (l.flatMap fun a => a.ownNames.reverse).dedup.filterMap g = (l.map RecordClass.id).dedup := by
    intro l hl
    rw [Names.filterMap_dedup hinj, List.filterMap_flatMap,
      List.flatMap_congr fun a ha => hpick a (hl a ha), ← List.map_eq_flatMap]
  have hmro := hids c.mro fun _ ha => ha
  rw [h, hids c.depthFirst fun a ha => (hs.mem_depthFirst_iff c hc a).mp ha,
    (hs.ordered c hc).nodup.dedup] at hmro
  exact hmro

end Stock

/-- The names of a record class come up along the resolution order, and those of a struct class depth
first. The orders agree if the resolution order is the depth-first one with the last of each class
kept, and, where the names tell the classes apart, only then. -/
theorem field_order_exact {s : Stock} (hs : s.Reached) {r : RecordClass} {t : StructClass}
    (h : Counterparts s FieldSpec.PlacedAs r t) :
    r.fields.map FieldSpec.name = Names.firsts (r.mro.reverse.flatMap RecordClass.ownNames) ∧
      t.layout.names = Names.firsts (r.depthFirst.reverse.flatMap RecordClass.ownNames) ∧
      (r.InDepth → r.fields.map FieldSpec.name = t.layout.names) ∧
      (r.Told → (r.fields.map FieldSpec.name = t.layout.names ↔ r.InDepth)) := by
  have hr := h.mem_records
  have hagree : r.InDepth → r.fields.map FieldSpec.name = t.layout.names := by
    intro hdepth
    apply List.reverse_injective
    rw [hs.reverse_names r hr, h.reverse_names hs, hs.dedup_names_of_inDepth hr hdepth]
  refine ⟨hs.names_eq_firsts hr, h.names_eq_firsts hs, hagree, fun htold => ⟨?_, hagree⟩⟩
  intro heq
  apply hs.inDepth_of_dedup_names hr htold
  rw [← hs.reverse_names r hr, ← h.reverse_names hs, heq]

/-! ## A hierarchy that is not in depth -/

namespace Crossed

def field (name : String) : FieldSpec := .plain .noDefault name (.resolved "i64")

def far : RecordClass := ⟨⟨1⟩, "Far", [], [], [field "far"], [field "far"], .named "Far"⟩

def near : RecordClass := ⟨⟨2⟩, "Near", [], [], [field "near"], [field "near"], .named "Near"⟩

def left : RecordClass :=
  ⟨⟨3⟩, "Left", [near, far], [near, far], [field "left"],
    [field "far", field "near", field "left"], .named "Left"⟩

def right : RecordClass :=
  ⟨⟨4⟩, "Right", [near], [near], [field "right"], [field "near", field "right"], .named "Right"⟩

/-- The last of its ancestors is above its first base alone. -/
def bottom : RecordClass :=
  ⟨⟨5⟩, "Bottom", [left, right], [left, right, near, far], [],
    [field "far", field "near", field "right", field "left"], .named "Bottom"⟩

def slot (name : String) : StructField := .plain name (.resolved "i64")

def form (id : Nat) (name : String) (bases : List StructClass) (own : List StructField)
    (names : List String) : StructClass :=
  ⟨⟨id⟩, name, bases, own, [], false, .ofFields names.length (names.map slot), [], false⟩

def farForm : StructClass := form 6 "Far" [] [slot "far"] ["far"]

def nearForm : StructClass := form 7 "Near" [] [slot "near"] ["near"]

def leftForm : StructClass := form 8 "Left" [nearForm, farForm] [slot "left"] ["far", "near", "left"]

def rightForm : StructClass := form 9 "Right" [nearForm] [slot "right"] ["near", "right"]

def bottomForm : StructClass :=
  form 10 "Bottom" [leftForm, rightForm] [] ["near", "right", "far", "left"]

def records : List RecordClass := [bottom, right, left, near, far]

def forms : List StructClass := [bottomForm, rightForm, leftForm, nearForm, farForm]

open Diamond (decl formDecl)

theorem reached : ∃ w, Stock.Reached ⟨w, records, forms⟩ := by
  have h₀ : Stock.Reached ⟨.start ⟨1⟩ 0 [], [], []⟩ := .start _
  obtain ⟨_, h₁, n₁⟩ := h₀.recordAt rfl (decl far) far (by simp [decl, far]) rfl
  obtain ⟨_, h₂, n₂⟩ := h₁.recordAt n₁ (decl near) near (by simp [decl, near]) rfl
  obtain ⟨_, h₃, n₃⟩ := h₂.recordAt n₂ (decl left) left (by simp [decl, left]) rfl
  obtain ⟨_, h₄, n₄⟩ := h₃.recordAt n₃ (decl right) right (by simp [decl, right]) rfl
  obtain ⟨_, h₅, n₅⟩ := h₄.recordAt n₄ (decl bottom) bottom (by simp [decl, bottom]) rfl
  obtain ⟨_, h₆, n₆⟩ := h₅.structAt n₅ (formDecl farForm) farForm
    (by simp [formDecl, farForm, form]) rfl
  obtain ⟨_, h₇, n₇⟩ := h₆.structAt n₆ (formDecl nearForm) nearForm
    (by simp [formDecl, nearForm, form]) rfl
  obtain ⟨_, h₈, n₈⟩ := h₇.structAt n₇ (formDecl leftForm) leftForm
    (by simp [formDecl, leftForm, form]) rfl
  obtain ⟨_, h₉, n₉⟩ := h₈.structAt n₈ (formDecl rightForm) rightForm
    (by simp [formDecl, rightForm, form]) rfl
  obtain ⟨w, h, _⟩ := h₉.structAt n₉ (formDecl bottomForm) bottomForm
    (by simp [formDecl, bottomForm, form]) rfl
  exact ⟨w, h⟩

theorem counterparts (w : World) :
    Counterparts ⟨w, records, forms⟩ FieldSpec.PlacedAs bottom bottomForm := by
  have hfar : Counterparts ⟨w, records, forms⟩ FieldSpec.PlacedAs far farForm :=
    .built (by simp [records]) (by simp [forms]) (.cons ⟨rfl, rfl⟩ .nil) rfl (by simp [far])
  have hnear : Counterparts ⟨w, records, forms⟩ FieldSpec.PlacedAs near nearForm :=
    .built (by simp [records]) (by simp [forms]) (.cons ⟨rfl, rfl⟩ .nil) rfl (by simp [near])
  have hleft : Counterparts ⟨w, records, forms⟩ FieldSpec.PlacedAs left leftForm :=
    .built (by simp [records]) (by simp [forms]) (.cons ⟨rfl, rfl⟩ .nil) rfl
      (by simpa [left, leftForm, form] using ⟨hnear, hfar⟩)
  have hright : Counterparts ⟨w, records, forms⟩ FieldSpec.PlacedAs right rightForm :=
    .built (by simp [records]) (by simp [forms]) (.cons ⟨rfl, rfl⟩ .nil) rfl
      (by simpa [right, rightForm, form] using hnear)
  exact .built (by simp [records]) (by simp [forms]) .nil rfl
    (by simpa [bottom, bottomForm, form] using ⟨hleft, hright⟩)

end Crossed

open Crossed in
/-- The class above the first base alone comes last in the resolution order, but not depth first. -/
theorem field_order_exact_crossed : ∃ w, Stock.Reached ⟨w, records, forms⟩ ∧
    Counterparts ⟨w, records, forms⟩ FieldSpec.PlacedAs bottom bottomForm ∧
    bottom.fields.map FieldSpec.name =
      Names.firsts (bottom.mro.reverse.flatMap RecordClass.ownNames) ∧
    bottomForm.layout.names =
      Names.firsts (bottom.depthFirst.reverse.flatMap RecordClass.ownNames) ∧ ¬ bottom.InDepth := by
  obtain ⟨w, hw⟩ := reached
  obtain ⟨hrecord, hstruct, hagree, _⟩ := field_order_exact hw (counterparts w)
  exact ⟨w, hw, counterparts w, hrecord, hstruct, fun h => absurd (hagree h) (by decide)⟩

open Crossed in
/-- The same declarations on the same bases give the fields another order in each form. -/
theorem field_orders_differ : ∃ w, Stock.Reached ⟨w, records, forms⟩ ∧
    Counterparts ⟨w, records, forms⟩ FieldSpec.PlacedAs bottom bottomForm ∧
    bottom.fields.map FieldSpec.name = ["far", "near", "right", "left"] ∧
    bottomForm.layout.names = ["near", "right", "far", "left"] := by
  obtain ⟨w, hw⟩ := reached
  exact ⟨w, hw, counterparts w, rfl, rfl⟩

end FieldAtlas
