import FieldAtlas.Proofs.Extract
import FieldAtlas.Proofs.Struct.Inheritance

/-!
# Struct classes as lists of declarations

A struct class can be thought of as one list of declarations, got from those of its bases and its
own. Its tables report exactly this list, although every class on the way takes the tables of its
bases apart and makes new ones.
-/

namespace FieldAtlas

/-! ## The list -/

namespace StructField

/-- `new` over `old`: a field takes the seat of the one with its name, or a new seat at the end. -/
def merge (old new : List StructField) : List StructField :=
  old.map (fun f => (new.find? fun g => g.name == f.name).getD f) ++
    new.filter fun g => g.name ∉ old.map StructField.name

/-- The fields by position, then those by keyword. -/
def split (fields : List StructField) : List StructField :=
  (fields.filter fun f => !f.kwOnly) ++ fields.filter fun f => f.kwOnly

end StructField

namespace StructClass

mutual

/-- The declarations of the bases from the last to the first, then the own ones. -/
def reference : StructClass → List StructField
  | ⟨_, _, bases, own, _, ownKwOnly, _, _, _⟩ =>
    StructField.split (StructField.merge (mergedReference bases)
      (own.map fun f => { f with kwOnly := f.kwOnly || ownKwOnly }))

def mergedReference : List StructClass → List StructField
  | [] => []
  | b :: bs => StructField.merge (mergedReference bs) b.reference

end

theorem reference_eq (c : StructClass) :
    c.reference = StructField.split (StructField.merge (mergedReference c.bases) c.ownFields) := by
  cases c
  rw [reference]
  rfl

/-- `a` is reached from `c` by following bases zero or more times. -/
def Derives (c a : StructClass) : Prop :=
  Relation.ReflTransGen (fun x b => b ∈ x.bases) c a

theorem derives_iff (c a : StructClass) : c.Derives a ↔ c = a ∨ ∃ b ∈ c.bases, b.Derives a :=
  Relation.ReflTransGen.cases_head_iff

end StructClass

/-- What is reported of a declared field. An empty slot holds some marker. -/
structure StructField.ReportedAs (f : StructField) (i : FieldInfo) : Prop where
  name : i.name = f.name
  type : i.type = f.type
  encodeName : i.encodeName = f.rename.getD f.name
  kwOnly : i.kwOnly = f.kwOnly
  default : f.default.isMissing = false → i.default = f.default
  no_default : f.default.isMissing = true → i.default.isMissing = true
  factory : ∀ g, f.factory = some g → i.factory = .ofScalar (.factory g)
  no_factory : f.factory = none → i.factory.isMissing = true

/-! ## One class -/

namespace StructField

theorem putAll_eq_merge {old new : List StructField} (hold : (old.map StructField.name).Nodup)
    (hnew : (new.map StructField.name).Nodup) :
    Table.putAll StructField.name old new = merge old new :=
  Table.putAll_eq StructField.name hold hnew

theorem mem_of_mem_merge {f : StructField} {old new : List StructField} (h : f ∈ merge old new) :
    f ∈ old ∨ f ∈ new := by
  rcases List.mem_append.mp h with h | h
  · obtain ⟨g, hg, rfl⟩ := List.mem_map.mp h
    cases hfind : new.find? fun x => x.name == g.name with
    | none => exact Or.inl hg
    | some x => exact Or.inr (List.mem_of_find?_eq_some hfind)
  · exact Or.inr (List.mem_filter.mp h).1

theorem mem_of_mem_split {f : StructField} {fields : List StructField} (h : f ∈ split fields) :
    f ∈ fields := by
  rcases List.mem_append.mp h with h | h
  · exact (List.mem_filter.mp h).1
  · exact (List.mem_filter.mp h).1

theorem map_settled_split {fields fields' : List StructField}
    (h : (fields.map fun f => f.info.settled) = fields'.map fun f => f.info.settled) :
    ((split fields).map fun f => f.info.settled) = (split fields').map fun f => f.info.settled := by
  have hsplit : ∀ l : List StructField, ((split l).map fun f => f.info.settled) =
      ((l.map fun f => f.info.settled).filter fun i => !i.kwOnly) ++
        (l.map fun f => f.info.settled).filter fun i => i.kwOnly := by
    intro l
    rw [split, List.map_append, List.filter_map, List.filter_map]
    rfl
  rw [hsplit, hsplit, h]

/-- The entry of a field tells its slots apart, if no default is one that stands for a factory. -/
theorem reportedAs {f : StructField} (hplain : f.default.defaultFactory? = none)
    (hboth : f.hasBoth = false) {i : FieldInfo} (h : i.settled = f.info.settled) :
    f.ReportedAs i := by
  have hname : i.name = f.name := congrArg FieldInfo.name h
  have htype : i.type = f.type := congrArg FieldInfo.type h
  have hencode : i.encodeName = f.encodeName := congrArg FieldInfo.encodeName h
  have hkw : i.kwOnly = f.kwOnly := congrArg FieldInfo.kwOnly h
  have hdefault : i.default.orMissing = f.default.orMissing := by
    rw [← StructField.default_info hplain hboth]
    exact congrArg FieldInfo.default h
  have hfactory : i.factory.orMissing =
      ((f.factory.map fun g => Value.ofScalar (.factory g)).getD .unset).orMissing := by
    rw [← StructField.factory_info hplain]
    exact congrArg FieldInfo.factory h
  refine ⟨hname, htype, hencode, hkw, fun hf => Value.eq_of_orMissing_eq hf hdefault, ?_, ?_, ?_⟩
  · intro hf
    rw [← Value.isMissing_orMissing, hdefault, Value.isMissing_orMissing, hf]
  · intro g hg
    rw [hg] at hfactory
    exact Value.eq_of_orMissing_eq rfl hfactory
  · intro hg
    rw [hg] at hfactory
    rw [← Value.isMissing_orMissing, hfactory]
    rfl

end StructField

/-! ## The whole hierarchy -/

namespace Stock

variable {s : Stock}

theorem Reached.nodup_reference (hs : s.Reached) {c : StructClass} (hc : c ∈ s.structs)
    (h : (c.reference.map fun f => f.info.settled) = c.infos.map FieldInfo.settled) :
    (c.reference.map StructField.name).Nodup := by
  have hnodup := hs.nodup_infos hc
  rw [← h, List.map_map] at hnodup
  exact hnodup

theorem Reached.map_mergedReference (hs : s.Reached) {bs : List StructClass}
    (hbs : ∀ b ∈ bs, b ∈ s.structs)
    (h : ∀ b ∈ bs, (b.reference.map fun f => f.info.settled) = b.infos.map FieldInfo.settled) :
    ((StructClass.mergedReference bs).map StructField.name).Nodup ∧
      ((StructClass.mergedReference bs).map fun f => f.info.settled) =
        (bs.reverse.foldl (fun t b => Table.putAll StructField.name t b.layout.declarations) []).map
          fun f => f.info.settled := by
  have hname : ∀ f : StructField, f.info.settled.name = f.name := fun _ => rfl
  induction bs with
  | nil =>
    rw [StructClass.mergedReference]
    exact ⟨List.nodup_nil, rfl⟩
  | cons b bs ih =>
    obtain ⟨hnodup, hmap⟩ := ih (fun x hx => hbs x (List.mem_cons_of_mem _ hx))
      fun x hx => h x (List.mem_cons_of_mem _ hx)
    have hb := h b List.mem_cons_self
    have hput := StructField.putAll_eq_merge hnodup
      (hs.nodup_reference (hbs b List.mem_cons_self) hb)
    rw [StructClass.mergedReference, ← hput]
    refine ⟨Table.nodup_putAll _ hnodup _, ?_⟩
    rw [Table.map_putAll_map hname, hmap, hb, ← b.map_settled_declarations,
      ← Table.map_putAll_map hname, List.reverse_cons, List.foldl_append, List.foldl_cons,
      List.foldl_nil]

theorem Reached.map_reference (hs : s.Reached) : ∀ c ∈ s.structs,
    (c.reference.map fun f => f.info.settled) = c.infos.map FieldInfo.settled := by
  have hname : ∀ f : StructField, f.info.settled.name = f.name := fun _ => rfl
  apply hs.structs_induction (P := fun c =>
    (c.reference.map fun f => f.info.settled) = c.infos.map FieldInfo.settled)
  intro c hc ih
  obtain ⟨d, hbuilt, hbases⟩ := hs.exists_structBuilt c hc
  obtain ⟨hnodup, hmap⟩ := hs.map_mergedReference hbases ih
  rw [hbuilt.settled_infos, c.reference_eq]
  apply StructField.map_settled_split
  rw [← StructField.putAll_eq_merge hnodup hbuilt.nodup_ownFields, Table.map_putAll_map hname, hmap,
    hbuilt.bases_eq, hbuilt.ownFields_eq, ← Table.map_putAll_map hname]
  rfl

end Stock

namespace StructClass

theorem mem_mergedReference {f : StructField} {bs : List StructClass}
    (h : f ∈ mergedReference bs) : ∃ b ∈ bs, f ∈ b.reference := by
  induction bs with
  | nil => simp [mergedReference] at h
  | cons b bs ih =>
    rw [mergedReference] at h
    rcases StructField.mem_of_mem_merge h with h | h
    · obtain ⟨x, hx, hf⟩ := ih h
      exact ⟨x, List.mem_cons_of_mem _ hx, hf⟩
    · exact ⟨b, List.mem_cons_self, h⟩

theorem exists_mem_ownFields {s : Stock} (hs : s.Reached) : ∀ c ∈ s.structs, ∀ f ∈ c.reference,
    ∃ a ∈ s.structs, c.Derives a ∧ f ∈ a.ownFields := by
  apply hs.structs_induction (P := fun c => ∀ f ∈ c.reference,
    ∃ a ∈ s.structs, c.Derives a ∧ f ∈ a.ownFields)
  intro c hc ih f hf
  rw [reference_eq] at hf
  rcases StructField.mem_of_mem_merge (StructField.mem_of_mem_split hf) with hf | hf
  · obtain ⟨b, hb, hf⟩ := mem_mergedReference hf
    obtain ⟨a, ha, hba, hf⟩ := ih b hb f hf
    exact ⟨a, ha, Relation.ReflTransGen.head hb hba, hf⟩
  · exact ⟨c, hc, Relation.ReflTransGen.refl, hf⟩

end StructClass

/-- The tables report the declarations of the list, one by one, if no declared default is one that
stands for a factory. -/
theorem layout_lossless {s : Stock} (hs : s.Reached) {c : StructClass} (hc : c ∈ s.structs)
    (hplain : ∀ a, c.Derives a → ∀ f ∈ a.own, f.default.defaultFactory? = none) :
    List.Forall₂ StructField.ReportedAs c.reference c.infos := by
  have hsound : ∀ f ∈ c.reference, f.default.defaultFactory? = none ∧ f.hasBoth = false := by
    intro f hf
    obtain ⟨a, ha, hca, hfa⟩ := StructClass.exists_mem_ownFields hs c hc f hf
    obtain ⟨d, hbuilt, _⟩ := hs.exists_structBuilt a ha
    refine ⟨?_, hbuilt.hasBoth_ownFields f hfa⟩
    obtain ⟨g, hg, rfl⟩ := List.mem_map.mp hfa
    exact hplain a hca g hg
  have hinfos := List.forall₂_eq_eq_eq ▸ hs.map_reference c hc
  rw [List.forall₂_map_left_iff, List.forall₂_map_right_iff] at hinfos
  refine List.Forall₂.imp ?_ ((List.forall₂_and_left _ _).mpr ⟨hsound, hinfos⟩)
  rintro f i ⟨⟨hf, hboth⟩, h⟩
  exact StructField.reportedAs hf hboth h.symm

namespace Holes

def size : StructField :=
  { StructField.plain "size" (.resolved "i64") with
    default := .scalar (.numbered 1) (.int .i64 1)
    rename := some "n" }

def key : StructField := { StructField.plain "key" (.resolved "i64") with kwOnly := true }

def tags : StructField :=
  { StructField.plain "tags" (.resolved "i64") with factory := some ⟨"Vec::new", 0⟩ }

def base : StructClass :=
  ⟨⟨1⟩, "Base", [], [key, size], [], false, .ofFields 1 [size, key], [], false⟩

/-- All fields that it declares are by keyword. -/
def next : StructClass :=
  ⟨⟨2⟩, "Next", [base], [tags], [], true,
    .ofFields 1 [size, key, { tags with kwOnly := true }], [], false⟩

theorem reached : ∃ w, Stock.Reached ⟨w, [], [next, base]⟩ := by
  have h₀ : Stock.Reached ⟨.start ⟨1⟩ 0 [], [], []⟩ := .start _
  obtain ⟨_, h₁, n₁⟩ := h₀.structAt rfl ⟨"Base", [], [key, size], [], false, false⟩ base (by simp) rfl
  obtain ⟨w, h, _⟩ := h₁.structAt n₁ ⟨"Next", [base], [tags], [], true, false⟩ next (by simp) rfl
  exact ⟨w, h⟩

theorem plain : ∀ a, next.Derives a → ∀ f ∈ a.own, f.default.defaultFactory? = none := by
  intro a ha
  rcases (next.derives_iff a).mp ha with rfl | ⟨b, hb, ha⟩
  · simp [next, tags, StructField.plain, Value.unset, Value.ofMarker, Value.defaultFactory?]
  obtain rfl : b = base := by simpa [next] using hb
  rcases (base.derives_iff a).mp ha with rfl | ⟨b, hb, _⟩
  · simp [base, key, size, StructField.plain, Value.unset, Value.ofMarker, Value.defaultFactory?]
  · simp [base] at hb

end Holes

open Holes in
/-- The table of defaults has a hole for a required field by keyword. -/
theorem layout_lossless_next : ∃ w, Stock.Reached ⟨w, [], [next, base]⟩ ∧ next ∈ [next, base] ∧
    (∀ a, next.Derives a → ∀ f ∈ a.own, f.default.defaultFactory? = none) ∧
    next.reference.map StructField.name = ["size", "key", "tags"] ∧
    next.layout.defaults.map Value.isMissing = [false, true, false] ∧
    List.Forall₂ StructField.ReportedAs next.reference next.infos := by
  obtain ⟨w, hw⟩ := reached
  exact ⟨w, hw, List.mem_cons_self, plain, rfl, rfl, layout_lossless hw List.mem_cons_self plain⟩

end FieldAtlas
