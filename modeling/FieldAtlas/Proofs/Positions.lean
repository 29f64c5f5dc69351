import FieldAtlas.Proofs.Record.Supplier
import FieldAtlas.Proofs.Struct.Inheritance

/-!
# Positions below a single base

A class with one base takes the fields of the base in their order, and its own new ones after them.
In a struct class a field loses its position only where it is declared anew by keyword; in a record
class every field keeps its place.
-/

namespace FieldAtlas

/-! ## The front of a table -/

namespace Table

variable {α : Type} (name : α → String)

section

variable {front back xs : List α} {p : α → Bool} (ht : ((front ++ back).map name).Nodup)
  (hxs : (xs.map name).Nodup)
include ht hxs

theorem prefix_filter_putAll (hfront : ∀ y ∈ front, p y = true)
    (stays : ∀ x ∈ xs, name x ∈ front.map name → p x = true) :
    front.map name <+: ((putAll name (front ++ back) xs).filter p).map name := by
  let seat (y : α) : α := (xs.find? fun x => name x == name y).getD y
  have hseat : ∀ y ∈ front, name (seat y) = name y ∧ p (seat y) = true := by
    intro y hy
    cases hfind : xs.find? fun x => name x == name y with
    | none => simpa [seat, hfind] using hfront y hy
    | some x =>
      have hname : name x = name y := by simpa using List.find?_some hfind
      have hpicked := stays x (List.mem_of_find?_eq_some hfind) (hname ▸ List.mem_map_of_mem hy)
      simpa [seat, hfind, hpicked] using hname
  have hnames : (front.map seat).map name = front.map name := by
    rw [List.map_map]
    exact List.map_congr_left fun y hy => (hseat y hy).1
  have hpicked : (front.map seat).filter p = front.map seat :=
    List.filter_eq_self.mpr (List.forall_mem_map.mpr fun y hy => (hseat y hy).2)
  rw [putAll_eq name ht hxs, List.map_append, List.append_assoc, List.filter_append, List.map_append,
    hpicked, hnames]
  exact List.prefix_append _ _

theorem prefix_filter_putAll_iff (hfront : ∀ y ∈ front, p y = true) :
    front.map name <+: ((putAll name (front ++ back) xs).filter p).map name ↔
      ∀ x ∈ xs, name x ∈ front.map name → p x = true := by
  refine ⟨?_, prefix_filter_putAll name ht hxs hfront⟩
  intro h x hx hname
  -- The entry that is picked under this name is `x`, as no name stands twice.
  obtain ⟨y, hy, hyx⟩ := List.mem_map.mp (h.subset hname)
  rw [List.mem_filter] at hy
  have heq := eq_of_name_eq name (nodup_putAll name ht xs) hy.1
    (mem_putAll_of_mem name hxs hx _) hyx
  exact heq ▸ hy.2

end

end Table

/-! ## Struct classes -/

/-- The names of the fields that are taken by position, in order. -/
def StructClass.positional (c : StructClass) : List String :=
  c.layout.names.take c.layout.positionalCount

theorem StructClass.prefix_positional_iff (c : StructClass) (names : List String) :
    names <+: c.positional ↔
      names <+: c.layout.names ∧ names.length ≤ c.layout.positionalCount :=
  List.prefix_take_iff

theorem Layout.kwOnly_of_mem_take {l : Layout} {f : StructField}
    (h : f ∈ l.declarations.take l.positionalCount) : f.kwOnly = false := by
  obtain ⟨i, hi, rfl⟩ := List.mem_take_iff_getElem.mp h
  have hlt : i < l.positionalCount := lt_of_lt_of_le hi (min_le_left _ _)
  simpa [declarations, infos, info, FieldInfo.declaration] using hlt

namespace StructDecl

variable {d : StructDecl} {c : StructClass}

theorem Built.positional_eq (h : d.Built c) :
    c.positional = (d.declared.filter fun f => !f.kwOnly).map StructField.name := by
  have hcount : c.layout.positionalCount = (d.declared.filter fun f => !f.kwOnly).length := by
    rw [h.layout]
    rfl
  rw [StructClass.positional, h.names_eq, hcount, ordered, ← List.map_take, List.take_left]

theorem Built.length_positional (h : d.Built c) :
    c.positional.length = c.layout.positionalCount := by
  rw [h.positional_eq, h.layout, List.length_map]
  rfl

theorem Built.positional_eq_declarations (h : d.Built c) :
    c.positional = (c.layout.declarations.take c.layout.positionalCount).map StructField.name := by
  rw [List.map_take, h.names_declarations, StructClass.positional]

end StructDecl

namespace Stock

variable {s : Stock}

theorem Reached.prefix_positional_iff (hs : s.Reached) {b c : StructClass} (hc : c ∈ s.structs)
    (single : c.bases = [b]) : b.positional <+: c.positional ↔
      ∀ f ∈ c.ownFields, f.name ∈ b.positional → f.kwOnly = false := by
  have hb : b ∈ s.structs := hs.mem_of_mem_structBases hc (single ▸ List.mem_cons_self)
  obtain ⟨d, hbuilt, _⟩ := hs.exists_structBuilt c hc
  obtain ⟨_, hbase, _⟩ := hs.exists_structBuilt b hb
  have hnodup := hs.nodup_declarations hb
  rw [← List.take_append_drop b.layout.positionalCount b.layout.declarations] at hnodup
  have hown := hbuilt.nodup_ownFields
  have hfront : ∀ f ∈ b.layout.declarations.take b.layout.positionalCount, (!f.kwOnly) = true :=
    fun f hf => by simp [Layout.kwOnly_of_mem_take hf]
  rw [hbuilt.ownFields_eq] at hown ⊢
  rw [hbuilt.positional_eq, hs.declared_of_single hb (hbuilt.bases_eq ▸ single),
    hbase.positional_eq_declarations]
  have hiff := Table.prefix_filter_putAll_iff StructField.name hnodup hown hfront
  rw [List.take_append_drop] at hiff
  simpa only [Bool.not_eq_true'] using hiff

/-! ## Record classes -/

theorem Reached.fields_of_single (hs : s.Reached) {b c : RecordClass} (hc : c ∈ s.records)
    (single : c.bases = [b]) : c.fields = Table.putAll FieldSpec.name b.fields c.own := by
  obtain ⟨d, _, hbuilt⟩ := hs.exists_recordBuilt c hc
  have hb : b ∈ s.records :=
    hs.mem_of_mem_ancestors hc (hs.mem_of_mem_bases hc (single ▸ List.mem_cons_self))
  have hmro := hs.ancestors?_of_single hb (d := d) (hbuilt.bases_eq ▸ single)
  rw [hbuilt.fields, Option.some.inj (hbuilt.ancestors.symm.trans hmro), hs.table_of_single hb,
    hbuilt.own_eq]

end Stock

/-! ## Both kinds of classes -/

/-- The names that the base of a struct class takes by position come first in the class, which takes
no fewer by position, exactly if the class declares none of these fields anew by keyword. All names
of the base of a record class come first in the class. -/
theorem positions_below_single_base {s : Stock} (hs : s.Reached) :
    (∀ c ∈ s.structs, ∀ b, c.bases = [b] →
      (b.positional <+: c.layout.names ∧
          b.layout.positionalCount ≤ c.layout.positionalCount ↔
        ∀ f ∈ c.own, f.name ∈ b.positional → f.kwOnly = false ∧ c.ownKwOnly = false)) ∧
    ∀ c ∈ s.records, ∀ b, c.bases = [b] →
      b.fields.map FieldSpec.name <+: c.fields.map FieldSpec.name := by
  constructor
  · intro c hc b single
    have hb : b ∈ s.structs := hs.mem_of_mem_structBases hc (single ▸ List.mem_cons_self)
    obtain ⟨_, hbase, _⟩ := hs.exists_structBuilt b hb
    have hiff := hs.prefix_positional_iff hc single
    rw [c.prefix_positional_iff, hbase.length_positional, StructClass.ownFields,
      List.forall_mem_map] at hiff
    simpa only [Bool.or_eq_false_iff] using hiff
  · intro c hc b single
    rw [hs.fields_of_single hc single]
    exact Table.prefix_map_putAll FieldSpec.name b.fields c.own

namespace Moved

def label : StructField := .plain "label" (.resolved "String")

def size : StructField := .plain "size" (.resolved "i64")

def key : StructField := .plain "key" (.resolved "i64")

def byKeyword (f : StructField) : StructField := { f with kwOnly := true }

def base : StructClass :=
  ⟨⟨1⟩, "Base", [], [byKeyword key, label], [], false, .ofFields 1 [label, byKeyword key], [], false⟩

/-- The field by keyword of its base is one by position here. -/
def next : StructClass :=
  ⟨⟨2⟩, "Next", [base], [size, key], [], false, .ofFields 3 [label, key, size], [], false⟩

/-- All fields that it declares are by keyword, one of them by position in its base. -/
def last : StructClass :=
  ⟨⟨3⟩, "Last", [next], [label], [], true, .ofFields 2 [key, size, byKeyword label], [], false⟩

def row : RecordClass :=
  let x : FieldSpec := .plain .noDefault "x" (.resolved "i64")
  let y : FieldSpec := .plain .noDefault "y" (.resolved "i64")
  ⟨⟨4⟩, "Row", [], [], [y, x], [y, x], .named "Row"⟩

def wide : RecordClass :=
  let x : FieldSpec := { FieldSpec.plain .noDefault "x" (.resolved "i64") with kwOnly := true }
  let y : FieldSpec := .plain .noDefault "y" (.resolved "i64")
  let z : FieldSpec := .plain .noDefault "z" (.resolved "i64")
  ⟨⟨5⟩, "Wide", [row], [row], [z, x], [y, x, z], .named "Wide"⟩

theorem reached : ∃ w, Stock.Reached ⟨w, [wide, row], [last, next, base]⟩ := by
  have h₀ : Stock.Reached ⟨.start ⟨1⟩ 0 [], [], []⟩ := .start _
  obtain ⟨_, h₁, n₁⟩ := h₀.structAt rfl ⟨"Base", [], base.own, [], false, false⟩ base (by simp) rfl
  obtain ⟨_, h₂, n₂⟩ := h₁.structAt n₁ ⟨"Next", [base], next.own, [], false, false⟩ next (by simp)
    rfl
  obtain ⟨_, h₃, n₃⟩ := h₂.structAt n₂ ⟨"Last", [next], last.own, [], true, false⟩ last (by simp) rfl
  obtain ⟨_, h₄, n₄⟩ := h₃.recordAt n₃ ⟨"Row", [], row.own, none⟩ row (by simp) rfl
  obtain ⟨w, h₅, _⟩ := h₄.recordAt n₄ ⟨"Wide", [row], wide.own, none⟩ wide (by simp) rfl
  exact ⟨w, h₅⟩

end Moved

open Moved in
/-- A field by keyword that is made one by position does not come in front of the others, and a
position is lost where a class declares all its fields by keyword. -/
theorem positions_below_single_base_moved :
    ∃ w, Stock.Reached ⟨w, [wide, row], [last, next, base]⟩ ∧
      next.bases = [base] ∧ base.positional = ["label"] ∧ ["label"] <+: next.layout.names ∧
      last.bases = [next] ∧ ¬ (next.positional <+: last.layout.names ∧
        next.layout.positionalCount ≤ last.layout.positionalCount) ∧
      wide.bases = [row] ∧ row.fields.map FieldSpec.name <+: wide.fields.map FieldSpec.name := by
  obtain ⟨w, hw⟩ := reached
  obtain ⟨hstruct, hrecord⟩ := positions_below_single_base hw
  have hnext : next ∈ [last, next, base] := by simp
  have hwide : wide ∈ [wide, row] := by simp
  have hkept := (hstruct next hnext base rfl).mpr (by decide)
  have hlost := mt (hstruct last List.mem_cons_self next rfl).mp
  exact ⟨w, hw, rfl, rfl, hkept.1, rfl, hlost (by decide), rfl, hrecord wide hwide row rfl⟩

end FieldAtlas
