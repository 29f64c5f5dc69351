import FieldAtlas.Proofs.Extract
import FieldAtlas.Proofs.Record.Supplier
import FieldAtlas.Proofs.Struct.Inheritance

/-!
# Hierarchies of classes in both forms

Classes with several bases, built in both forms from the same declarations, come to the same fields:
in either form a field that is inherited is that of the first base which has it.
-/

namespace FieldAtlas

/-- A record class and a struct class that are built alike: their own fields are one by one in the
relation `own`, and their bases are one by one built alike. -/
inductive Counterparts (s : Stock) (own : FieldSpec → StructField → Prop) :
    RecordClass → StructClass → Prop
  | built {r : RecordClass} {t : StructClass} : r ∈ s.records → t ∈ s.structs →
      List.Forall₂ own r.own t.ownFields → r.bases.length = t.bases.length →
      (∀ p ∈ r.bases.zip t.bases, Counterparts s own p.1 p.2) → Counterparts s own r t

namespace FieldSpec

/-- One declaration in both forms. The flags and the metadata of a record field have no place in a
struct field, and neither has an encoded name in a record field. -/
structure DeclaredAs (f : FieldSpec) (g : StructField) : Prop where
  name : g.name = f.name
  type : g.type = f.type
  default : g.default.orMissing = f.default.orMissing
  /-- No entry of a table of defaults, which would count as a factory. -/
  plain : g.default.defaultFactory? = none
  factory : g.factory = f.factory.factory?
  no_factory : g.factory = none → f.factory.isMissing = true
  kwOnly : g.kwOnly = f.kwOnly

/-- One field in both forms, up to which marker stands for an empty slot. -/
structure ReportedAs (f : FieldSpec) (i : FieldInfo) : Prop where
  type : i.type = f.type
  default : i.default.orMissing = f.default.orMissing
  factory : i.factory.factory? = f.factory.factory?
  no_factory : i.factory.isMissing = f.factory.isMissing
  kwOnly : i.kwOnly = f.kwOnly

end FieldSpec

theorem FieldSpec.DeclaredAs.reportedAs {f : FieldSpec} {g : StructField} (h : f.DeclaredAs g)
    (hboth : g.hasBoth = false) : f.ReportedAs g.info.settled := by
  have hdefault : g.info.settled.default = g.info.default.orMissing := rfl
  have hfactory : g.info.settled.factory = g.info.factory.orMissing := rfl
  refine ⟨h.type, ?_, ?_, ?_, h.kwOnly⟩
  · rw [hdefault, Value.orMissing_orMissing, StructField.default_info h.plain hboth, h.default]
  · rw [hfactory, StructField.factory_info h.plain, ← h.factory]
    cases g.factory <;> rfl
  · rw [hfactory, Value.isMissing_orMissing, StructField.factory_info h.plain]
    cases hg : g.factory with
    | none => exact (h.no_factory hg).symm
    | some k => exact (Value.isMissing_of_factory? (h.factory.symm.trans hg)).symm

/-! ## Looking up in both forms -/

theorem FieldSpec.DeclaredAs.find?_rel {fs : List FieldSpec} {gs : List StructField}
    (h : List.Forall₂ DeclaredAs fs gs) (hboth : ∀ g ∈ gs, g.hasBoth = false) (n : String) :
    Option.Rel ReportedAs (fs.find? fun f => f.name == n)
      ((gs.find? fun g => g.name == n).map fun g => g.info.settled) := by
  induction h with
  | nil => exact .none
  | @cons f g fs gs hfg _ ih =>
    rw [List.forall_mem_cons] at hboth
    by_cases hn : f.name = n
    · have hgn : g.name = n := hfg.name.trans hn
      simpa [hn, hgn] using hfg.reportedAs hboth.1
    · have hgn : ¬ g.name = n := fun hgn => hn (hfg.name.symm.trans hgn)
      simpa [hn, hgn] using ih hboth.2

namespace Counterparts

variable {s : Stock} {own : FieldSpec → StructField → Prop} {r : RecordClass} {t : StructClass}

theorem mem_records (h : Counterparts s own r t) : r ∈ s.records := by
  cases h with
  | built hr => exact hr

theorem mem_structs (h : Counterparts s own r t) : t ∈ s.structs := by
  cases h with
  | built _ ht => exact ht

theorem field?_rel (hs : s.Reached) (h : Counterparts s FieldSpec.DeclaredAs r t) (n : String) :
    Option.Rel FieldSpec.ReportedAs (r.field? n) (t.field? n) := by
  induction h with
  | @built r t hr ht hown hlen _ ih =>
    obtain ⟨d, hbuilt, _⟩ := hs.exists_structBuilt t ht
    rw [hs.field?_eq_bases hr, hs.structField?_eq ht]
    apply First.or_rel
    · exact FieldSpec.DeclaredAs.find?_rel hown hbuilt.hasBoth_ownFields n
    · apply First.findSome?_rel
      rw [List.forall₂_iff_zip]
      exact ⟨hlen, fun hp => ih _ hp⟩

end Counterparts

/-! ## The whole table -/

namespace Stock

variable {s : Stock} {t : StructClass}

theorem Reached.field?_of_mem_infos (hs : s.Reached) (ht : t ∈ s.structs) {i : FieldInfo}
    (hi : i ∈ t.infos) : t.field? i.name = some i.settled :=
  Table.find?_of_mem FieldInfo.name (hs.nodup_infos ht) (List.mem_map_of_mem hi)

end Stock

theorem FieldSpec.ReportedAs.of_settled {f : FieldSpec} {i : FieldInfo}
    (h : f.ReportedAs i.settled) : f.ReportedAs i := by
  have hfactory : i.settled.factory = i.factory.orMissing := rfl
  refine ⟨h.type, ?_, ?_, ?_, h.kwOnly⟩
  · rw [← h.default]
    exact (Value.orMissing_orMissing _).symm
  · rw [← h.factory, hfactory, Value.factory?_orMissing]
  · rw [← h.no_factory, hfactory, Value.isMissing_orMissing]

/-- However the classes of a hierarchy are linked, both forms have the same fields. -/
theorem hierarchy_agrees {s : Stock} (hs : s.Reached) {r : RecordClass} {t : StructClass}
    (h : Counterparts s FieldSpec.DeclaredAs r t) :
    (∀ n, n ∈ r.fields.map FieldSpec.name ↔ n ∈ t.layout.names) ∧
      ∀ f ∈ r.fields, ∀ i ∈ t.infos, i.name = f.name → f.ReportedAs i := by
  constructor
  · intro n
    rw [← r.isSome_field?_iff, hs.mem_names_iff h.mem_structs,
      First.isSome_eq_of_rel (h.field?_rel hs n)]
  · intro f hf i hi hname
    have hrel := h.field?_rel hs f.name
    rw [← hname, hs.field?_of_mem_infos h.mem_structs hi, hname, RecordClass.field?,
      Table.find?_of_mem FieldSpec.name (hs.nodup_fields h.mem_records) hf] at hrel
    cases hrel with
    | some hfi => exact hfi.of_settled

namespace Diamond

def slot (default : Int) : StructField :=
  { StructField.plain "n" (.resolved "i64") with default := (field default).default }

/-- The struct form of a class whose table holds `f`. -/
def form (id : Nat) (name : String) (bases : List StructClass) (own : List StructField)
    (f : StructField) : StructClass :=
  ⟨⟨id⟩, name, bases, own, [], false, .ofFields 1 [f], [], false⟩

def rootForm : StructClass := form 5 "Root" [] [slot 1] (slot 1)

def leftForm : StructClass := form 6 "Left" [rootForm] [] (slot 1)

def rightForm : StructClass := form 7 "Right" [rootForm] [slot 2] (slot 2)

def bottomForm : StructClass := form 8 "Bottom" [leftForm, rightForm] [] (slot 1)

def formDecl (t : StructClass) : StructDecl := ⟨t.name, t.bases, t.own, [], false, false⟩

def forms : List StructClass := [bottomForm, rightForm, leftForm, rootForm]

theorem reached_forms : ∃ w, Stock.Reached ⟨w, [bottom, right, left, root], forms⟩ := by
  obtain ⟨w, hw, n⟩ := reached_sides
  obtain ⟨_, h₄, n₄⟩ := hw.recordAt n (decl bottom) bottom (by simp [decl, bottom]) rfl
  obtain ⟨_, h₅, n₅⟩ := h₄.structAt n₄ (formDecl rootForm) rootForm
    (by simp [formDecl, rootForm, form]) rfl
  obtain ⟨_, h₆, n₆⟩ := h₅.structAt n₅ (formDecl leftForm) leftForm
    (by simp [formDecl, leftForm, form]) rfl
  obtain ⟨_, h₇, n₇⟩ := h₆.structAt n₆ (formDecl rightForm) rightForm
    (by simp [formDecl, rightForm, form]) rfl
  obtain ⟨w₈, h₈, _⟩ := h₇.structAt n₇ (formDecl bottomForm) bottomForm
    (by simp [formDecl, bottomForm, form]) rfl
  exact ⟨w₈, h₈⟩

theorem declaredAs (n : Int) : (field n).DeclaredAs (slot n) :=
  ⟨rfl, rfl, rfl, rfl, rfl, fun _ => rfl, rfl⟩

theorem counterparts (w : World) : Counterparts ⟨w, [bottom, right, left, root], forms⟩
    FieldSpec.DeclaredAs bottom bottomForm := by
  have hroot : Counterparts ⟨w, [bottom, right, left, root], forms⟩ FieldSpec.DeclaredAs root
      rootForm := .built (by simp) (by simp [forms]) (.cons (declaredAs 1) .nil) rfl (by simp [root])
  have hleft : Counterparts ⟨w, [bottom, right, left, root], forms⟩ FieldSpec.DeclaredAs left
      leftForm := .built (by simp) (by simp [forms]) .nil rfl
        (by simpa [left, leftForm, form] using hroot)
  have hright : Counterparts ⟨w, [bottom, right, left, root], forms⟩ FieldSpec.DeclaredAs right
      rightForm := .built (by simp) (by simp [forms]) (.cons (declaredAs 2) .nil) rfl
        (by simpa [right, rightForm, form] using hroot)
  exact .built (by simp) (by simp [forms]) .nil rfl
    (by simpa [bottom, bottomForm, form] using ⟨hleft, hright⟩)

end Diamond

open Diamond in
/-- Both forms take the field from the side that merely inherits it. -/
theorem hierarchy_agrees_bottom :
    ∃ w, Stock.Reached ⟨w, [bottom, right, left, root], forms⟩ ∧
      Counterparts ⟨w, [bottom, right, left, root], forms⟩ FieldSpec.DeclaredAs bottom bottomForm ∧
      (∀ n, n ∈ bottom.fields.map FieldSpec.name ↔ n ∈ bottomForm.layout.names) ∧
      ∀ f ∈ bottom.fields, ∀ i ∈ bottomForm.infos, i.name = f.name → f.ReportedAs i := by
  obtain ⟨w, hw⟩ := reached_forms
  exact ⟨w, hw, counterparts w, hierarchy_agrees hw (counterparts w)⟩

end FieldAtlas
