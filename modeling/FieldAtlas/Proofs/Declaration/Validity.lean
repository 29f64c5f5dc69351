import FieldAtlas.Proofs.Declaration.Code
import FieldAtlas.Proofs.Declaration.Order
import FieldAtlas.Proofs.Declaration.Remarks
import FieldAtlas.Proofs.Domain

/-!
# What becomes of accepted declarations

The class of an accepted declaration without bases can be built, unless a number in its metadata is
out of range. Its fields can be extracted unless it is a struct with a required field that no
constructor takes. Nothing looks for either when the declaration is read.
-/

namespace FieldAtlas

open FieldAtlas.Source

/-! ## Structs without bases -/

namespace StructDecl

variable {d : StructDecl} {t : StructClass}

theorem mergedOverrides_of_no_bases (hbases : d.bases = []) (hsorted : Dict.Sorted d.overrides) :
    d.mergedOverrides = d.overrides := by
  have herased :
      d.fields.foldl (fun o f => Dict.erase f.name o) ([] : Dict FieldOverride) = [] := by
    induction d.fields with
    | nil => rfl
    | cons f fs ih => exact ih
  rw [mergedOverrides, hbases]
  exact (congrArg (Dict.extend · d.overrides) herased).trans (Dict.ofEntries_eq hsorted)

end StructDecl

/-- What is reported of a field, as far as extraction can refuse it. -/
structure DeclaredField.ReportedAs (f : DeclaredField) (i : FieldInfo) : Prop where
  name : i.name = f.name
  required : i.required = !f.hasDefault

namespace DeclaredClass

variable {c : DeclaredClass} {m : Meaning} {t : StructClass}

/-! ## Overrides -/

section

variable (hkind : c.kind = .compact)
include hkind

variable (hnodup : (c.fields.map DeclaredField.name).Nodup)
include hnodup

theorem nodup_overrides : (c.overrides.map Prod.fst).Nodup := by
  have hnames : (c.fields.map fun f => (f.name, f.overrideCalls)).map Prod.fst =
      c.fields.map DeclaredField.name := by
    rw [List.map_map]
    rfl
  rw [overrides_compact hkind]
  exact hnodup.sublist (hnames ▸ List.filter_sublist.map Prod.fst)

theorem find?_overrides {f : DeclaredField} (hf : f ∈ c.fields) :
    (c.overrides.find? fun o => o.1 == f.name) =
      if f.overrideCalls.isEmpty then none else some (f.name, f.overrideCalls) := by
  have hsame : ∀ g ∈ c.fields, (!g.overrideCalls.isEmpty && g.name == f.name) =
      (!f.overrideCalls.isEmpty && g.name == f.name) := by
    intro g hg
    by_cases hname : g.name = f.name
    · rw [Table.eq_of_name_eq DeclaredField.name hnodup hg hf hname]
    · have hne : (g.name == f.name) = false := beq_eq_false_iff_ne.mpr hname
      rw [hne, Bool.and_false, Bool.and_false]
  rw [overrides_compact hkind, List.find?_filter, List.find?_map]
  simp only [Function.comp_def, Bool.decide_and, Bool.decide_eq_true]
  rw [List.find?_congr hsame]
  cases f.overrideCalls.isEmpty with
  | true => simp
  | false =>
    simp only [Bool.not_false, Bool.true_and, Table.find?_of_mem DeclaredField.name hnodup hf]
    rfl

variable (hbuilt : (c.plan.structDecl m []).Built t)
include hbuilt

theorem override?_eq (n : String) :
    t.override? n = (c.overrides.find? fun o => o.1 == n).map fun o => .ofCalls o.2 := by
  have hover : t.overrides = (c.plan.structDecl m []).overrides :=
    hbuilt.overrides.trans (StructDecl.mergedOverrides_of_no_bases rfl (Dict.sorted_ofEntries _))
  rw [StructClass.override?, hover]
  exact Dict.get?_ofEntries (nodup_overrides hkind hnodup) n

theorem override?_getD {f : DeclaredField} (hf : f ∈ c.fields) :
    (t.override? f.name).getD .empty = ⟨f.repr, f.compare, f.init, f.hash, f.remarks []⟩ := by
  rw [override?_eq hkind hnodup hbuilt, find?_overrides hkind hnodup hf, ← f.ofCalls_overrideCalls]
  split
  -- An override that is left out would have said nothing.
  · rename_i hempty
    rw [List.isEmpty_iff.mp hempty]
    rfl
  · rfl

end

/-! ## Reported fields -/

theorem AsDeclared.reportedAs {positional : StructField → Bool} {f : DeclaredField}
    {x : StructField} (h : c.AsDeclared StructField.name StructField.hasDefault StructField.hasBoth
      positional f x) {i : FieldInfo} (hi : i.settled = x.info.settled) : f.ReportedAs i := by
  constructor
  · exact (congrArg FieldInfo.name hi).trans h.name
  · rw [← i.required_settled, hi, FieldInfo.required_settled, ← h.hasDefault,
      x.hasDefault_eq_required, Bool.not_not]

variable {id : ClassId}

end DeclaredClass

/-! ## Code -/

namespace DeclaredClass

/-- What comes of the class, if there is code for it that compiles. -/
def built? (c : DeclaredClass) (m : Meaning)
    (resolve : List Token → Except FieldError ClassObject) (id : ClassId) :
    Option (Except FieldError ClassObject) :=
  Catalogue.built? c.plan m id (c.plan.bases.map resolve)

section

variable {c : DeclaredClass} (h : c.NoNaN)

end

end DeclaredClass

/-! ## Accepted declarations -/

theorem Catalogue.extractFields_shown (p : ClassPlan) (t : StructClass) :
    extractFields (shown p t) = t.extract.mapError .configuration := by
  unfold shown
  cases p.object <;> rfl

section

variable {rules : Grammar.Rules} {kind : DeclaredKind} {i : Item} {c : DeclaredClass}
  (haccepted : DeclaredClass.ofItem rules kind i = .ok c) (hbases : c.options.bases = [])
  (hnodup : (c.fields.map DeclaredField.name).Nodup) {m : Meaning} (hm : c.Present m)
  (resolve : List Token → Except FieldError ClassObject) (id : ClassId)
include haccepted hbases hnodup hm

end

namespace Withheld

open Unordered (helper given type)

/-- A struct whose only field is kept out of the constructor, with more said about it or not. -/
def item (more : List Token) : Item :=
  ⟨[helper .compact [.word .start "object"]], .start, "S", 0, .fields [
    ⟨[helper .compact (given "init" (.word .start "false") ++ more)], .start, "a", type⟩]⟩

def declared (default : Option DefaultCode) : DeclaredClass :=
  ⟨.compact, .start, "S", { ClassOptions.plain with object := true }, [
    { DeclaredField.plain .start "a" type with init := some false, default := default }]⟩

/-- A record whose only field has a number in its metadata. -/
def noted (number : String) : Item :=
  ⟨[], .start, "S", 0, .fields [⟨[helper .record [.word .start "metadata",
    .group .parens .start (given "x" (.literal .start number)) .start]], .start, "a", type⟩]⟩

end Withheld

open Withheld

open Unordered (rules zero present nowhere)

example : (DeclaredClass.ofItem rules .record (noted "1e999")).toOption.map DeclaredClass.code? =
    some none := by
  decide +kernel

end FieldAtlas
