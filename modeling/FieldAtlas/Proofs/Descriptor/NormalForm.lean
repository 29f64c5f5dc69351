import FieldAtlas.Proofs.Domain
import FieldAtlas.Proofs.Value.Equality
import FieldAtlas.Proofs.Value.Missing
import FieldAtlas.World.Basic

/-!
# The normal form of a descriptor

A descriptor keeps all of its specification except for the markers: each slot holds what was given,
or the shared missing value. However one asks whether there is a default, the answer is the same, and
a descriptor that is made from a descriptor is that descriptor.
-/

namespace FieldAtlas

/-! ## Settled slots -/

namespace Value

theorem isMissing_of_isMarker {v : Value} (h : v.isMarker = true) : v.isMissing = true := by
  rw [isMarker_eq_core, Bool.and_eq_true, decide_eq_true_iff] at h
  rw [isMissing_eq_core, Bool.and_eq_true, decide_eq_true_iff]
  exact ⟨by omega, h.2⟩

theorem isMarker_orMissing (v : Value) : v.orMissing.isMarker = v.orMissing.isMissing := by
  unfold orMissing
  split
  · rfl
  · rename_i hpresent
    rw [Bool.eq_iff_iff]
    exact ⟨isMissing_of_isMarker, fun h => absurd h hpresent⟩

theorem Steady.orMissing {v : Value} (h : v.Steady) : v.orMissing.Steady := by
  unfold Value.orMissing
  split
  · exact Or.inl (held_ofMarker .missing)
  · exact h

end Value

namespace Descriptor

/-- How the descriptor `d` stands to the specification `f` that it was made from. -/
structure Normalizes (d : Descriptor) (f : FieldSpec) : Prop where
  default : d.default = if f.default.isMissing then .missing else f.default
  factory : d.factorySlot = if f.factory.isMissing then .missing else f.factory
  exclusive : d.default.isMissing = true ∨ d.factorySlot.isMissing = true
  /-- Apart from the slots nothing is changed. -/
  rest : { d.spec with default := f.default, factory := f.factory } = f
  starts : ∀ w : World, (w.defaultValue d).1.isSome = d.hasDefault
  present : (!d.default.isMissing || !d.factorySlot.isMissing) = d.hasDefault
  handles : (!isMissing (.handle d.default) || !isMissing (.handle d.factorySlot)) = d.hasDefault

theorem same_self_of_steady {d : Descriptor} (h : ∀ v ∈ d.values, v.Steady) : d.same d = true := by
  unfold values FieldSpec.values at h
  simp only [List.forall_mem_cons, List.forall_mem_map] at h
  exact same_self h.1.same_self h.2.1.same_self fun e he => (h.2.2 e he).same_self

theorem isSome_defaultValue {d : Descriptor} (hfactory : d.factorySlot.isMissing = d.factory?.isNone)
    (w : World) : (w.defaultValue d).1.isSome = d.hasDefault := by
  unfold World.defaultValue start? hasDefault
  rw [hfactory]
  cases d.default.isMissing with
  | false => rfl
  | true => cases d.factory? <;> rfl

end Descriptor

namespace FieldSpec

variable {f : FieldSpec}

theorem hasBoth_eq_false_iff (f : FieldSpec) :
    f.hasBoth = false ↔ f.default.isMissing = true ∨ f.factory.isMissing = true := by
  cases hdefault : f.default.isMissing <;> simp [hasBoth, hdefault]

theorem isMissing_factory_of_filled (h : f.misfilled = false) :
    f.factory.isMissing = f.factory.factory?.isNone := by
  rcases (f.misfilled_eq_false_iff).mp h with hmissing | hsome
  · cases hg : f.factory.factory? with
    | none => rw [hmissing]; rfl
    | some g => rw [Value.isMissing_of_factory? hg] at hmissing; cases hmissing
  · obtain ⟨g, hg⟩ := Option.isSome_iff_exists.mp hsome
    rw [Value.isMissing_of_factory? hg, hg]
    rfl

theorem normalizes (hfilled : f.misfilled = false) (hboth : f.hasBoth = false) :
    f.settled.descriptor.Normalizes f where
  default := rfl
  factory := rfl
  exclusive := f.settled.hasBoth_eq_false_iff.mp (f.hasBoth_settled.trans hboth)
  rest := rfl
  starts := by
    apply Descriptor.isSome_defaultValue
    rw [← f.misfilled_settled] at hfilled
    exact isMissing_factory_of_filled hfilled
  present := rfl
  handles := by
    have hhandle : ∀ v : Value, isMissing (.handle v.orMissing) = v.orMissing.isMissing :=
      Value.isMarker_orMissing
    simp [Descriptor.hasDefault, descriptor, settled, hhandle]

end FieldSpec

/-! ## Making descriptors -/

namespace Descriptor

theorem make_error_iff (owner : String) (f : FieldSpec) :
    (∃ e, make owner f = .error e) ↔ f.misfilled = true ∨ f.hasBoth = true := by
  rw [make_eq_ite]
  cases f.misfilled <;> cases f.hasBoth <;> simp

theorem make_ok_iff {owner : String} {f : FieldSpec} {d : Descriptor} : make owner f = .ok d ↔
    f.misfilled = false ∧ f.hasBoth = false ∧ d = f.settled.descriptor := by
  rw [make_eq_ite]
  cases f.misfilled <;> cases f.hasBoth <;> simp [eq_comm]

theorem make_spec {owner : String} {f : FieldSpec} {d : Descriptor} (h : make owner f = .ok d)
    (other : String) : make other d.spec = .ok d := by
  obtain ⟨hfilled, hboth, rfl⟩ := make_ok_iff.mp h
  refine make_ok_iff.mpr ⟨f.misfilled_settled.trans hfilled, f.hasBoth_settled.trans hboth, ?_⟩
  exact congrArg FieldSpec.descriptor f.settled_settled.symm

theorem steady_values {owner : String} {f : FieldSpec} {d : Descriptor} (h : make owner f = .ok d)
    (hf : ∀ v ∈ f.values, v.Steady) : ∀ v ∈ d.values, v.Steady := by
  obtain ⟨_, _, rfl⟩ := make_ok_iff.mp h
  unfold FieldSpec.values at hf
  rw [List.forall_mem_cons, List.forall_mem_cons] at hf
  refine List.forall_mem_cons.mpr ⟨hf.1.orMissing, List.forall_mem_cons.mpr ⟨hf.2.1.orMissing, ?_⟩⟩
  exact hf.2.2

end Descriptor

open Descriptor in
/-- A specification is refused for a factory slot that holds something else, and otherwise for two
filled slots. Any other one gives a descriptor in normal form. What is made from that is the same
descriptor, which equals itself if the given values do. -/
theorem descriptor_normal_form (owner : String) (f : FieldSpec) :
    ((∃ e, make owner f = .error e) ↔ f.misfilled = true ∨ f.hasBoth = true) ∧
      (∀ e, make owner f = .error e → e = ⟨owner, f.name,
        if f.misfilled then .notAFactory f.factory.shown else .defaultAndFactory⟩) ∧
      ∀ d, make owner f = .ok d → d.Normalizes f ∧
        (∀ other, make other d.spec = .ok d) ∧
        ((∀ v ∈ f.values, v.Steady) → d.same d = true) := by
  refine ⟨make_error_iff owner f, ?_, ?_⟩
  · intro e h
    rw [make_eq_ite] at h
    split at h
    · rename_i hmis
      rw [if_pos hmis, Except.error.inj h]
    · rename_i hmis
      split at h
      · rw [if_neg hmis, Except.error.inj h]
      · cases h
  · intro d h
    obtain ⟨hfilled, hboth, hd⟩ := make_ok_iff.mp h
    refine ⟨hd ▸ FieldSpec.normalizes hfilled hboth, make_spec h, ?_⟩
    exact fun hsteady => same_self_of_steady (steady_values h hsteady)

namespace Settling

def nan : Value := .scalar (.numbered 0) (.double .nan)

/-- Its factory slot holds a marker that is wrapped. -/
def reading : FieldSpec :=
  { FieldSpec.plain .missing "value" (.resolved "f64") with
    default := nan
    factory := .wrapped (.numbered 1) .unset }

theorem steady : ∀ v ∈ reading.values, v.Steady := by
  simp [reading, FieldSpec.values, FieldSpec.plain, nan, Value.Steady, Value.Held, Value.place]

end Settling

open Settling in
/-- The default equals no copy of itself, and is the same in both descriptors. -/
theorem descriptor_normal_form_nan : (∀ v ∈ reading.values, v.Steady) ∧
    nan.copied.same nan = false ∧ ∃ d, Descriptor.make "Reading" reading = .ok d ∧
      d.default = nan ∧ d.factorySlot = .missing ∧ Descriptor.make "Other" d.spec = .ok d ∧
      d.same d = true := by
  have hnan : Double.nan.isNaN = true := by decide
  have hcopy : nan.copied.same nan = false := by
    simp [nan, Value.copied, Value.same, Place.same, Scalar.same, Double.same, hnan]
  obtain ⟨hnormal, hagain, hsame⟩ := (descriptor_normal_form "Reading" reading).2.2 _ rfl
  exact ⟨steady, hcopy, _, rfl, hnormal.default, hnormal.factory, hagain "Other", hsame steady⟩

end FieldAtlas
