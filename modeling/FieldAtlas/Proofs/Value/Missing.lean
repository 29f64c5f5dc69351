import FieldAtlas.Value.Missing

/-!
# The two missing tests

A value can be wrapped any number of times. The test of a handle looks through no wrapping, the test
of the contents through one. So the two part at a marker in one wrapping, and nowhere else.
-/

namespace FieldAtlas

namespace Value

/-- How many wrappings there are around the core. -/
def depth : Value → Nat
  | wrapped _ inner => inner.depth + 1
  | _ => 0

/-- What is left without any wrapping. -/
def core : Value → Value
  | wrapped _ inner => inner.core
  | v => v

/-- The value within one wrapping for each place, the outermost first. -/
def wrapAll (places : List Place) (v : Value) : Value := places.foldr wrapped v

theorem exists_wrapAll : ∀ v : Value,
    ∃ places : List Place, places.length = v.depth ∧ v = v.core.wrapAll places
  | wrapped p inner => by
    obtain ⟨places, hlength, hinner⟩ := inner.exists_wrapAll
    exact ⟨p :: places, congrArg (· + 1) hlength, congrArg (wrapped p) hinner⟩
  | scalar _ _ => ⟨[], rfl, rfl⟩
  | list _ _ => ⟨[], rfl, rfl⟩
  | dict _ _ => ⟨[], rfl, rfl⟩

theorem depth_core : ∀ v : Value, v.core.depth = 0
  | wrapped _ inner => inner.depth_core
  | scalar _ _ => rfl
  | list _ _ => rfl
  | dict _ _ => rfl

/-! ## Each test by the depth and the core -/

theorem isMarker_eq_core (v : Value) :
    v.isMarker = (decide (v.depth = 0) && v.core.isMarker) := by
  cases v <;> rfl

theorem isMissing_eq_core (v : Value) :
    v.isMissing = (decide (v.depth ≤ 1) && v.core.isMarker) := by
  cases v with
  | wrapped p inner =>
    -- The one wrapping that the test looks through.
    have hwithin : decide (inner.depth + 1 ≤ 1) = decide (inner.depth = 0) :=
      decide_eq_decide.mpr (by omega)
    calc (wrapped p inner).isMissing = inner.isMarker := rfl
      _ = (decide (inner.depth = 0) && inner.core.isMarker) := inner.isMarker_eq_core
      _ = (decide (inner.depth + 1 ≤ 1) && inner.core.isMarker) := by rw [hwithin]
  | scalar p s => rfl
  | list p items => rfl
  | dict p entries => rfl

end Value

/-- A value is its core within some wrappings. The test of the handle is true of a marker that is not
wrapped, the test of the contents also of one that is wrapped once: there alone they differ. -/
theorem missing_tests_agree_iff (v : Value) :
    (∃ places : List Place, places.length = v.depth ∧ v = v.core.wrapAll places) ∧
      v.core.depth = 0 ∧
      isMissing (.handle v) = (decide (v.depth = 0) && v.core.isMarker) ∧
      v.isMissing = (decide (v.depth ≤ 1) && v.core.isMarker) ∧
      (isMissing (.handle v) = v.isMissing ↔ ¬ (v.depth = 1 ∧ v.core.isMarker = true)) := by
  have hhandle : isMissing (.handle v) = (decide (v.depth = 0) && v.core.isMarker) :=
    v.isMarker_eq_core
  refine ⟨v.exists_wrapAll, v.depth_core, hhandle, v.isMissing_eq_core, ?_⟩
  rw [hhandle, v.isMissing_eq_core]
  cases v.core.isMarker with
  | false => simp
  | true =>
    simp only [Bool.and_true, and_true, decide_eq_decide]
    omega

/-- The marker in one wrapping is missing by its contents and there by its handle. -/
theorem missing_tests_differ :
    isMissing (.handle (.wrapped (.numbered 0) .noDefault)) = false ∧
      (Value.wrapped (.numbered 0) .noDefault).isMissing = true :=
  ⟨rfl, rfl⟩

end FieldAtlas
