import FieldAtlas.Value.Basic

/-!
# Missing values

A value is missing if it is one of the markers. Only the type is looked at, so `0`, the empty text
and `false` are there. The test takes either a handle on a value or the bare contents of one, and
looks through one handle.
-/

namespace FieldAtlas

/-- What the missing test is applied to. -/
inductive Subject where
  | handle (v : Value)
  /-- What `v` holds, which is a handle again if `v` wraps a value. -/
  | contents (v : Value)

namespace Value

/-- The contents are a marker. -/
def isMarker (v : Value) : Bool := v.marker?.isSome

end Value

/-- Markers count as false. -/
def Marker.truth : Marker → Bool
  | _ => false

/-- The subject is a marker, or a handle on one. -/
def isMissing : Subject → Bool
  | .handle v => v.isMarker
  | .contents (.wrapped _ inner) => inner.isMarker
  | .contents v => v.isMarker

namespace Value

/-- The missing test on the contents. -/
def isMissing (v : Value) : Bool := FieldAtlas.isMissing (.contents v)

/-- The value, or the shared missing value in place of any marker. -/
def orMissing (v : Value) : Value := if v.isMissing then missing else v

/-- A handle on the shared missing value. -/
def isSharedMissing (v : Value) : Bool := v.samePlace missing

@[simp] theorem isMissing_ofMarker (m : Marker) : (ofMarker m).isMissing = true := rfl

@[simp] theorem isMissing_missing : missing.isMissing = true := rfl

theorem isMissing_orMissing (v : Value) : v.orMissing.isMissing = v.isMissing := by
  unfold orMissing
  split <;> simp_all

end Value

end FieldAtlas
