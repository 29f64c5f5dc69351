import FieldAtlas.Declaration.Build
import FieldAtlas.Declaration.Code
import FieldAtlas.Proofs.Declaration.Reading

/-!
# Remarks

A remark has a value unless it is a number out of range. No number that can be written is a NaN, so
that one out of range is an integer that needs more than 64 bits, or infinite.
-/

namespace FieldAtlas

open FieldAtlas.Source FieldAtlas.Source.Reading

/-! ## Written numbers -/

namespace Double

theorem isNaN_of_isFinite {d : Double} (h : d.isFinite = true) : d.isNaN = false := by
  unfold isFinite at h
  unfold isNaN
  simp only [decide_eq_true_eq, decide_eq_false_iff_not] at h ⊢
  omega

end Double

namespace Source.Literal

def NoNaN (l : Literal) : Prop := ∀ d, l = float d → d.isNaN = false

end Source.Literal

namespace Remark

def NoNaN (r : Remark) : Prop := ∀ d, r = .float d → d.isNaN = false

variable {r : Remark}

end Remark

def DeclaredField.NoNaN (f : DeclaredField) : Prop := ∀ e ∈ f.metadata, e.2.NoNaN

def DeclaredClass.NoNaN (c : DeclaredClass) : Prop := ∀ f ∈ c.fields, f.NoNaN

namespace Helper

end Helper

end FieldAtlas
