import Mathlib.Data.List.Forall2

/-!
# The first in a list that has something

Several classes may have something to say about a name, and the first that does is heard.
-/

namespace FieldAtlas.First

variable {α β : Type} {f : α → Option β}

theorem findSome?_eq_bind (l : List α) :
    l.findSome? f = (l.find? fun x => (f x).isSome).bind f := by
  induction l with
  | nil => rfl
  | cons x l ih =>
    cases h : f x with
    | none => simp [h, ih]
    | some y => simp [h]

/-- It is enough to ask the members of a sublist, if each that has something comes after one of
them that has, or is one. -/
theorem findSome?_sublist {xs ys : List α} (hsub : xs.Sublist ys) (hys : ys.Nodup)
    (h : ∀ y ∈ ys, (f y).isSome → ∃ x ∈ xs, (f x).isSome ∧ (x = y ∨ [x, y].Sublist ys)) :
    ys.findSome? f = xs.findSome? f := by
  induction hsub with
  | slnil => rfl
  | @cons xs ys z hsub ih =>
    rw [List.nodup_cons] at hys
    -- The head of `ys` is no member of `xs`, and nothing comes before it.
    have hz : f z = none := by
      rw [← Option.not_isSome_iff_eq_none]
      intro hz
      obtain ⟨x, hx, _, rfl | hprec⟩ := h z List.mem_cons_self hz
      · exact hys.1 (hsub.subset hx)
      · cases hprec with
        | cons _ hprec => exact hys.1 (hprec.subset (by simp))
        | cons_cons _ hprec => exact hys.1 (hsub.subset hx)
    rw [List.findSome?_cons_of_isNone (by simp [hz])]
    apply ih hys.2
    intro y hy hyf
    obtain ⟨x, hx, hxf, hxy⟩ := h y (List.mem_cons_of_mem _ hy) hyf
    refine ⟨x, hx, hxf, hxy.imp_right ?_⟩
    intro hprec
    cases hprec with
    | cons _ hprec => exact hprec
    | cons_cons _ _ => exact absurd (hsub.subset hx) hys.1
  | @cons_cons xs ys z hsub ih =>
    rw [List.nodup_cons] at hys
    cases hz : f z with
    | some b => simp [hz]
    | none =>
      rw [List.findSome?_cons_of_isNone (by simp [hz]), List.findSome?_cons_of_isNone (by simp [hz])]
      apply ih hys.2
      intro y hy hyf
      obtain ⟨x, hx, hxf, hxy⟩ := h y (List.mem_cons_of_mem _ hy) hyf
      have hne : x ≠ z := by
        rintro rfl
        simp [hz] at hxf
      refine ⟨x, List.mem_of_ne_of_mem hne hx, hxf, hxy.imp_right ?_⟩
      intro hprec
      cases hprec with
      | cons _ hprec => exact hprec
      | cons_cons _ _ => exact absurd rfl hne

/-! ## Two lists -/

variable {γ δ : Type} {R : β → δ → Prop}

theorem isSome_eq_of_rel {a : Option β} {b : Option δ} (h : Option.Rel R a b) :
    a.isSome = b.isSome := by
  cases h with
  | some _ => rfl
  | none => rfl

theorem or_rel {a a' : Option β} {b b' : Option δ} (h : Option.Rel R a b)
    (h' : Option.Rel R a' b') : Option.Rel R (a.or a') (b.or b') := by
  cases h with
  | some h => exact .some h
  | none => exact h'

theorem findSome?_rel {g : γ → Option δ} {xs : List α} {ys : List γ}
    (h : List.Forall₂ (fun x y => Option.Rel R (f x) (g y)) xs ys) :
    Option.Rel R (xs.findSome? f) (ys.findSome? g) := by
  induction h with
  | nil => exact .none
  | @cons x y _ _ hxy _ ih =>
    rw [List.findSome?_cons, List.findSome?_cons]
    generalize f x = a at hxy
    generalize g y = b at hxy
    cases hxy with
    | some h => exact .some h
    | none => exact ih

end FieldAtlas.First
