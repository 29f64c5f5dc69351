import FieldAtlas.Proofs.Source.Types
import FieldAtlas.Source.Grammar.Pattern

/-!
# Steady patterns
-/

namespace FieldAtlas.Source.Grammar

open Reading

set_option synthInstance.maxSize 100000

variable (rules : Rules) [hrules : rules.AllSteady] {F : Frame} {c c' : Cursor}
  [hnear : Near F c c']

theorem steady_shape {r r' : Reading Shape} [h : SteadyAt F c c' Eq r r'] :
    SteadyAt F c c' Shape.Alike r r' := steady_mono h fun s _ hs => hs ▸ .refl s

instance steady_patternAt : SteadyAt F c c' Shape.Alike rules.pattern rules.pattern :=
  hrules.pattern F c c'

instance same_atBar : Same (atBar c) (atBar c') := by
  unfold atBar
  infer_instance

instance steady_alternatives :
    SteadyAt F c c' Shape.Alike (alternatives rules) (alternatives rules) := by
  unfold alternatives
  refine steady_then (fun leading d d' _ => ?_) fun _ => inferInstance
  refine steady_bind (steady_patternAt rules) (fun s s' e e' hs _ => ?_) fun _ => inferInstance
  refine steady_bind steady_repeat (fun ss ss' i i' hss _ => ?_) fun _ => inferInstance
  rw [show ss.isEmpty = ss'.isEmpty by cases hss <;> rfl]
  refine steady_pure ?_
  split
  · exact .refl _
  · exact hs

/-! ## Ranges -/

instance steady_anyDots : SteadyAt F c c' Eq anyDots anyDots := by
  unfold anyDots
  infer_instance

instance steady_dots : SteadyAt F c c' Eq dots dots := by
  unfold dots
  infer_instance

instance same_noRangeEnd : Same (noRangeEnd c) (noRangeEnd c') := by
  have hsorted (c : Cursor) : noRangeEnd c = ((c.atEnd || c.atPunct ",") || c.atPunct "|" ||
      c.atPunct "=" || (c.atPunct ":" && !c.atPunct "::") || c.atPunct ";" || c.atWord "if") := by
    unfold noRangeEnd
    ac_rfl
  rw [hsorted, hsorted]
  infer_instance

instance steady_rangeSide : SteadyAt F c c' Eq (rangeSide rules) (rangeSide rules) := by
  unfold rangeSide
  dsimp only
  refine steady_from (steady_ite_of (fun _ => inferInstance) ?_)
  rcases literal?_cases c c' with ⟨h, h'⟩ | ⟨l, rest, rest', h, h', hlength, hcount⟩
  · simp only [h, h']
    infer_instance
  · simp only [h, h', hcount]
    exact steady_bind (steady_take hlength) (fun _ _ _ _ _ _ => inferInstance)
      fun _ => inferInstance

theorem steady_rangeRest : SteadyAt F c c' Shape.Alike (rangeRest rules) (rangeRest rules) := by
  unfold rangeRest
  refine steady_from (steady_then (fun closed d d' _ => ?_) fun _ => inferInstance)
  refine steady_then (fun found e e' _ => ?_) fun _ => inferInstance
  exact steady_ite_of (fun _ => steady_shape)
    (steady_ite_of (fun _ => steady_of_fails) (steady_pure (.openRange _ _)))

theorem steady_rangeOrRest :
    SteadyAt F c c' Shape.Alike (rangeOrRest rules) (rangeOrRest rules) := by
  unfold rangeOrRest
  refine steady_from (steady_then (fun closed d d' _ => ?_) fun _ => inferInstance)
  refine steady_then (fun found e e' _ => ?_) fun _ => inferInstance
  exact steady_ite_of (fun _ => steady_pure (.openRange _ _))
    (steady_ite_of (fun _ => steady_of_fails) steady_shape)

theorem steady_literalPattern :
    SteadyAt F c c' Shape.Alike (literalPattern rules) (literalPattern rules) := by
  unfold literalPattern
  refine steady_then (fun _ d d' _ => ?_) fun _ => inferInstance
  exact steady_from (steady_ite_of (fun _ => steady_rangeRest rules) steady_shape)

/-! ## Other patterns -/

instance steady_bindingPattern :
    SteadyAt F c c' Eq (bindingPattern rules) (bindingPattern rules) := by
  unfold bindingPattern
  dsimp only
  infer_instance

instance steady_member : SteadyAt F c c' Eq member member := by
  unfold member
  refine steady_from (steady_ite_of (fun _ => inferInstance) ?_)
  rcases literal?_cases c c' with ⟨h, h'⟩ | ⟨l, rest, rest', h, h', hlength, hcount⟩
  · simp only [h, h']
    infer_instance
  · cases l with
    | int _ _ =>
      simp only [h, h', hcount]
      exact steady_bind (steady_take hlength) (fun _ _ _ _ _ _ => inferInstance)
        fun _ => inferInstance
    | _ =>
      simp only [h, h']
      infer_instance

instance steady_fieldPattern : SteadyAt F c c' Eq (fieldPattern rules) (fieldPattern rules) := by
  unfold fieldPattern
  infer_instance

instance steady_structPattern :
    SteadyAt F c c' Eq (structPattern rules) (structPattern rules) := by
  unfold structPattern
  infer_instance

theorem steady_pathPattern :
    SteadyAt F c c' Shape.Alike (pathPattern rules) (pathPattern rules) := by
  unfold pathPattern
  refine steady_then (fun p d d' _ => steady_from ?_) fun _ => inferInstance
  refine steady_ite_of (fun _ => steady_shape) (steady_ite_of (fun _ => steady_shape) ?_)
  refine steady_ite_of (fun _ => steady_shape) ?_
  exact steady_ite_of (fun _ => steady_rangeRest rules) steady_shape

instance steady_sliceItem : SteadyAt F c c' Eq (sliceItem rules) (sliceItem rules) := by
  unfold sliceItem
  refine steady_bind (steady_alternatives rules) (fun s s' d d' hs _ => ?_) ?_
  · cases hs with
    | refl s => split <;> infer_instance
    | openRange p q => exact steady_of_fails
  · intro s
    split <;> infer_instance

instance same_startsPathPattern : Same (startsPathPattern c) (startsPathPattern c') := by
  have hname : Same (c.atName && (c.next.atPunct "::" || c.next.atPunct "!" ||
      c.next.atGroup .braces || c.next.atGroup .parens || c.next.atPunct ".."))
      (c'.atName && (c'.next.atPunct "::" || c'.next.atPunct "!" ||
      c'.next.atGroup .braces || c'.next.atGroup .parens || c'.next.atPunct "..")) :=
    same_behind fun _ => inferInstance
  have hself : Same (c.atWord "self" && c.next.atPunct "::")
      (c'.atWord "self" && c'.next.atPunct "::") := same_behind fun _ => inferInstance
  unfold startsPathPattern
  infer_instance

theorem steady_patternRule : SteadyAt F c c' Shape.Alike (pattern rules) (pattern rules) := by
  unfold pattern
  refine steady_from (steady_ite_of (fun _ => steady_pathPattern rules) ?_)
  refine steady_ite_of (fun h => ?_) (steady_ite_of (fun h => ?_) ?_)
  · have := ahead_of_atWord h
    exact steady_shape
  · have := ahead_of_atWord h
    exact steady_shape
  refine steady_ite_of (fun _ => steady_literalPattern rules) ?_
  refine steady_ite_of (fun _ => steady_shape) (steady_ite_of (fun _ => steady_shape) ?_)
  refine steady_ite_of (fun _ => steady_shape) (steady_ite_of (fun _ => steady_shape) ?_)
  exact steady_ite_of (fun _ => steady_rangeOrRest rules) steady_of_fails

end FieldAtlas.Source.Grammar
