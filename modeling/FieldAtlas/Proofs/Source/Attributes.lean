import FieldAtlas.Proofs.Source.Loops
import FieldAtlas.Proofs.Source.OnwardGrammar

/-!
# Steady attributes

Attributes are read alike from cursors that are near each other. What they say has places in it, so
that it is only read over here.
-/

namespace FieldAtlas.Source.Grammar

open Reading

/-- The same shape, but that an open range may start at another place. -/
inductive Shape.Alike : Shape → Shape → Prop where
  | refl (s : Shape) : Alike s s
  | openRange (p q : Pos) : Alike (.openRange p) (.openRange q)

/-- Rules for all that can be read, from cursors that are near each other. -/
class Rules.AllSteady (rules : Rules) : Prop extends rules.SteadyArguments, rules.Onward where
  expr : ∀ struct, Steady (rules.expr struct)
  unary : ∀ struct, Steady (rules.unary struct)
  early : SteadyInside rules.early
  climb : ∀ struct base shape, Steady (rules.climb struct base shape)
  pattern : ∀ (F : Frame) (c c' : Cursor) [Near F c c'],
    SteadyAt F c c' Shape.Alike rules.pattern rules.pattern

set_option synthInstance.maxSize 100000

section

variable (rules : Rules) [hrules : rules.AllSteady]

instance steady_expr (struct : Bool) : Steady (rules.expr struct) := hrules.expr struct

instance steady_unary (struct : Bool) : Steady (rules.unary struct) := hrules.unary struct

instance steady_early : SteadyInside rules.early := hrules.early

instance steady_climb (struct : Bool) (base : Precedence) (shape : Shape) :
    Steady (rules.climb struct base shape) := hrules.climb struct base shape

instance steady_statements : SteadyInside rules.statements := hrules.statements

section

variable {F : Frame} {c c' : Cursor} [hnear : Near F c c']

instance steady_qualifiedPath (inExpr : Bool) :
    SteadyAt F c c' Eq (qualifiedPath rules inExpr) (qualifiedPath rules inExpr) := by
  unfold qualifiedPath
  dsimp only
  infer_instance

omit hrules in
instance steady_macroBrackets : SteadyAt F c c' Eq macroBrackets macroBrackets := by
  unfold macroBrackets
  refine steady_from ?_
  split
  · rename_i hc
    obtain ⟨ts, us, u, halike, -, hc'⟩ := front_alike hnear hc rfl
    have : Ahead c := ⟨_, _, hc, rfl⟩
    cases halike with
    | group _ _ =>
      simp only [hc']
      infer_instance
  · infer_instance

omit hrules in
instance same_startsSegment : Same (startsSegment c) (startsSegment c') := by
  unfold startsSegment Cursor.atPathKeyword
  infer_instance

omit hrules in
theorem steady_plainSegments (limit : Nat) :
    SteadyAt F c c' (List.Forall₂ fun _ _ => True) (plainSegments limit) (plainSegments limit) := by
  induction limit generalizing c c' with
  | zero => exact steady_pure .nil
  | succ limit ih =>
    unfold plainSegments
    refine steady_from (steady_ite_of (fun _ => ?_) (steady_pure .nil))
    refine steady_bind steady_anyWord (fun w w' d d' _ _ => ?_) fun _ => inferInstance
    refine steady_bind (steady_punct? "::") ?_ fun _ => inferInstance
    rintro more _ e e' rfl _
    refine steady_ite_of (fun _ => ?_) (steady_pure (.cons trivial .nil))
    refine steady_from (steady_ite_of (fun _ => ?_) steady_of_fails)
    exact steady_bind ih (fun _ _ _ _ hws _ => steady_pure (.cons trivial hws))
      fun _ => inferInstance

section

variable [hclosed : F.Closed]

omit hrules in
theorem steady_plainPath : SteadyAt F c c' (fun _ _ => True) plainPath plainPath := by
  unfold plainPath
  refine steady_bind (steady_punct? "::") ?_ fun _ => inferInstance
  rintro leading _ d d' rfl _
  refine steady_from ?_
  rw [← length_eq_inside d d']
  refine steady_bind (steady_plainSegments _) (fun ws ws' e e' hws _ => ?_) fun _ => inferInstance
  cases hws with
  | nil =>
    refine steady_bind steady_name (fun _ _ _ _ _ _ => ?_) fun _ => inferInstance
    exact steady_pure trivial
  | cons _ _ => exact steady_pure trivial

instance steady_metaValue : SteadyAt F c c' Eq (metaValue rules) (metaValue rules) := by
  unfold metaValue
  refine steady_from ?_
  have hexpr : SteadyAt F c c' Eq
      (if c.atPunct "#" && c.next.atGroup .brackets then
        fail "unexpected attribute inside of attribute"
      else discard (rules.expr true))
      (if c'.atPunct "#" && c'.next.atGroup .brackets then
        fail "unexpected attribute inside of attribute"
      else discard (rules.expr true)) := inferInstance
  have hlength : c.rest.length = c'.rest.length := length_eq_inside c c'
  rcases literal?_cases c c' with ⟨h, h'⟩ | ⟨l, rest, rest', h, h', -, hcount⟩
  · simpa only [h, h'] using hexpr
  · rw [h, h']
    have hrest := length_lt_of_literal? h
    have hrest' := length_lt_of_literal? h'
    have hcounts : rest.length = rest'.length := by omega
    cases rest with
    | nil =>
      obtain rfl := List.eq_nil_of_length_eq_zero hcounts.symm
      simp only [← hlength]
      exact steady_take (by simp [hclosed.out.1])
    | cons t ts =>
      cases rest' with
      | nil => cases hcounts
      | cons t' ts' => exact hexpr

theorem steady_metaBody (path path' : NamePath) :
    SteadyAt F c c' (fun _ _ => True) (metaBody rules path) (metaBody rules path') := by
  have hbare : SteadyAt F c c' (fun _ _ => True)
      (if c.atPunct "=" then do
        punct "="
        metaValue rules
        return (⟨path, .value c.pos⟩ : Attribute)
      else return ⟨path, .bare⟩)
      (if c'.atPunct "=" then do
        punct "="
        metaValue rules
        return (⟨path', .value c'.pos⟩ : Attribute)
      else return ⟨path', .bare⟩) := by
    refine steady_ite_of (fun _ => ?_) (steady_pure trivial)
    refine steady_bind (steady_punct "=") (fun _ _ d d' _ _ => ?_) fun _ => inferInstance
    exact steady_bind (steady_metaValue rules) (fun _ _ _ _ _ _ => steady_pure trivial)
      fun _ => inferInstance
  unfold metaBody
  refine steady_from ?_
  split
  · rename_i hc
    obtain ⟨ts, us, u, halike, -, hc'⟩ := front_alike hnear hc rfl
    have : Ahead c := ⟨_, _, hc, rfl⟩
    cases halike with
    | group _ _ =>
      simp only [hc']
      refine steady_bind steady_take_one (fun _ _ _ _ _ _ => ?_) fun _ => inferInstance
      exact steady_pure trivial
  · rename_i hc
    match hc' : c'.rest with
    | .group .. :: _ =>
      obtain ⟨ts, us, u, halike, -, hc''⟩ := front_alike hnear.symm hc' rfl
      cases halike with
      | group _ _ => exact absurd hc'' (hc _ _ _ _ _)
    | [] | .word .. :: _ | .punct .. :: _ | .literal .. :: _ => exact hbare

theorem steady_metaContent :
    SteadyAt F c c' (fun _ _ => True) (metaContent rules) (metaContent rules) := by
  unfold metaContent
  refine steady_from (steady_ite_of (fun _ => ?_) ?_)
  · exact steady_bind steady_anyWord (fun _ _ _ _ _ _ => steady_metaBody rules _ _)
      fun _ => inferInstance
  · exact steady_bind steady_plainPath (fun _ _ _ _ _ _ => steady_metaBody rules _ _)
      fun _ => inferInstance

end

theorem steady_outerAttribute :
    SteadyAt F c c' (fun _ _ => True) (outerAttribute rules) (outerAttribute rules) := by
  have (x : Frame.inside.Pair) : SteadyAt Frame.inside x.left x.right (fun _ _ => True)
    (metaContent rules) (metaContent rules) := steady_metaContent rules
  unfold outerAttribute
  infer_instance

instance progress_outerAttribute : Progress (outerAttribute rules) := by
  unfold outerAttribute
  infer_instance

instance steady_outerAttributes : SteadyAt F c c' (List.Forall₂ fun _ _ => True)
    (outerAttributes rules) (outerAttributes rules) := by
  have (x : F.Pair) : SteadyAt F x.left x.right (fun _ _ => True) (outerAttribute rules)
    (outerAttribute rules) := steady_outerAttribute rules
  unfold outerAttributes
  infer_instance

instance steady_innerAttributes [F.Closed] :
    SteadyAt F c c' Eq (innerAttributes rules) (innerAttributes rules) := by
  have (x : Frame.inside.Pair) : SteadyAt Frame.inside x.left x.right (fun _ _ => True)
    (metaContent rules) (metaContent rules) := steady_metaContent rules
  unfold innerAttributes
  infer_instance

end

end

end FieldAtlas.Source.Grammar
