import FieldAtlas.Proofs.Source.Atoms
import FieldAtlas.Source.Grammar.Statement

/-!
# Steady statements

Statements stand between braces, so that nothing is behind them. What starts one is tried out: from
cursors that are near each other, it goes well for both or for neither.
-/

namespace FieldAtlas.Source

theorem Alike.sizeOf_eq {spaced : Bool} {ts us : List Token} (h : Alike spaced ts us) :
    Token.sizeOf ts = Token.sizeOf us := by
  induction h with
  | nil => rfl
  | word _ ih | punct _ _ ih | literal _ ih =>
    rw [Token.sizeOf, Token.sizeOf, ih, Token.size, Token.size]
  | group _ _ ihContent ihRest =>
    rw [Token.sizeOf, Token.sizeOf, Token.size, Token.size, ihContent, ihRest]

namespace Grammar

open Reading

set_option synthInstance.maxSize 100000

variable (rules : Rules) [hrules : rules.AllSteady] {F : Frame} {c c' : Cursor}
  [hnear : Near F c c'] [hclosed : F.Closed]

/-! ## Visibility and fields -/

omit hrules in
instance steady_discard_plainPath :
    SteadyAt F c c' Eq (discard plainPath) (discard plainPath) := steady_discard steady_plainPath

omit hrules in
instance steady_visibleIn : SteadyAt F c c' Eq visibleIn visibleIn := by
  unfold visibleIn
  infer_instance

omit hrules in
instance steady_visibility : SteadyAt F c c' Eq visibility visibility := by
  unfold visibility
  infer_instance

theorem steady_fieldItem :
    SteadyAt F c c' (fun _ _ => True) (fieldItem rules) (fieldItem rules) := by
  have hrest (d d' : Cursor) [Near F d d'] (attributes attributes' : List Attribute)
      (w w' : Pos × String) : SteadyAt F d d' (fun _ _ => True)
      (do
        punct ":"
        let t ← written (rules.type true)
        return (⟨attributes, w.1, w.2, t.2⟩ : FieldItem))
      (do
        punct ":"
        let t ← written (rules.type true)
        return ⟨attributes', w'.1, w'.2, t.2⟩) := by
    refine steady_bind (steady_punct ":") (fun _ _ e e' _ _ => ?_) fun _ => inferInstance
    exact steady_bind steady_written_of (fun _ _ _ _ _ _ => steady_pure trivial)
      fun _ => inferInstance
  unfold fieldItem
  dsimp only
  refine steady_bind (steady_outerAttributes rules) (fun _ _ d d' _ _ => ?_) fun _ => inferInstance
  refine steady_then (fun _ e e' _ => steady_from (steady_ite_of (fun _ => ?_) ?_))
    fun _ => inferInstance
  · exact steady_bind steady_anyWord (fun _ _ _ _ _ _ => hrest _ _ _ _ _ _) fun _ => inferInstance
  · exact steady_bind steady_name (fun _ _ _ _ _ _ => hrest _ _ _ _ _ _) fun _ => inferInstance

omit hclosed in
theorem steady_fieldItems :
    SteadyAt F c c' (List.Forall₂ fun _ _ => True) (fieldItems rules) (fieldItems rules) := by
  have (x : Frame.inside.Pair) : SteadyAt Frame.inside x.left x.right (fun _ _ => True)
    (fieldItem rules) (fieldItem rules) := steady_fieldItem rules
  unfold fieldItems
  infer_instance

omit hclosed in
instance steady_discard_fieldItems :
    SteadyAt F c c' Eq (discard (fieldItems rules)) (discard (fieldItems rules)) :=
  steady_discard (steady_fieldItems rules)

instance steady_tupleItems : SteadyAt F c c' Eq (tupleItems rules) (tupleItems rules) := by
  unfold tupleItems
  infer_instance

instance steady_variant : SteadyAt F c c' Eq (variant rules) (variant rules) := by
  unfold variant
  dsimp only
  infer_instance

/-! ## Definitions of types -/

omit hrules hclosed in
theorem steady_whatever {α : Type} {r r' : Reading α} [h : SteadyAt F c c' Eq r r'] :
    SteadyAt F c c' (fun _ _ => True) r r' := steady_mono h fun _ _ _ => trivial

theorem steady_structBody :
    SteadyAt F c c' (fun _ _ => True) (structBody rules) (structBody rules) := by
  unfold structBody
  refine steady_then (fun conditioned d d' _ => steady_from ?_) fun _ => inferInstance
  refine steady_ite_of (fun _ => steady_whatever) (steady_ite_of (fun _ => ?_)
    (steady_ite_of (fun _ => steady_whatever) steady_of_fails))
  exact steady_bind (steady_fieldItems rules) (fun _ _ _ _ _ _ => steady_pure trivial)
    fun _ => inferInstance

instance steady_enumBody : SteadyAt F c c' Eq (enumBody rules) (enumBody rules) := by
  unfold enumBody
  infer_instance

instance steady_unionBody : SteadyAt F c c' Eq (unionBody rules) (unionBody rules) := by
  unfold unionBody
  infer_instance

omit hrules hclosed in
variable (c c') in
include hnear in
theorem bodyOf?_eq : bodyOf? rules c = bodyOf? rules c' := by
  have hstruct : Same (c.atWord "struct") (c'.atWord "struct") := inferInstance
  have henum : Same (c.atWord "enum") (c'.atWord "enum") := inferInstance
  have hunion : Same (c.atWord "union") (c'.atWord "union") := inferInstance
  unfold bodyOf?
  rw [hstruct.eq, henum.eq, hunion.eq]

theorem steady_of_bodyOf? {e : Cursor} {body : Reading ItemBody}
    (h : bodyOf? rules e = some body) : SteadyAt F c c' (fun _ _ => True) body body := by
  unfold bodyOf? at h
  split at h
  · cases h
    exact steady_structBody rules
  split at h
  · cases h
    exact steady_whatever
  split at h
  · cases h
    exact steady_whatever
  · cases h

omit hrules hnear hclosed in
theorem ahead_of_bodyOf? {body : Reading ItemBody} (h : bodyOf? rules c = some body) :
    Ahead c := by
  unfold bodyOf? at h
  split at h
  · exact ahead_of_atWord ‹_›
  split at h
  · exact ahead_of_atWord ‹_›
  split at h
  · exact ahead_of_atWord ‹_›
  · cases h

theorem steady_definition (attributes attributes' : List Attribute) :
    SteadyAt F c c' (fun _ _ => True) (definition rules attributes)
      (definition rules attributes') := by
  unfold definition
  refine steady_from ?_
  rw [bodyOf?_eq rules c c']
  cases hbody : bodyOf? rules c' with
  | none => exact steady_of_fails
  | some body =>
    have := ahead_of_bodyOf? rules ((bodyOf?_eq rules c c').trans hbody)
    have := onward_of_bodyOf? rules hbody
    refine steady_bind steady_take_one (fun _ _ d d' _ _ => ?_) fun _ => inferInstance
    refine steady_bind steady_name (fun _ _ e e' _ _ => ?_) fun _ => inferInstance
    refine steady_then (fun _ i i' _ => ?_) fun _ => inferInstance
    exact steady_bind (steady_of_bodyOf? rules hbody) (fun _ _ _ _ _ _ => steady_pure trivial)
      fun _ => inferInstance

instance steady_discard_definition (attributes : List Attribute) :
    SteadyAt F c c' Eq (discard (definition rules attributes))
      (discard (definition rules attributes)) :=
  steady_discard (steady_definition rules attributes attributes)

/-! ## Other items -/

omit hrules hnear hclosed in
instance near_ite {p p' : Bool} [Decidable (p = true)] [Decidable (p' = true)]
    {d d' e e' : Cursor} [hp : Same p p'] [hd : Near F d d'] [he : Near F e e'] :
    Near F (if p = true then d else e) (if p' = true then d' else e') := by
  obtain rfl := hp.eq
  by_cases h : p = true
  · rwa [if_pos h, if_pos h]
  · rwa [if_neg h, if_neg h]

instance steady_parameterItem :
    SteadyAt F c c' Eq (parameterItem rules) (parameterItem rules) := by
  unfold parameterItem
  dsimp only
  refine steady_then (fun _ d d' _ => steady_from ?_) fun _ => inferInstance
  -- `self` is read by the count of the tokens up to the cursor behind it.
  have hcount (e e' : Cursor) [Near F e e'] : SteadyAt F d d' Eq
      (take (d.rest.length - e.rest.length)) (take (d'.rest.length - e'.rest.length)) := by
    rw [← length_eq_inside d d', ← length_eq_inside e e']
    exact steady_take (by simp [hclosed.out.1])
  refine steady_ite_of (fun _ => ?_) inferInstance
  exact steady_bind (hcount _ _) (fun _ _ _ _ _ _ => inferInstance) fun _ => inferInstance

instance steady_functionItem : SteadyAt F c c' Eq (functionItem rules) (functionItem rules) := by
  unfold functionItem
  dsimp only
  infer_instance

instance steady_constItem (keyword : String) :
    SteadyAt F c c' Eq (constItem rules keyword) (constItem rules keyword) := by
  unfold constItem
  dsimp only
  infer_instance

instance steady_aliasItem : SteadyAt F c c' Eq (aliasItem rules) (aliasItem rules) := by
  unfold aliasItem
  infer_instance

omit hrules hclosed in
theorem steady_useTree (limit : Nat) :
    SteadyAt F c c' Eq (useTree limit) (useTree limit) := by
  induction limit generalizing F c c' with
  | zero => exact steady_pure_eq ()
  | succ limit ih =>
    have (G : Frame) (x : G.Pair) : SteadyAt G x.left x.right Eq (useTree limit)
      (useTree limit) := ih
    unfold useTree
    infer_instance

omit hrules in
instance steady_useItem : SteadyAt F c c' Eq useItem useItem := by
  unfold useItem
  refine steady_then (fun _ d d' _ => steady_then (fun _ e e' _ => steady_from ?_)
    fun _ => inferInstance) fun _ => inferInstance
  have halike : Alike true e.rest e'.rest := rest_alike
  rw [halike.sizeOf_eq]
  exact steady_bind (steady_useTree _) (fun _ _ _ _ _ _ => inferInstance) fun _ => inferInstance

instance same_startsConst : Same (startsConst c) (startsConst c') := by
  unfold startsConst
  infer_instance

instance same_startsStatic : Same (startsStatic c) (startsStatic c') := by
  unfold startsStatic
  infer_instance

instance same_startsFunction : Same (startsFunction c) (startsFunction c') := by
  unfold startsFunction
  infer_instance

instance same_startsDefinition : Same (startsDefinition c) (startsDefinition c') := by
  unfold startsDefinition
  infer_instance

omit hrules in
variable (c c') in
include hnear hclosed in
theorem itemOf?_eq : itemOf? rules c = itemOf? rules c' := by
  have hdefinition : Same (startsDefinition c) (startsDefinition c') := inferInstance
  have hconst : Same (startsConst c) (startsConst c') := inferInstance
  have hstatic : Same (startsStatic c) (startsStatic c') := inferInstance
  have hfunction : Same (startsFunction c) (startsFunction c') := inferInstance
  have htype : Same (c.atWord "type") (c'.atWord "type") := inferInstance
  have huse : Same (c.atWord "use") (c'.atWord "use") := inferInstance
  unfold itemOf?
  rw [hdefinition.eq, hconst.eq, hstatic.eq, hfunction.eq, htype.eq, huse.eq]

theorem steady_of_itemOf? {e : Cursor} {item : Reading Unit} (h : itemOf? rules e = some item) :
    SteadyAt F c c' Eq item item := by
  unfold itemOf? at h
  iterate 6
    split at h
    · cases h
      infer_instance
  cases h

/-! ## Statements -/

theorem endsWithBrace_eq {ts us : List Token} (h : Alike false ts us) :
    endsWithBrace ts = endsWithBrace us := by
  have hreverse := h.reverse
  unfold endsWithBrace
  rw [← List.head?_reverse, ← List.head?_reverse]
  generalize ts.reverse = vs, us.reverse = ws at hreverse
  cases hreverse with
  | @group d => cases d <;> rfl
  | _ => rfl

instance steady_bindingValue :
    SteadyAt F c c' Eq (bindingValue rules) (bindingValue rules) := by
  unfold bindingValue
  dsimp only
  refine steady_bind steady_written_of (fun t t' d d' ht _ => ?_) fun _ => inferInstance
  refine steady_bind (steady_writeAll ht.2) (fun _ _ e e' _ _ => ?_) fun _ => inferInstance
  rw [endsWithBrace_eq ht.2]
  infer_instance

instance steady_letStatement : SteadyAt F c c' Eq (letStatement rules) (letStatement rules) := by
  unfold letStatement
  refine steady_then (fun _ d d' _ => ?_) fun _ => inferInstance
  exact steady_bind (steady_discard (steady_patternAt rules)) (fun _ _ _ _ _ _ => inferInstance)
    fun _ => inferInstance

instance steady_macroStart : SteadyAt F c c' Eq macroStart macroStart := by
  unfold macroStart
  dsimp only
  infer_instance

instance steady_macroStatement (named : Bool) :
    SteadyAt F c c' Eq (macroStatement named) (macroStatement named) := by
  unfold macroStatement
  infer_instance

omit hrules in
instance steady_itemStart : SteadyAt F c c' Eq (itemStart rules) (itemStart rules) := by
  unfold itemStart
  refine steady_then (fun _ d d' _ => steady_from ?_) fun _ => forward_from fun _ => ?_
  · rw [itemOf?_eq rules d d']
    split <;> infer_instance
  · split <;> infer_instance

theorem steady_of_itemStart {e i : Cursor} {item : Reading Unit}
    (h : (itemStart rules).run e = .ok (item, i)) : SteadyAt F c c' Eq item item := by
  unfold itemStart at h
  obtain ⟨_, _, -, h⟩ := run_bind_ok_iff.mp h
  rw [run_from] at h
  split at h
  · obtain ⟨rfl, -⟩ := Prod.mk.inj (Except.ok.inj h)
    exact steady_of_itemOf? rules ‹_›
  · exact absurd h run_ne_ok

instance steady_statement : SteadyAt F c c' Eq (statement rules) (statement rules) := by
  have := closed_swap (F := F)
  unfold statement
  refine steady_bind_inside (steady_discard (steady_outerAttributes rules)) ?_
  rintro _ _ d d' - - _
  refine steady_bind_inside steady_attempt ?_
  rintro _ _ e e' - (rfl | _) _
  · infer_instance
  refine steady_from (steady_ite_of (fun _ => inferInstance) ?_)
  refine steady_bind_inside steady_attempt ?_
  rintro _ _ i i' hrun (rfl | _) _
  · -- Only an item that the rules give has to be steady.
    have : SteadyAt F i i' Eq _ _ := steady_of_itemStart rules (run_attempt_some hrun)
    have := onward_of_itemStart rules (run_attempt_some hrun)
    infer_instance
  refine steady_bind_inside steady_of_inside ?_
  rintro shape _ j j' - rfl _
  refine steady_bind_inside (steady_punct? ";") ?_
  rintro _ _ k k' - rfl _
  refine steady_if inferInstance ?_
  split <;> infer_instance

instance steady_statementsWithin (limit : Nat) :
    SteadyAt F c c' Eq (statementsWithin rules limit) (statementsWithin rules limit) := by
  induction limit generalizing c c' with
  | zero => exact steady_pure_eq ()
  | succ limit ih =>
    have (x : F.Pair) : SteadyAt F x.left x.right Eq (statementsWithin rules limit)
      (statementsWithin rules limit) := ih
    unfold statementsWithin
    dsimp only
    infer_instance

instance steadyInside_statements : SteadyInside (Grammar.statements rules) where
  at_near F c c' _ _ := by
    unfold Grammar.statements
    refine steady_from ?_
    rw [← length_eq_inside c c']
    infer_instance

end Grammar

end FieldAtlas.Source
