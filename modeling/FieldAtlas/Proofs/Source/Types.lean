import FieldAtlas.Proofs.Source.Attributes
import FieldAtlas.Source.Grammar.Type

/-!
# Steady types
-/

namespace FieldAtlas.Source.Grammar

open Reading

set_option synthInstance.maxSize 100000

variable (rules : Rules) [hrules : rules.AllSteady] {F : Frame} {c c' : Cursor}
  [hnear : Near F c c']

instance steady_result (plus : Bool) :
    SteadyAt F c c' Eq (result rules plus) (result rules plus) := by
  unfold result
  infer_instance

instance steady_callArguments :
    SteadyAt F c c' Eq (callArguments rules) (callArguments rules) := by
  unfold callArguments
  infer_instance

instance steady_lifetimeParameter : SteadyAt F c c' Eq lifetimeParameter lifetimeParameter := by
  unfold lifetimeParameter
  infer_instance

instance steady_typeParameter :
    SteadyAt F c c' Eq (typeParameter rules) (typeParameter rules) := by
  unfold typeParameter
  dsimp only
  infer_instance

instance steady_constParameter :
    SteadyAt F c c' Eq (constParameter rules) (constParameter rules) := by
  unfold constParameter
  infer_instance

instance steady_parameter : SteadyAt F c c' Eq (parameter rules) (parameter rules) := by
  unfold parameter
  infer_instance

instance steady_parameters : SteadyAt F c c' Eq (parameters rules) (parameters rules) := by
  unfold parameters
  infer_instance

instance steady_binder : SteadyAt F c c' Eq (binder rules) (binder rules) := by
  unfold binder
  infer_instance

instance same_endsCondition [F.Closed] : Same (endsCondition c) (endsCondition c') := by
  unfold endsCondition Cursor.atAny
  simp only [List.any_cons, List.any_nil]
  infer_instance

instance steady_condition [F.Closed] :
    SteadyAt F c c' Eq (condition rules) (condition rules) := by
  unfold condition
  dsimp only
  infer_instance

instance steady_conditionsWithin [F.Closed] (limit : Nat) :
    SteadyAt F c c' Eq (conditionsWithin rules limit) (conditionsWithin rules limit) := by
  induction limit generalizing c c' with
  | zero => exact steady_pure_eq ()
  | succ limit ih =>
    have (x : F.Pair) : SteadyAt F x.left x.right Eq (conditionsWithin rules limit)
      (conditionsWithin rules limit) := ih
    unfold conditionsWithin
    infer_instance

instance steady_conditions [F.Closed] :
    SteadyAt F c c' Eq (conditions rules) (conditions rules) := by
  unfold conditions
  refine steady_then (fun found d d' _ => ?_) fun _ => inferInstance
  refine steady_ite_of (fun _ => steady_from ?_) inferInstance
  rw [← length_eq_inside d d']
  infer_instance

instance steady_traitBound : SteadyAt F c c' Eq (traitBound rules) (traitBound rules) := by
  unfold traitBound
  dsimp only
  infer_instance

instance steady_boundRule (capturing : Bool) :
    SteadyAt F c c' Eq (bound rules capturing) (bound rules capturing) := by
  unfold bound
  dsimp only
  infer_instance

instance same_startsBound : Same (startsBound c) (startsBound c') := by
  unfold startsBound
  infer_instance

instance steady_moreBounds (capturing : Bool) :
    SteadyAt F c c' Eq (moreBounds rules capturing) (moreBounds rules capturing) := by
  unfold moreBounds
  infer_instance

instance steady_bounds (plus capturing : Bool) (message : String) :
    SteadyAt F c c' Eq (bounds rules plus capturing message)
      (bounds rules plus capturing message) := by
  unfold bounds
  dsimp only
  infer_instance

instance steady_dynBounds (plus : Bool) :
    SteadyAt F c c' Eq (dynBounds rules plus) (dynBounds rules plus) := by
  unfold dynBounds
  refine steady_then (fun bs d d' _ => ?_) fun bs => ?_
  all_goals split <;> infer_instance

instance steady_functionParameter [F.Closed] :
    SteadyAt F c c' Eq (functionParameter rules) (functionParameter rules) := by
  unfold functionParameter
  dsimp only
  infer_instance

instance steady_convention : SteadyAt F c c' Eq convention convention := by
  unfold convention
  refine steady_from ?_
  rcases written_cases c c' with ⟨p, q, text, ts, us, hc, hc'⟩ | ⟨hc, hc'⟩
  · have : Ahead c := ⟨_, _, hc, rfl⟩
    simp only [hc, hc']
    infer_instance
  · split
    · exact absurd ‹_› (hc _ _ _)
    · infer_instance

instance steady_functionType : SteadyAt F c c' Eq (functionType rules) (functionType rules) := by
  unfold functionType
  dsimp only
  infer_instance

instance steady_bracketedContent [F.Closed] :
    SteadyAt F c c' Eq (bracketedContent rules) (bracketedContent rules) := by
  unfold bracketedContent
  infer_instance

instance steady_bracketedType (plus : Bool) :
    SteadyAt F c c' Eq (bracketedType rules plus) (bracketedType rules plus) := by
  unfold bracketedType
  refine steady_then (fun b d d' _ => ?_) fun b => ?_
  all_goals split <;> infer_instance

instance steady_pointerType : SteadyAt F c c' Eq (pointerType rules) (pointerType rules) := by
  unfold pointerType
  dsimp only
  infer_instance

instance steady_referenceType :
    SteadyAt F c c' Eq (referenceType rules) (referenceType rules) := by
  unfold referenceType
  dsimp only
  infer_instance

instance steady_arrayType : SteadyAt F c c' Eq (arrayType rules) (arrayType rules) := by
  unfold arrayType
  infer_instance

instance same_startsPathType : Same (startsPathType c) (startsPathType c') := by
  unfold startsPathType
  infer_instance

theorem steady_callPathWithin {limit limit' : Nat} (h : c.rest.length < limit)
    (h' : c'.rest.length < limit') (endsWithArguments : Bool) :
    SteadyAt F c c' Eq (callPathWithin rules limit endsWithArguments)
      (callPathWithin rules limit' endsWithArguments) := by
  induction limit generalizing limit' c c' endsWithArguments with
  | zero => cases h
  | succ limit ih =>
  cases limit' with
  | zero => cases h'
  | succ limit' =>
  have (b : Bool) (x : Bounded F limit limit') : SteadyAt F x.left x.right Eq
      (callPathWithin rules limit b) (callPathWithin rules limit' b) :=
    ih x.below.left x.below.right b
  unfold callPathWithin
  dsimp only
  refine steady_from (steady_ite_of (fun _ => steady_ite_of (fun _ => ?_) ?_) inferInstance)
  · refine steady_bind_run inferInstance (fun _ _ e e' hrun hrun' _ _ => ?_) fun _ => inferInstance
    have hlength := (Forward.out hrun).1
    have hlength' := (Forward.out hrun').1
    exact steady_round (Nat.lt_of_le_of_lt hlength h) (Nat.lt_of_le_of_lt hlength' h')
      (fun _ _ => inferInstance) fun _ => inferInstance
  · exact steady_round h h' (fun _ _ => inferInstance) fun _ => inferInstance

instance steady_callPath (endsWithArguments : Bool) : SteadyAt F c c' Eq
    (callPathWithin rules (c.rest.length + 1) endsWithArguments)
    (callPathWithin rules (c'.rest.length + 1) endsWithArguments) :=
  steady_callPathWithin rules (Nat.lt_succ_self _) (Nat.lt_succ_self _) endsWithArguments

instance steady_pathType (plus bindered : Bool) :
    SteadyAt F c c' Eq (pathType rules plus bindered) (pathType rules plus bindered) := by
  unfold pathType
  dsimp only
  refine steady_then (fun p d d' _ => ?_) fun p => ?_
  · split
    · infer_instance
    · refine steady_from (steady_then (fun called e e' _ => steady_from ?_) fun _ => inferInstance)
      have hplus : Same (e.atPunct "+") (e'.atPunct "+") := inferInstance
      rw [← hplus.eq]
      infer_instance
  · split <;> infer_instance

instance steady_typeRule (plus : Bool) :
    SteadyAt F c c' Eq (type rules plus) (type rules plus) := by
  unfold type
  dsimp only
  refine steady_from ?_
  have hfor : Same (c.atWord "for") (c'.atWord "for") := inferInstance
  rw [← hfor.eq]
  infer_instance

end FieldAtlas.Source.Grammar
