import FieldAtlas.Proofs.Source.Patterns
import FieldAtlas.Source.Grammar.Expression
import Mathlib.Data.List.Find

/-!
# Steady expressions
-/

namespace FieldAtlas.Source.Grammar

open Reading

set_option synthInstance.maxSize 100000

variable (rules : Rules) [hrules : rules.AllSteady] {F : Frame} {c c' : Cursor}
  [hnear : Near F c c']

/-! ## Operators -/

theorem mark_of_operator {o : String × Precedence} (h : o ∈ operators) : Mark o.1 := by
  simp only [operators, List.mem_cons, List.not_mem_nil, or_false] at h
  rcases h with rfl | rfl | rfl | rfl | rfl | rfl | rfl | rfl | rfl | rfl | rfl | rfl | rfl | rfl |
    rfl | rfl | rfl | rfl | rfl | rfl | rfl | rfl | rfl | rfl | rfl | rfl | rfl | rfl <;>
    exact ⟨by decide, by decide⟩

variable (c c') in
include hnear in
theorem operator?_eq : operator? c = operator? c' := by
  refine List.find?_congr fun o ho => ?_
  have := mark_of_operator ho
  exact Same.eq

instance same_atAssignment : Same (atAssignment c) (atAssignment c') := by
  unfold atAssignment
  infer_instance

variable (c c') in
include hnear in
theorem nextPrecedence_eq : nextPrecedence c = nextPrecedence c' := by
  have hassign : Same (atAssignment c) (atAssignment c') := inferInstance
  have hdots : Same (c.atPunct "..") (c'.atPunct "..") := inferInstance
  have has : Same (c.atWord "as") (c'.atWord "as") := inferInstance
  unfold nextPrecedence
  rw [operator?_eq c c', hassign.eq, hdots.eq, has.eq]

theorem steady_operandWithin (struct : Bool) (base : Precedence) {limit limit' : Nat}
    (h : c.rest.length < limit) (h' : c'.rest.length < limit') (shape : Shape) :
    SteadyAt F c c' Eq (operandWithin rules struct base limit shape)
      (operandWithin rules struct base limit' shape) := by
  induction limit generalizing limit' c c' shape with
  | zero => cases h
  | succ limit ih =>
  cases limit' with
  | zero => cases h'
  | succ limit' =>
  unfold operandWithin
  dsimp only
  refine steady_from ?_
  rw [nextPrecedence_eq c c']
  refine steady_if (steady_bind_run inferInstance ?_ fun _ => inferInstance) inferInstance
  rintro shape _ d d' hrun hrun' rfl hd
  refine steady_from ?_
  have hread := (Forward.out hrun).1
  have hread' := (Forward.out hrun').1
  have hstart := length_add_eq hnear
  have hend := length_add_eq hd
  -- A round that has read nothing is the last one, on both sides.
  by_cases hsame : d.rest.length = c.rest.length
  · rw [if_pos hsame, if_pos (by omega)]
    infer_instance
  · rw [if_neg hsame, if_neg (by omega)]
    exact ih (by omega) (by omega) shape

instance steady_operand (struct : Bool) (base : Precedence) :
    SteadyAt F c c' Eq (operand rules struct base) (operand rules struct base) := by
  unfold operand
  refine steady_then (fun shape d d' _ => steady_from ?_) fun _ => inferInstance
  exact steady_discard
    (steady_operandWithin rules struct base (Nat.lt_succ_self _) (Nat.lt_succ_self _) shape)

variable (c c') in
include hnear in
theorem behindCast?_eq : behindCast? c = behindCast? c' := by
  have hpoint : Same (c.atPunct "." && !c.atPunct "..") (c'.atPunct "." && !c'.atPunct "..") :=
    inferInstance
  have hquestion : Same (c.atPunct "?") (c'.atPunct "?") := inferInstance
  have hbrackets : Same (c.atGroup .brackets) (c'.atGroup .brackets) := inferInstance
  have hparens : Same (c.atGroup .parens) (c'.atGroup .parens) := inferInstance
  unfold behindCast?
  rw [← hpoint.eq, ← hquestion.eq, ← hbrackets.eq, ← hparens.eq]
  by_cases h : (c.atPunct "." && !c.atPunct "..") = true
  · have : Ahead c := Guards.ahead h
    have hawait : Same (c.next.atWord "await") (c'.next.atWord "await") := inferInstance
    have hmethod : Same (c.next.atName && (c.next.next.atGroup .parens || c.next.next.atPunct "::"))
        (c'.next.atName && (c'.next.next.atGroup .parens || c'.next.next.atPunct "::")) :=
      same_behind fun _ => inferInstance
    rw [if_pos h, if_pos h, hawait.eq, hmethod.eq]
  · rw [if_neg h, if_neg h]

instance steady_checkCast : SteadyAt F c c' Eq checkCast checkCast := by
  unfold checkCast
  refine steady_from ?_
  rw [behindCast?_eq c c']
  split <;> infer_instance

instance same_endsRange (struct : Bool) : Same (endsRange struct c) (endsRange struct c') := by
  have hsorted (c : Cursor) : endsRange struct c = ((c.atEnd || c.atAny [",", ";", "?", "=>", "=",
      "+", "/", "%", "^", ">", "<=", "!=", "-=", "*=", "&=", "|=", "<<="]) ||
      (c.atPunct "." && !c.atPunct "..") || (!struct && c.atGroup .braces) || c.atWord "as") := by
    unfold endsRange
    ac_rfl
  rw [hsorted, hsorted]
  infer_instance

instance progress_dots : Progress dots where
  out {c a d} hrun := by
    unfold dots at hrun
    obtain ⟨b, e, hmark, hrest⟩ := run_bind_ok_iff.mp hrun
    cases b with
    | true =>
      obtain ⟨-, rfl⟩ := Prod.mk.inj (Except.ok.inj hrest)
      exact length_lt_of_punct? hmark
    | false =>
      obtain ⟨-, rfl⟩ := run_punct?_ok_iff.mp hmark
      simp only [Bool.false_eq_true, if_false] at hrest
      exact Progress.out hrest

instance progress_rangeTail (struct : Bool) : Progress (rangeTail rules struct) := by
  unfold rangeTail
  infer_instance

instance steady_rangeTail (struct : Bool) :
    SteadyAt F c c' Eq (rangeTail rules struct) (rangeTail rules struct) := by
  unfold rangeTail
  infer_instance

theorem steady_climbWithin (struct : Bool) (base : Precedence) {limit limit' : Nat}
    (h : c.rest.length < limit) (h' : c'.rest.length < limit') (shape : Shape) :
    SteadyAt F c c' Eq (climbWithin rules struct base limit shape)
      (climbWithin rules struct base limit' shape) := by
  induction limit generalizing limit' c c' shape with
  | zero => cases h
  | succ limit ih =>
  cases limit' with
  | zero => cases h'
  | succ limit' =>
  have (shape : Shape) (x : Bounded F limit limit') : SteadyAt F x.left x.right Eq
      (climbWithin rules struct base limit shape) (climbWithin rules struct base limit' shape) :=
    ih x.below.left x.below.right shape
  unfold climbWithin
  dsimp only
  refine steady_if inferInstance (steady_from ?_)
  rw [operator?_eq c c']
  cases ho : operator? c' with
  | some o =>
    have := mark_of_operator (List.mem_of_find?_eq_some ho)
    refine steady_if inferInstance (steady_if inferInstance ?_)
    exact steady_round h h' (fun _ _ => inferInstance) fun _ => inferInstance
  | none =>
    refine steady_ite_of (fun _ => ?_) (steady_ite_of (fun _ => ?_)
      (steady_ite_of (fun _ => ?_) ?_))
    · exact steady_round h h' (fun _ _ => inferInstance) fun _ => inferInstance
    · exact steady_round h h' (fun _ _ => inferInstance) fun _ => inferInstance
    · exact steady_round h h' (fun _ _ => inferInstance) fun _ => inferInstance
    · infer_instance

instance steady_climbRule (struct : Bool) (base : Precedence) (shape : Shape) :
    SteadyAt F c c' Eq (climb rules struct base shape) (climb rules struct base shape) := by
  unfold climb
  exact steady_from
    (steady_climbWithin rules struct base (Nat.lt_succ_self _) (Nat.lt_succ_self _) shape)

instance steady_exprRule (struct : Bool) :
    SteadyAt F c c' Eq (expr rules struct) (expr rules struct) := by
  unfold expr
  infer_instance

instance same_startsExpr : Same (startsExpr c) (startsExpr c') := by
  unfold startsExpr
  infer_instance

/-! ## Behind an expression -/

instance progress_callList : Progress (callList rules) := by
  unfold callList
  infer_instance

instance steady_callList : SteadyAt F c c' Eq (callList rules) (callList rules) := by
  unfold callList
  infer_instance

theorem steady_tupleIndex (pos pos' : Pos) (digits : List Char) :
    SteadyAt F c c' Eq (tupleIndex pos digits) (tupleIndex pos' digits) := by
  unfold tupleIndex
  split
  · exact steady_write (.literal .nil)
  · exact steady_of_fails
  · exact steady_of_fails

theorem steady_tupleIndices (pos pos' : Pos) (text : String) :
    SteadyAt F c c' Eq (tupleIndices pos text) (tupleIndices pos' text) := by
  unfold tupleIndices
  have hpoint (x : F.Pair) : SteadyAt F x.left x.right Eq (write (.punct pos '.' false))
    (write (.punct pos' '.' false)) := steady_write (.punct nofun .nil)
  have hindex (digits : List Char) (x : F.Pair) : SteadyAt F x.left x.right Eq
    (tupleIndex pos digits) (tupleIndex pos' digits) := steady_tupleIndex pos pos' digits
  have hfirst (digits : List Char) : SteadyAt F c c' Eq
    (tupleIndex pos digits) (tupleIndex pos' digits) := steady_tupleIndex pos pos' digits
  split <;> infer_instance

instance steady_afterPoint : SteadyAt F c c' Eq (afterPoint rules) (afterPoint rules) := by
  unfold afterPoint
  dsimp only
  refine steady_from (steady_ite_of (fun h => ?_) (steady_from ?_))
  · have := ahead_of_atWord h
    infer_instance
  rcases written_cases c c' with ⟨p, q, text, ts, us, hc, hc'⟩ | ⟨hc, hc'⟩
  · have : Ahead c := ⟨_, _, hc, rfl⟩
    simp only [hc, hc']
    have (x : F.Pair) : SteadyAt F x.left x.right Eq (tupleIndex p text.toList)
      (tupleIndex q text.toList) := steady_tupleIndex p q text.toList
    split <;> infer_instance
  · split
    · exact absurd ‹_› (hc _ _ _)
    · infer_instance

instance steady_behindPoint : SteadyAt F c c' Eq (behindPoint rules) (behindPoint rules) := by
  unfold behindPoint
  refine steady_from ?_
  rcases written_cases c c' with ⟨p, q, text, ts, us, hc, hc'⟩ | ⟨hc, hc'⟩
  · have : Ahead c := ⟨_, _, hc, rfl⟩
    simp only [hc, hc']
    have (x : F.Pair) : SteadyAt F x.left x.right Eq (tupleIndices p text)
      (tupleIndices q text) := steady_tupleIndices p q text
    split <;> infer_instance
  · split
    · exact absurd ‹_› (hc _ _ _)
    · infer_instance

instance steady_pointTail : SteadyAt F c c' Eq (pointTail rules) (pointTail rules) := by
  unfold pointTail
  infer_instance

instance progress_pointTail : Progress (pointTail rules) := by
  unfold pointTail
  infer_instance

theorem steady_tailsWithin {limit limit' : Nat} (h : c.rest.length < limit)
    (h' : c'.rest.length < limit') (shape : Shape) :
    SteadyAt F c c' Eq (tailsWithin rules limit shape) (tailsWithin rules limit' shape) := by
  induction limit generalizing limit' c c' shape with
  | zero => cases h
  | succ limit ih =>
  cases limit' with
  | zero => cases h'
  | succ limit' =>
  have (shape : Shape) (x : Bounded F limit limit') : SteadyAt F x.left x.right Eq
      (tailsWithin rules limit shape) (tailsWithin rules limit' shape) :=
    ih x.below.left x.below.right shape
  unfold tailsWithin
  refine steady_from (steady_ite_of (fun _ => ?_) (steady_ite_of (fun _ => ?_)
    (steady_ite_of (fun _ => ?_) (steady_ite_of (fun _ => ?_) inferInstance))))
  all_goals exact steady_round h h' (fun _ _ => inferInstance) fun _ => inferInstance

instance steady_tails (shape : Shape) :
    SteadyAt F c c' Eq (tails rules shape) (tails rules shape) := by
  unfold tails
  exact steady_from
    (steady_tailsWithin rules (Nat.lt_succ_self _) (Nat.lt_succ_self _) shape)

/-! ## Blocks -/

instance steady_attributedBlock :
    SteadyAt F c c' Eq (attributedBlock rules) (attributedBlock rules) := by
  unfold attributedBlock
  infer_instance

instance steady_ifClause : SteadyAt F c c' Eq (ifClause rules) (ifClause rules) := by
  unfold ifClause
  infer_instance

theorem steady_elseWithin {limit limit' : Nat} (h : c.rest.length < limit)
    (h' : c'.rest.length < limit') :
    SteadyAt F c c' Eq (elseWithin rules limit) (elseWithin rules limit') := by
  induction limit generalizing limit' c c' with
  | zero => cases h
  | succ limit ih =>
  cases limit' with
  | zero => cases h'
  | succ limit' =>
  have (x : Bounded F limit limit') : SteadyAt F x.left x.right Eq (elseWithin rules limit)
      (elseWithin rules limit') := ih x.below.left x.below.right
  unfold elseWithin
  refine steady_bind_run (steady_word? "else") ?_ fun _ => inferInstance
  rintro (_ | _) _ d d' hrun hrun' rfl _
  · exact steady_pure_eq ()
  · have hlength := length_lt_of_word? hrun
    have hlength' := length_lt_of_word? hrun'
    have : Below limit limit' d d' := ⟨by omega, by omega⟩
    rw [if_pos rfl, if_pos rfl]
    infer_instance

instance steady_ifExpr : SteadyAt F c c' Eq (ifExpr rules) (ifExpr rules) := by
  unfold ifExpr
  refine steady_then (fun _ d d' _ => steady_from ?_) fun _ => inferInstance
  exact steady_elseWithin rules (Nat.lt_succ_self _) (Nat.lt_succ_self _)

instance steady_whileExpr : SteadyAt F c c' Eq (whileExpr rules) (whileExpr rules) := by
  unfold whileExpr
  infer_instance

instance steady_forExpr : SteadyAt F c c' Eq (forExpr rules) (forExpr rules) := by
  unfold forExpr
  infer_instance

instance steady_loopExpr : SteadyAt F c c' Eq (loopExpr rules) (loopExpr rules) := by
  unfold loopExpr
  infer_instance

instance steady_labelled : SteadyAt F c c' Eq (labelled rules) (labelled rules) := by
  unfold labelled
  infer_instance

/-! ## Matches and closures -/

instance steady_arm [F.Closed] : SteadyAt F c c' Eq (arm rules) (arm rules) := by
  unfold arm
  dsimp only
  infer_instance

instance progress_arm : Progress (arm rules) := by
  unfold arm
  dsimp only
  infer_instance

instance steady_matchExpr : SteadyAt F c c' Eq (matchExpr rules) (matchExpr rules) := by
  unfold matchExpr
  infer_instance

instance steady_closureParameter :
    SteadyAt F c c' Eq (closureParameter rules) (closureParameter rules) := by
  unfold closureParameter
  infer_instance

instance steady_closure (struct : Bool) :
    SteadyAt F c c' Eq (closure rules struct) (closure rules struct) := by
  unfold closure
  dsimp only
  infer_instance

/-! ## Paths, structs, tuples and arrays -/

instance steady_fieldValue : SteadyAt F c c' Eq (fieldValue rules) (fieldValue rules) := by
  unfold fieldValue
  infer_instance

instance steady_structFieldsWithin [F.Closed] (limit : Nat) :
    SteadyAt F c c' Eq (structFieldsWithin rules limit) (structFieldsWithin rules limit) := by
  induction limit generalizing c c' with
  | zero => exact steady_pure_eq ()
  | succ limit ih =>
    have (x : F.Pair) : SteadyAt F x.left x.right Eq (structFieldsWithin rules limit)
      (structFieldsWithin rules limit) := ih
    unfold structFieldsWithin
    infer_instance

instance steady_structFields : SteadyAt F c c' Eq (structFields rules) (structFields rules) := by
  have (x : Frame.inside.Pair) : SteadyAt Frame.inside x.left x.right Eq
      (structFieldsWithin rules (x.left.rest.length + 1))
      (structFieldsWithin rules (x.right.rest.length + 1)) := by
    rw [length_eq_inside x.left x.right]
    infer_instance
  unfold structFields
  infer_instance

instance steady_pathExpr (struct : Bool) :
    SteadyAt F c c' Eq (pathExpr rules struct) (pathExpr rules struct) := by
  unfold pathExpr
  infer_instance

instance steady_tupleExpr : SteadyAt F c c' Eq (tupleExpr rules) (tupleExpr rules) := by
  unfold tupleExpr
  infer_instance

instance steady_arrayExpr : SteadyAt F c c' Eq (arrayExpr rules) (arrayExpr rules) := by
  unfold arrayExpr
  infer_instance

/-! ## Jumps and bindings -/

instance steady_breakExpr (struct : Bool) :
    SteadyAt F c c' Eq (breakExpr rules struct) (breakExpr rules struct) := by
  unfold breakExpr
  dsimp only
  refine steady_then (fun _ d d' _ => steady_from ?_) fun _ => inferInstance
  have : Same (d.atLifetime && d.next.atPunct ":") (d'.atLifetime && d'.next.atPunct ":") :=
    same_behind fun _ => inferInstance
  infer_instance

instance steady_jumpExpr (keyword : String) :
    SteadyAt F c c' Eq (jumpExpr rules keyword) (jumpExpr rules keyword) := by
  unfold jumpExpr
  infer_instance

instance steady_letExpr (struct : Bool) :
    SteadyAt F c c' Eq (letExpr rules struct) (letExpr rules struct) := by
  unfold letExpr
  infer_instance

/-! ## Simple expressions -/

instance steady_blocky {r : Reading Unit} [SteadyAt F c c' Eq r r] [Forward r] :
    SteadyAt F c c' Eq (blocky r) (blocky r) := by
  unfold blocky
  infer_instance

instance steady_plainly {r : Reading Unit} [SteadyAt F c c' Eq r r] [Forward r] :
    SteadyAt F c c' Eq (plainly r) (plainly r) := by
  unfold plainly
  infer_instance

instance steady_asyncBlock : SteadyAt F c c' Eq (asyncBlock rules) (asyncBlock rules) := by
  unfold asyncBlock
  infer_instance

instance steady_wordBlock (keyword : String) {content : Reading Unit} [Forward content]
    [∀ x : F.Pair, SteadyAt F x.left x.right Eq content content] :
    SteadyAt F c c' Eq (wordBlock keyword content) (wordBlock keyword content) := by
  unfold wordBlock
  infer_instance

instance steady_builtin : SteadyAt F c c' Eq builtin builtin := by
  unfold builtin
  infer_instance

end FieldAtlas.Source.Grammar
