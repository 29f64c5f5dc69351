import FieldAtlas.Proofs.Source.Onward
import FieldAtlas.Source.Grammar

/-!
# What the grammar leaves

Each rule of the grammar leaves an end of the tokens in front of it if the rules that it calls do.
-/

namespace FieldAtlas.Source.Grammar

open Reading

set_option synthInstance.maxSize 100000

variable (rules : Rules) [hrules : rules.Onward]

instance onward_plainSegments (limit : Nat) : Onward (plainSegments limit) := by
  induction limit with
  | zero => exact onward_pure []
  | succ limit ih =>
    unfold plainSegments
    infer_instance

instance onward_plainPath : Onward plainPath := by
  unfold plainPath
  infer_instance

instance onward_block : Onward (block rules) := by
  unfold block
  infer_instance

instance onward_constant : Onward (constant rules) := by
  unfold constant
  refine onward_from fun c => ?_
  split <;> infer_instance

instance onward_afterType (shape : Shape) : Onward (afterType rules shape) := by
  cases shape <;> unfold afterType <;> dsimp only <;> infer_instance

instance onward_argument : Onward (argument rules) := by
  rw [argument_eq]
  infer_instance

instance onward_argumentsWithin (limit : Nat) : Onward (argumentsWithin rules limit) := by
  induction limit with
  | zero => exact onward_pure []
  | succ limit ih =>
    unfold argumentsWithin
    infer_instance

instance onward_arguments : Onward (arguments rules) := by
  unfold arguments
  infer_instance

instance onward_segmentEnd (inExpr : Bool) (w : String) : Onward (segmentEnd rules inExpr w) := by
  unfold segmentEnd
  infer_instance

instance onward_segment (inExpr : Bool) : Onward (segment rules inExpr) := by
  rw [segment_eq]
  infer_instance

instance onward_moreSegments (inExpr : Bool) : Onward (moreSegments rules inExpr) := by
  unfold moreSegments
  infer_instance

instance onward_path (inExpr : Bool) : Onward (path rules inExpr) := by
  unfold path
  infer_instance

instance onward_qualifiedPath (inExpr : Bool) : Onward (qualifiedPath rules inExpr) := by
  unfold qualifiedPath
  dsimp only
  infer_instance

instance onward_macroBrackets : Onward macroBrackets := by
  unfold macroBrackets
  refine onward_from fun c => ?_
  split <;> infer_instance

instance onward_metaValue : Onward (metaValue rules) := by
  unfold metaValue
  refine onward_from fun c => ?_
  split <;> infer_instance

instance onward_metaBody (path : NamePath) : Onward (metaBody rules path) := by
  unfold metaBody
  refine onward_from fun c => ?_
  split <;> infer_instance

instance onward_metaContent : Onward (metaContent rules) := by
  unfold metaContent
  infer_instance

instance onward_outerAttribute : Onward (outerAttribute rules) := by
  unfold outerAttribute
  infer_instance

instance onward_outerAttributes : Onward (outerAttributes rules) := by
  unfold outerAttributes
  infer_instance

instance onward_innerAttributes : Onward (innerAttributes rules) := by
  unfold innerAttributes
  infer_instance

instance onward_result (plus : Bool) : Onward (result rules plus) := by
  unfold result
  infer_instance

instance onward_callArguments : Onward (callArguments rules) := by
  unfold callArguments
  infer_instance

instance onward_lifetimeParameter : Onward lifetimeParameter := by
  unfold lifetimeParameter
  infer_instance

instance onward_typeParameter : Onward (typeParameter rules) := by
  unfold typeParameter
  dsimp only
  infer_instance

instance onward_constParameter : Onward (constParameter rules) := by
  unfold constParameter
  infer_instance

instance onward_parameter : Onward (parameter rules) := by
  unfold parameter
  infer_instance

instance onward_parameters : Onward (parameters rules) := by
  unfold parameters
  infer_instance

instance onward_binder : Onward (binder rules) := by
  unfold binder
  infer_instance

instance onward_condition : Onward (condition rules) := by
  unfold condition
  dsimp only
  infer_instance

instance onward_conditionsWithin (limit : Nat) : Onward (conditionsWithin rules limit) := by
  induction limit with
  | zero => exact onward_pure ()
  | succ limit ih =>
    unfold conditionsWithin
    infer_instance

instance onward_conditions : Onward (conditions rules) := by
  unfold conditions
  infer_instance

instance onward_traitBound : Onward (traitBound rules) := by
  unfold traitBound
  dsimp only
  infer_instance

instance onward_boundRule (capturing : Bool) : Onward (bound rules capturing) := by
  unfold bound
  dsimp only
  infer_instance

instance onward_moreBounds (capturing : Bool) : Onward (moreBounds rules capturing) := by
  unfold moreBounds
  infer_instance

instance onward_bounds (plus capturing : Bool) (message : String) :
    Onward (bounds rules plus capturing message) := by
  unfold bounds
  dsimp only
  infer_instance

instance onward_dynBounds (plus : Bool) : Onward (dynBounds rules plus) := by
  unfold dynBounds
  refine onward_seq fun bs => ?_
  split <;> infer_instance

instance onward_functionParameter : Onward (functionParameter rules) := by
  unfold functionParameter
  dsimp only
  infer_instance

instance onward_convention : Onward convention := by
  unfold convention
  refine onward_from fun c => ?_
  split <;> infer_instance

instance onward_functionType : Onward (functionType rules) := by
  unfold functionType
  dsimp only
  infer_instance

instance onward_bracketedContent : Onward (bracketedContent rules) := by
  unfold bracketedContent
  infer_instance

instance onward_bracketedType (plus : Bool) : Onward (bracketedType rules plus) := by
  unfold bracketedType
  refine onward_seq fun b => ?_
  split <;> infer_instance

instance onward_pointerType : Onward (pointerType rules) := by
  unfold pointerType
  dsimp only
  infer_instance

instance onward_referenceType : Onward (referenceType rules) := by
  unfold referenceType
  dsimp only
  infer_instance

instance onward_arrayType : Onward (arrayType rules) := by
  unfold arrayType
  infer_instance

instance onward_callPathWithin (limit : Nat) (endsWithArguments : Bool) :
    Onward (callPathWithin rules limit endsWithArguments) := by
  induction limit generalizing endsWithArguments with
  | zero => exact onward_pure false
  | succ limit ih =>
    unfold callPathWithin
    dsimp only
    infer_instance

instance onward_pathType (plus bindered : Bool) : Onward (pathType rules plus bindered) := by
  unfold pathType
  dsimp only
  refine onward_seq fun p => ?_
  split <;> infer_instance

instance onward_typeRule (plus : Bool) : Onward (type rules plus) := by
  unfold type
  dsimp only
  infer_instance

instance onward_alternatives : Onward (alternatives rules) := by
  unfold alternatives
  infer_instance

instance onward_anyDots : Onward anyDots := by
  unfold anyDots
  infer_instance

instance onward_dots : Onward dots := by
  unfold dots
  infer_instance

instance onward_rangeSide : Onward (rangeSide rules) := by
  unfold rangeSide
  dsimp only
  refine onward_from fun c => ?_
  split
  · infer_instance
  · split <;> infer_instance

instance onward_rangeRest : Onward (rangeRest rules) := by
  unfold rangeRest
  infer_instance

instance onward_rangeOrRest : Onward (rangeOrRest rules) := by
  unfold rangeOrRest
  infer_instance

instance onward_literalPattern : Onward (literalPattern rules) := by
  unfold literalPattern
  infer_instance

instance onward_bindingPattern : Onward (bindingPattern rules) := by
  unfold bindingPattern
  dsimp only
  infer_instance

instance onward_member : Onward member := by
  unfold member
  refine onward_from fun c => ?_
  split
  · infer_instance
  · split <;> infer_instance

instance onward_fieldPattern : Onward (fieldPattern rules) := by
  unfold fieldPattern
  infer_instance

instance onward_structPattern : Onward (structPattern rules) := by
  unfold structPattern
  infer_instance

instance onward_pathPattern : Onward (pathPattern rules) := by
  unfold pathPattern
  infer_instance

instance onward_sliceItem : Onward (sliceItem rules) := by
  unfold sliceItem
  refine onward_seq fun s => ?_
  split <;> infer_instance

instance onward_patternRule : Onward (pattern rules) := by
  unfold pattern
  infer_instance

instance onward_operandWithin (struct : Bool) (base : Precedence) (limit : Nat) (shape : Shape) :
    Onward (operandWithin rules struct base limit shape) := by
  induction limit generalizing shape with
  | zero => exact onward_pure shape
  | succ limit ih =>
    unfold operandWithin
    infer_instance

instance onward_operand (struct : Bool) (base : Precedence) :
    Onward (operand rules struct base) := by
  unfold operand
  infer_instance

instance onward_checkCast : Onward checkCast := by
  unfold checkCast
  refine onward_from fun c => ?_
  split <;> infer_instance

instance onward_rangeTail (struct : Bool) : Onward (rangeTail rules struct) := by
  unfold rangeTail
  infer_instance

instance onward_climbWithin (struct : Bool) (base : Precedence) (limit : Nat) (shape : Shape) :
    Onward (climbWithin rules struct base limit shape) := by
  induction limit generalizing shape with
  | zero => exact onward_pure shape
  | succ limit ih =>
    unfold climbWithin
    dsimp only
    split
    · infer_instance
    · refine onward_from fun c => ?_
      split <;> infer_instance

instance onward_climbRule (struct : Bool) (base : Precedence) (shape : Shape) :
    Onward (climb rules struct base shape) := by
  unfold climb
  infer_instance

instance onward_exprRule (struct : Bool) : Onward (expr rules struct) := by
  unfold expr
  infer_instance

instance onward_callList : Onward (callList rules) := by
  unfold callList
  infer_instance

instance onward_tupleIndex (pos : Pos) (digits : List Char) :
    Onward (tupleIndex pos digits) := by
  unfold tupleIndex
  split <;> infer_instance

instance onward_tupleIndices (pos : Pos) (text : String) : Onward (tupleIndices pos text) := by
  unfold tupleIndices
  split <;> infer_instance

instance onward_afterPoint : Onward (afterPoint rules) := by
  unfold afterPoint
  dsimp only
  refine onward_from fun c => ?_
  split
  · infer_instance
  · refine onward_from fun c => ?_
    split
    · split <;> infer_instance
    · infer_instance

instance onward_behindPoint : Onward (behindPoint rules) := by
  unfold behindPoint
  refine onward_from fun c => ?_
  split
  · split <;> infer_instance
  · infer_instance

instance onward_pointTail : Onward (pointTail rules) := by
  unfold pointTail
  infer_instance

instance onward_tailsWithin (limit : Nat) (shape : Shape) :
    Onward (tailsWithin rules limit shape) := by
  induction limit generalizing shape with
  | zero => exact onward_pure shape
  | succ limit ih =>
    unfold tailsWithin
    infer_instance

instance onward_tails (shape : Shape) : Onward (tails rules shape) := by
  unfold tails
  infer_instance

instance onward_attributedBlock : Onward (attributedBlock rules) := by
  unfold attributedBlock
  infer_instance

instance onward_ifClause : Onward (ifClause rules) := by
  unfold ifClause
  infer_instance

instance onward_elseWithin (limit : Nat) : Onward (elseWithin rules limit) := by
  induction limit with
  | zero => exact onward_pure ()
  | succ limit ih =>
    unfold elseWithin
    infer_instance

instance onward_ifExpr : Onward (ifExpr rules) := by
  unfold ifExpr
  infer_instance

instance onward_whileExpr : Onward (whileExpr rules) := by
  unfold whileExpr
  infer_instance

instance onward_forExpr : Onward (forExpr rules) := by
  unfold forExpr
  infer_instance

instance onward_loopExpr : Onward (loopExpr rules) := by
  unfold loopExpr
  infer_instance

instance onward_labelled : Onward (labelled rules) := by
  unfold labelled
  infer_instance

instance onward_arm : Onward (arm rules) := by
  unfold arm
  dsimp only
  infer_instance

instance onward_matchExpr : Onward (matchExpr rules) := by
  unfold matchExpr
  infer_instance

instance onward_closureParameter : Onward (closureParameter rules) := by
  unfold closureParameter
  infer_instance

instance onward_closure (struct : Bool) : Onward (closure rules struct) := by
  unfold closure
  dsimp only
  infer_instance

instance onward_fieldValue : Onward (fieldValue rules) := by
  unfold fieldValue
  infer_instance

instance onward_structFieldsWithin (limit : Nat) : Onward (structFieldsWithin rules limit) := by
  induction limit with
  | zero => exact onward_pure ()
  | succ limit ih =>
    unfold structFieldsWithin
    infer_instance

instance onward_structFields : Onward (structFields rules) := by
  unfold structFields
  infer_instance

instance onward_pathExpr (struct : Bool) : Onward (pathExpr rules struct) := by
  unfold pathExpr
  infer_instance

instance onward_tupleExpr : Onward (tupleExpr rules) := by
  unfold tupleExpr
  infer_instance

instance onward_arrayExpr : Onward (arrayExpr rules) := by
  unfold arrayExpr
  infer_instance

instance onward_breakExpr (struct : Bool) : Onward (breakExpr rules struct) := by
  unfold breakExpr
  dsimp only
  infer_instance

instance onward_jumpExpr (keyword : String) : Onward (jumpExpr rules keyword) := by
  unfold jumpExpr
  infer_instance

instance onward_letExpr (struct : Bool) : Onward (letExpr rules struct) := by
  unfold letExpr
  infer_instance

instance onward_literalExpr (l : Literal) (rest : List Token) : Onward (literalExpr l rest) := by
  unfold literalExpr
  refine onward_from fun c => onward_seq fun _ => ?_
  split <;> infer_instance

instance onward_blocky {r : Reading Unit} [Onward r] : Onward (blocky r) := by
  unfold blocky
  infer_instance

instance onward_plainly {r : Reading Unit} [Onward r] : Onward (plainly r) := by
  unfold plainly
  infer_instance

instance onward_asyncBlock : Onward (asyncBlock rules) := by
  unfold asyncBlock
  infer_instance

instance onward_wordBlock (keyword : String) {content : Reading Unit} [Onward content] :
    Onward (wordBlock keyword content) := by
  unfold wordBlock
  infer_instance

instance onward_builtin : Onward builtin := by
  unfold builtin
  infer_instance

instance onward_atom (struct : Bool) : Onward (atom rules struct) := by
  unfold atom
  refine onward_from fun c => ?_
  split <;> infer_instance

instance onward_unaryRule (struct : Bool) : Onward (unary rules struct) := by
  unfold unary
  dsimp only
  infer_instance

instance onward_earlyRule : Onward (Grammar.early rules) := by
  unfold Grammar.early
  dsimp only
  infer_instance

/-! ## Statements and items -/

instance onward_visibleIn : Onward visibleIn := by
  unfold visibleIn
  infer_instance

instance onward_visibility : Onward visibility := by
  unfold visibility
  infer_instance

instance onward_fieldItem : Onward (fieldItem rules) := by
  unfold fieldItem
  dsimp only
  infer_instance

instance onward_fieldItems : Onward (fieldItems rules) := by
  unfold fieldItems
  infer_instance

instance onward_tupleItems : Onward (tupleItems rules) := by
  unfold tupleItems
  infer_instance

instance onward_variant : Onward (variant rules) := by
  unfold variant
  dsimp only
  infer_instance

instance onward_structBody : Onward (structBody rules) := by
  unfold structBody
  infer_instance

instance onward_enumBody : Onward (enumBody rules) := by
  unfold enumBody
  infer_instance

instance onward_unionBody : Onward (unionBody rules) := by
  unfold unionBody
  infer_instance

theorem onward_of_bodyOf? {c : Cursor} {body : Reading ItemBody}
    (h : bodyOf? rules c = some body) : Onward body := by
  unfold bodyOf? at h
  split at h
  · cases h
    infer_instance
  split at h
  · cases h
    infer_instance
  split at h
  · cases h
    infer_instance
  · cases h

instance onward_definition (attributes : List Attribute) :
    Onward (definition rules attributes) := by
  unfold definition
  refine onward_from fun c => ?_
  split
  · have := onward_of_bodyOf? rules ‹_›
    infer_instance
  · infer_instance

instance onward_parameterItem : Onward (parameterItem rules) := by
  unfold parameterItem
  dsimp only
  infer_instance

instance onward_functionItem : Onward (functionItem rules) := by
  unfold functionItem
  dsimp only
  infer_instance

instance onward_constItem (keyword : String) : Onward (constItem rules keyword) := by
  unfold constItem
  dsimp only
  infer_instance

instance onward_aliasItem : Onward (aliasItem rules) := by
  unfold aliasItem
  infer_instance

instance onward_useTree (limit : Nat) : Onward (useTree limit) := by
  induction limit with
  | zero => exact onward_pure ()
  | succ limit ih =>
    unfold useTree
    infer_instance

instance onward_useItem : Onward useItem := by
  unfold useItem
  infer_instance

theorem onward_of_itemOf? {c : Cursor} {item : Reading Unit} (h : itemOf? rules c = some item) :
    Onward item := by
  unfold itemOf? at h
  iterate 6
    split at h
    · cases h
      infer_instance
  cases h

instance onward_bindingValue : Onward (bindingValue rules) := by
  unfold bindingValue
  dsimp only
  infer_instance

instance onward_letStatement : Onward (letStatement rules) := by
  unfold letStatement
  infer_instance

instance onward_macroStatement (named : Bool) : Onward (macroStatement named) := by
  unfold macroStatement
  infer_instance

instance onward_macroStart : Onward macroStart := by
  unfold macroStart
  infer_instance

instance onward_itemStart : Onward (itemStart rules) := by
  unfold itemStart
  refine onward_seq fun _ => onward_from fun c => ?_
  split <;> infer_instance

theorem onward_of_itemStart {c d : Cursor} {item : Reading Unit}
    (h : (itemStart rules).run c = .ok (item, d)) : Onward item := by
  unfold itemStart at h
  obtain ⟨_, e, -, h⟩ := run_bind_ok_iff.mp h
  rw [run_from] at h
  split at h
  · obtain ⟨rfl, -⟩ := Prod.mk.inj (Except.ok.inj h)
    exact onward_of_itemOf? rules ‹_›
  · exact absurd h run_ne_ok

instance onward_statement : Onward (statement rules) := by
  unfold statement
  refine onward_seq fun _ => onward_seq fun start => ?_
  split
  · infer_instance
  refine onward_from fun c => ?_
  split
  · infer_instance
  refine onward_bind_run fun hrun => ?_
  split
  · have := onward_of_itemStart rules (run_attempt_some hrun)
    infer_instance
  · refine onward_seq fun shape => onward_seq fun _ => ?_
    split
    · infer_instance
    · split <;> infer_instance

instance onward_statementsWithin (limit : Nat) : Onward (statementsWithin rules limit) := by
  induction limit with
  | zero => exact onward_pure ()
  | succ limit ih =>
    unfold statementsWithin
    dsimp only
    infer_instance

instance onward_statementsRule : Onward (Grammar.statements rules) := by
  unfold Grammar.statements
  infer_instance

/-! ## The grammar -/

instance onward_none : Rules.none.Onward := by
  unfold Rules.none
  constructor
  all_goals infer_instance

instance onward_deeper : rules.deeper.Onward where
  type_onward plus := onward_typeRule rules plus
  bound_onward capturing := onward_boundRule rules capturing
  expr_onward struct := onward_exprRule rules struct
  unary_onward struct := onward_unaryRule rules struct
  early_onward := onward_earlyRule rules
  climb_onward struct base shape := onward_climbRule rules struct base shape
  pattern_onward := onward_patternRule rules
  statements_onward := onward_statementsRule rules

end FieldAtlas.Source.Grammar
