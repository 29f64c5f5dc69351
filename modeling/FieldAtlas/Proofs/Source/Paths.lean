import FieldAtlas.Proofs.Source.Steady
import FieldAtlas.Source.Grammar.Path

/-!
# Steady paths

A path is read alike whatever stands behind a comma if the types in it are.
-/

namespace FieldAtlas.Source

open Cursor

instance mark_less : Mark "<" := ⟨by decide, by decide⟩

instance mark_lessEqual : Mark "<=" := ⟨by decide, by decide⟩

instance mark_greater : Mark ">" := ⟨by decide, by decide⟩

instance mark_plus : Mark "+" := ⟨by decide, by decide⟩

instance mark_colon : Mark ":" := ⟨by decide, by decide⟩

namespace Reading

variable {F : Frame} {c c' : Cursor} {α : Type}

instance forward_discard {r : Reading α} [Forward r] : Forward (discard r) := forward_map

instance forward_word (name : String) : Forward (word name) := by
  unfold word
  infer_instance

instance forward_word? (name : String) : Forward (word? name) := by
  unfold word?
  infer_instance

instance forward_name : Forward name := by
  unfold name
  refine forward_from fun c => ?_
  split <;> infer_instance

instance forward_lifetime : Forward lifetime := by
  unfold lifetime
  infer_instance

instance forward_writeAll (ts : List Token) : Forward (writeAll ts) where
  out h := by
    obtain ⟨-, rfl⟩ := Prod.mk.inj (Except.ok.inj h)
    exact ⟨Nat.le_refl _, id⟩

section

variable [hnear : Near F c c']

theorem steady_discard {R : α → α → Prop} {r r' : Reading α} (hr : SteadyAt F c c' R r r') :
    SteadyAt F c c' Eq (discard r) (discard r') :=
  steady_map hr fun _ _ _ => rfl

instance steady_discard_eq {r r' : Reading α} [hr : SteadyAt F c c' Eq r r'] :
    SteadyAt F c c' Eq (discard r) (discard r') := steady_discard hr

instance steady_word (name : String) : SteadyAt F c c' Eq (word name) (word name) := by
  unfold word
  refine steady_from (steady_ite_of (fun h => ?_) inferInstance)
  have := ahead_of_atWord h
  infer_instance

instance steady_word? (name : String) : SteadyAt F c c' Eq (word? name) (word? name) := by
  unfold word?
  refine steady_from (steady_ite_of (fun h => ?_) inferInstance)
  have := ahead_of_atWord h
  infer_instance

theorem steady_name : SteadyAt F c c' (fun w w' => w.2 = w'.2) name name := by
  unfold name
  refine steady_from ?_
  split
  · rename_i hc
    obtain ⟨ts, us, u, halike, -, hc'⟩ := front_alike hnear hc rfl
    cases halike with
    | word _ =>
      simp only [hc']
      split
      · exact steady_of_fails
      · exact steady_anyWord
  · exact steady_of_fails

instance steady_discard_name : SteadyAt F c c' Eq (discard name) (discard name) :=
  steady_discard steady_name

instance steady_lifetime : SteadyAt F c c' Eq lifetime lifetime := by
  unfold lifetime
  refine steady_from (steady_ite_of (fun h => ?_) inferInstance)
  exact steady_take (length_of_atLifetime hnear h)

instance steady_of_steady {r : Reading α} [hr : Steady r] : SteadyAt F c c' Eq r r :=
  hr.at_near F c c'

theorem steady_writeAll {ts us : List Token} (h : Alike false ts us) :
    SteadyAt F c c' Eq (writeAll ts) (writeAll us) where
  out hrun := by
    obtain ⟨-, rfl⟩ := Prod.mk.inj (Except.ok.inj hrun)
    obtain ⟨vs, ws, htaken, htaken', hbefore⟩ := hnear.taken
    refine .inr ⟨(), _, rfl, rfl, hnear.rest, ⟨ts.reverse ++ vs, us.reverse ++ ws, ?_, ?_,
      h.reverse.append hbefore⟩, hnear.stray⟩
    · simp [htaken]
    · simp [htaken']

end

end Reading

/-! ## Readings up to what stands behind -/

namespace Reading

variable {F : Frame} {c c' : Cursor} {α β : Type} {R : α → α → Prop} {S : β → β → Prop}

/-- The first reading may also stop in front of what stands behind, where the second one would not
have. -/
structure SteadyUpTo (F : Frame) (c c' : Cursor) (R : α → α → Prop) (r r' : Reading α) : Prop where
  out : ∀ {a d}, r.run c = .ok (a, d) →
    F.Over d ∨ d.rest = F.behind ∨ ∃ a' d', r'.run c' = .ok (a', d') ∧ R a a' ∧ Near F d d'

namespace SteadyUpTo

theorem bind {r r' : Reading α} {f f' : α → Reading β} [hnear : Near F c c']
    (hr : SteadyAt F c c' R r r')
    (hf : ∀ a a' d d', r.run c = .ok (a, d) → r'.run c' = .ok (a', d') → R a a' →
      [Near F d d'] → SteadyUpTo F d d' S (f a) (f' a'))
    (hforward : ∀ a, Forward (f a)) : SteadyUpTo F c c' S (r >>= f) (r' >>= f') where
  out {b e} h := by
    obtain ⟨a, d, hfirst, h⟩ := run_bind_ok_iff.mp h
    rcases hr.out hfirst with hover | ⟨a', d', hfirst', ha, hd⟩
    · exact .inl (Nat.lt_of_le_of_lt ((hforward a).out h).1 hover)
    refine ((hf a a' d d' hfirst hfirst' ha).out h).imp_right fun h => h.imp_right ?_
    rintro ⟨b', e', h', hb, he⟩
    exact ⟨b', e', run_bind_ok_iff.mpr ⟨a', d', hfirst', h'⟩, hb, he⟩

theorem of_steadyAt {r r' : Reading α} [hnear : Near F c c'] (h : SteadyAt F c c' R r r') :
    SteadyUpTo F c c' R r r' := ⟨fun hrun => (h.out hrun).imp_right .inr⟩

theorem map {r r' : Reading α} (h : SteadyUpTo F c c' R r r') {f f' : α → β}
    (hf : ∀ a a', R a a' → S (f a) (f' a')) : SteadyUpTo F c c' S (f <$> r) (f' <$> r') where
  out {b d} hmap := by
    obtain ⟨a, hrun, rfl⟩ := run_map_ok_iff.mp hmap
    refine (h.out hrun).imp_right fun h => h.imp_right ?_
    rintro ⟨a', d', hrun', ha, hd⟩
    exact ⟨f' a', d', run_map_ok_iff.mpr ⟨a', hrun', rfl⟩, hf a a' ha, hd⟩

theorem ite {p p' : Bool} (hp : Same p p') {r r' s s' : Reading α} (hr : SteadyUpTo F c c' R r r')
    (hs : SteadyUpTo F c c' R s s') :
    SteadyUpTo F c c' R (if p = true then r else s) (if p' = true then r' else s') := by
  obtain rfl := hp.eq
  by_cases h : p = true
  · rwa [if_pos h, if_pos h]
  · rwa [if_neg h, if_neg h]

theorem get {f f' : Cursor → Reading β} (h : SteadyUpTo F c c' S (f c) (f' c')) :
    SteadyUpTo F c c' S (MonadState.get >>= f) (MonadState.get >>= f') := ⟨h.out⟩

theorem written [hnear : Near F c c'] {r r' : Reading α}
    (hr : ∀ (F : Frame) (c c' : Cursor) [Near F c c'], SteadyUpTo F c c' R r r') :
    SteadyUpTo F c c' (fun a a' => R a.1 a'.1 ∧ Alike false a.2 a'.2) (Reading.written r)
      (Reading.written r') where
  out {a d} h := by
    obtain ⟨e, hrun, hts, rfl⟩ := run_written_ok_iff.mp h
    have hstart : Near F.fresh { c with taken := [] } { c' with taken := [] } := near_fresh
    refine ((hr F.fresh _ { c' with taken := [] }).out hrun).imp_right fun h => h.imp_right ?_
    rintro ⟨a', e', hrun', ha, he⟩
    exact ⟨(a', e'.taken.reverse), _, run_written_ok_iff.mpr ⟨e', hrun', rfl, rfl⟩,
      ⟨ha, hts ▸ alike_of_fresh he⟩, near_of_fresh he⟩

theorem bind_steady {r r' : Reading α} {f f' : α → Reading β} [hnear : Near F c c']
    (hr : SteadyUpTo F c c' R r r')
    (hf : ∀ a a' d d', r.run c = .ok (a, d) → r'.run c' = .ok (a', d') → R a a' →
      [Near F d d'] → SteadyAt F d d' S (f a) (f' a'))
    (hforward : ∀ a, Forward (f a))
    (hbehind : ∀ a d b e, d.rest = F.behind → (f a).run d = .ok (b, e) → F.Over e) :
    SteadyAt F c c' S (r >>= f) (r' >>= f') where
  out {b e} h := by
    obtain ⟨a, d, hfirst, h⟩ := run_bind_ok_iff.mp h
    rcases hr.out hfirst with hover | hd | ⟨a', d', hfirst', ha, hd⟩
    · exact .inl (Nat.lt_of_le_of_lt ((hforward a).out h).1 hover)
    · exact .inl (hbehind a d b e hd h)
    rcases (hf a a' d d' hfirst hfirst' ha).out h with hover | ⟨b', e', h', hb, he⟩
    · exact .inl hover
    · exact .inr ⟨b', e', run_bind_ok_iff.mpr ⟨a', d', hfirst', h'⟩, hb, he⟩

end SteadyUpTo

theorem run_punct?_ok_iff {text : String} {b : Bool} {d : Cursor} :
    (punct? text).run c = .ok (b, d) ↔
      b = c.atPunct text ∧ d = if b then c.advance text.length else c := by
  unfold punct?
  constructor
  · intro h
    rw [run_from] at h
    split at h
    · rename_i htext
      obtain ⟨rfl, rfl⟩ := Prod.mk.inj (Except.ok.inj h)
      exact ⟨htext.symm, rfl⟩
    · rename_i htext
      obtain ⟨rfl, rfl⟩ := Prod.mk.inj (Except.ok.inj h)
      exact ⟨(Bool.eq_false_iff.mpr htext).symm, rfl⟩
  · rintro ⟨rfl, rfl⟩
    refine run_bind_ok_iff.mpr ⟨c, c, rfl, ?_⟩
    cases c.atPunct text <;> rfl

theorem length_lt_of_punct? {text : String} {d : Cursor} [hmark : Mark text]
    (h : (punct? text).run c = .ok (true, d)) : d.rest.length < c.rest.length := by
  obtain ⟨htext, rfl⟩ := run_punct?_ok_iff.mp h
  have hlength := Cursor.length_le_of_startsWith htext.symm
  have hpos := List.length_pos_iff.mpr hmark.filled
  simp only [if_true, Cursor.advance, List.length_drop]
  rw [String.length_toList] at hlength hpos
  omega

instance progress_written {r : Reading α} [hr : Progress r] : Progress (written r) where
  out h := by
    obtain ⟨e, hrun, -, rfl⟩ := run_written_ok_iff.mp h
    have := hr.out hrun
    exact this

theorem progress_first {r : Reading α} {f : α → Reading β} (hr : Progress r)
    [hf : ∀ a, Forward (f a)] : Progress (r >>= f) where
  out h := by
    obtain ⟨a, d, hfirst, h⟩ := run_bind_ok_iff.mp h
    exact Nat.lt_of_le_of_lt ((hf a).out h).1 (hr.out hfirst)

theorem same_atComma [hnear : Near F c c'] (h : c.rest ≠ F.behind) :
    Same (c.atPunct ",") (c'.atPunct ",") where
  eq := by
    obtain ⟨ts, us, hc, hc', halike⟩ := hnear.rest
    rw [Cursor.atPunct, Cursor.atPunct, hc, hc']
    cases halike with
    | nil => exact absurd hc h
    | _ => rfl

end Reading

namespace Grammar

open Reading

/-- Rules for what stands in a path. -/
class Rules.SteadyArguments (rules : Rules) : Prop where
  type : ∀ plus, Steady (rules.type plus)
  bound : ∀ capturing, Steady (rules.bound capturing)
  /-- There is no bound where nothing or a comma comes. -/
  bound_ends : ∀ capturing (c : Cursor) a d, Ends c.rest →
    (rules.bound capturing).run c ≠ .ok (a, d)
  statements : SteadyInside rules.statements
  forward_statements : Forward rules.statements

section

variable (rules : Rules) [hrules : rules.SteadyArguments]

instance steady_type (plus : Bool) : Steady (rules.type plus) := hrules.type plus

instance steady_bound (capturing : Bool) : Steady (rules.bound capturing) := hrules.bound capturing

instance forward_statements : Forward rules.statements := hrules.forward_statements

instance forward_block : Forward (block rules) := by
  unfold block
  infer_instance

instance forward_constant : Forward (constant rules) := by
  unfold constant
  refine forward_from fun c => ?_
  split <;> infer_instance

instance forward_sumWithin {α : Type} {stop : Cursor → Bool} {item : Reading α} [Forward item]
    (limit : Nat) : Forward (sumWithin stop item limit) := by
  induction limit with
  | zero => exact forward_pure []
  | succ limit ih =>
    unfold sumWithin
    infer_instance

instance forward_sum {α : Type} {stop : Cursor → Bool} {item : Reading α} [Forward item] :
    Forward (sum stop item) := by
  unfold sum
  infer_instance

/-- What follows the type of an argument. -/
def afterType : Shape → Reading Bool
  | .name => do
    if ← punct? "=" then
      if startsConstant (← get) then constant rules else discard (rules.type true)
    else if ← punct? ":" then
      discard (sum (fun c => c.atAny [",", ">"]) (rules.bound false))
    return false
  | _ => return false

omit hrules in
theorem argument_eq : argument rules = (do
    let c ← get
    if c.atLifetime && !c.next.atPunct "+" then
      lifetime
      return true
    else if startsConstant c then
      constant rules
      return false
    else afterType rules (← rules.type true)) := by
  unfold argument
  refine bind_congr fun c => ?_
  split
  · rfl
  split
  · rfl
  refine bind_congr fun shape => ?_
  cases shape <;> rfl

instance forward_afterType (shape : Shape) : Forward (afterType rules shape) := by
  cases shape <;> unfold afterType <;> dsimp only <;> infer_instance

instance forward_argument : Forward (argument rules) := by
  rw [argument_eq]
  infer_instance

instance forward_argumentsWithin (limit : Nat) : Forward (argumentsWithin rules limit) := by
  induction limit with
  | zero => exact forward_pure []
  | succ limit ih =>
    unfold argumentsWithin
    infer_instance

instance forward_arguments : Forward (arguments rules) := by
  unfold arguments
  infer_instance

/-- What follows a name of a path. -/
def segmentEnd (inExpr : Bool) (w : String) : Reading Segment := do
  let c ← get
  if (!inExpr && c.atPunct "<" && !c.atPunct "<=") ||
      (c.atPunct "::" && c.next.next.atPunct "<") then
    discard (punct? "::")
    arguments rules
    return ⟨w, true⟩
  else return ⟨w, false⟩

omit hrules in
theorem segment_eq (inExpr : Bool) : segment rules inExpr = (do
    let c ← get
    if ["super", "self", "crate", "try"].any c.atWord then
      return ⟨(← anyWord).2, false⟩
    else if c.atWord "Self" then segmentEnd rules inExpr (← anyWord).2
    else segmentEnd rules inExpr (← name).2) := rfl

instance forward_segmentEnd (inExpr : Bool) (w : String) : Forward (segmentEnd rules inExpr w) := by
  unfold segmentEnd
  infer_instance

instance forward_segment (inExpr : Bool) : Forward (segment rules inExpr) := by
  rw [segment_eq]
  infer_instance

instance forward_moreSegments (inExpr : Bool) : Forward (moreSegments rules inExpr) := by
  unfold moreSegments
  infer_instance

instance forward_path (inExpr : Bool) : Forward (path rules inExpr) := by
  unfold path
  infer_instance

section

variable {F : Frame} {c c' : Cursor} [hnear : Near F c c']

instance steady_block : SteadyAt F c c' Eq (block rules) (block rules) := by
  have := hrules.statements
  unfold block
  infer_instance

instance steady_constant : SteadyAt F c c' Eq (constant rules) (constant rules) := by
  unfold constant
  refine steady_from ?_
  rcases literal?_cases c c' with ⟨h, h'⟩ | ⟨l, rest, rest', h, h', hlength, hcount⟩
  · simp only [h, h']
    infer_instance
  · simp only [h, h', hcount]
    exact steady_take hlength

/-- Bounds end in front of a comma, or in front of nothing, where there is one missing. -/
theorem steadyUpTo_bounds {limit limit' : Nat} (h : c.rest.length < limit)
    (h' : c'.rest.length < limit') : SteadyUpTo F c c' Eq
      (sumWithin (fun c => c.atAny [",", ">"]) (rules.bound false) limit)
      (sumWithin (fun c => c.atAny [",", ">"]) (rules.bound false) limit') := by
  induction limit generalizing limit' c c' with
  | zero => cases h
  | succ limit ih =>
  cases limit' with
  | zero => cases h'
  | succ limit' =>
  by_cases hfront : c.rest = F.behind
  · refine ⟨fun {as d} hrun => ?_⟩
    rw [sumWithin, run_from] at hrun
    split at hrun
    · obtain ⟨-, rfl⟩ := Prod.mk.inj (Except.ok.inj hrun)
      exact .inr (.inl hfront)
    · obtain ⟨a, e, hbound, -⟩ := run_bind_ok_iff.mp hrun
      exact absurd hbound (hrules.bound_ends _ _ _ _ (by rw [hfront]; exact F.ends))
  · have hcomma : Same (c.atPunct ",") (c'.atPunct ",") := same_atComma hfront
    have hstop : Same (c.atAny [",", ">"]) (c'.atAny [",", ">"]) := by
      unfold Cursor.atAny
      simp only [List.any_cons, List.any_nil]
      infer_instance
    unfold sumWithin
    refine .get (.ite hstop (.of_steadyAt inferInstance) ?_)
    refine .bind ((hrules.bound false).at_near F c c') (fun a _ d d' hrun hrun' ha _ => ?_)
      fun _ => inferInstance
    subst ha
    refine .bind (steady_punct? "+") (fun b _ e e' hplus hplus' hb _ => ?_) fun _ => inferInstance
    subst hb
    cases b with
    | false => exact .of_steadyAt (inferInstanceAs (SteadyAt F e e' Eq (pure [a]) (pure [a])))
    | true =>
      have hlength : e.rest.length < limit := by
        have := (Forward.out hrun).1
        have := length_lt_of_punct? hplus
        omega
      have hlength' : e'.rest.length < limit' := by
        have := (Forward.out hrun').1
        have := length_lt_of_punct? hplus'
        omega
      simp only [if_true, bind_pure_comp]
      exact (ih hlength hlength').map fun _ _ h => h ▸ rfl

theorem steadyUpTo_sum : SteadyUpTo F c c' Eq
    (discard (sum (fun c => c.atAny [",", ">"]) (rules.bound false)))
    (discard (sum (fun c => c.atAny [",", ">"]) (rules.bound false))) := by
  have hbounds : SteadyUpTo F c c' Eq
      (sumWithin (fun c => c.atAny [",", ">"]) (rules.bound false) (c.rest.length + 1))
      (sumWithin (fun c => c.atAny [",", ">"]) (rules.bound false) (c'.rest.length + 1)) :=
    steadyUpTo_bounds rules (Nat.lt_succ_self _) (Nat.lt_succ_self _)
  unfold sum
  exact (SteadyUpTo.get hbounds).map fun _ _ _ => rfl

omit hrules in
instance same_startsConstant : Same (startsConstant c) (startsConstant c') := by
  unfold startsConstant
  infer_instance

theorem steadyUpTo_afterType (shape : Shape) :
    SteadyUpTo F c c' Eq (afterType rules shape) (afterType rules shape) := by
  cases shape with
  | name =>
    unfold afterType
    dsimp only
    refine .bind (steady_punct? "=") (fun b _ d d' _ _ hb _ => ?_) fun _ => inferInstance
    subst hb
    refine .ite (same_refl b) (.of_steadyAt inferInstance) ?_
    refine .bind (steady_punct? ":") (fun b _ e e' _ _ hb _ => ?_) fun _ => inferInstance
    subst hb
    refine .ite (same_refl b) ?_ (.of_steadyAt inferInstance)
    simp only [bind_pure_comp]
    exact (steadyUpTo_sum rules).map fun _ _ _ => rfl
  | _ => exact .of_steadyAt (steady_pure_eq false)

theorem steadyUpTo_argument : SteadyUpTo F c c' Eq (argument rules) (argument rules) := by
  rw [argument_eq]
  have hlifetime : Same (c.atLifetime && !c.next.atPunct "+")
      (c'.atLifetime && !c'.next.atPunct "+") := by
    refine same_and_of fun h => ?_
    have := ahead_of_atLifetime h
    infer_instance
  refine .get (.ite hlifetime (.of_steadyAt inferInstance) ?_)
  refine .ite inferInstance (.of_steadyAt inferInstance) ?_
  refine .bind ((hrules.type true).at_near F c c') (fun shape _ d d' _ _ hshape _ => ?_)
    fun _ => inferInstance
  exact hshape ▸ steadyUpTo_afterType rules shape

/-! ## Arguments between angles -/

structure Argument.Alike (a b : Argument) : Prop where
  tokens : Source.Alike false a.tokens b.tokens
  lifetime : a.lifetime = b.lifetime
  comma : Source.Alike false a.comma b.comma

omit hrules hnear in
theorem Argument.alike_joined {p q : Pos} {separated : Bool} {as bs : List Argument}
    (h : List.Forall₂ Argument.Alike as bs) :
    Source.Alike false (joined (.punct p ',' false) separated as)
      (joined (.punct q ',' false) separated bs) := by
  induction h generalizing separated with
  | nil => exact .nil
  | @cons a b as bs hab _ ih =>
    have hcomma : a.comma.isEmpty = b.comma.isEmpty := by
      have := hab.comma
      generalize a.comma = ts, b.comma = us at this
      cases this <;> rfl
    unfold joined
    rw [hab.lifetime, hcomma]
    refine (((?_ : Source.Alike false _ _).append hab.tokens).append hab.comma).append ih
    split
    · exact .nil
    · exact .punct nofun .nil

omit hrules hnear in
theorem Argument.alike_arranged {p q : Pos} {as bs : List Argument}
    (h : List.Forall₂ Argument.Alike as bs) :
    Source.Alike false (arranged p as) (arranged q bs) := by
  refine alike_joined (List.rel_append (List.rel_filter ?_ h) (List.rel_filter ?_ h))
  · exact fun _ _ hab => by simp only [hab.lifetime]
  · exact fun _ _ hab => by simp only [hab.lifetime]

theorem steady_argumentsWithin {limit limit' : Nat} (h : c.rest.length < limit)
    (h' : c'.rest.length < limit') : SteadyAt F c c' (List.Forall₂ Argument.Alike)
      (argumentsWithin rules limit) (argumentsWithin rules limit') := by
  induction limit generalizing limit' c c' with
  | zero => cases h
  | succ limit ih =>
  cases limit' with
  | zero => cases h'
  | succ limit' =>
  unfold argumentsWithin
  refine steady_from (steady_ite_of (fun _ => steady_pure .nil) ?_)
  refine SteadyUpTo.bind_steady (.written fun _ _ _ _ => steadyUpTo_argument rules) ?_
    (fun _ => inferInstance) ?_
  · rintro ⟨l, ts⟩ ⟨_, us⟩ d d' hrun hrun' ⟨rfl, hts⟩ _
    refine steady_from (steady_ite_of (fun _ => ?_) ?_)
    · exact steady_pure (.cons ⟨hts, rfl, .nil⟩ .nil)
    refine steady_bind_run (steady_written fun _ _ _ => steady_comma) ?_ fun _ => inferInstance
    rintro ⟨_, vs⟩ ⟨_, ws⟩ e e' hcomma hcomma' ⟨-, hvs⟩ _
    have := progress_comma
    have hlength : e.rest.length < limit := by
      have := (forward_written.out hrun).1
      have := progress_written.out hcomma
      omega
    have hlength' : e'.rest.length < limit' := by
      have := (forward_written.out hrun').1
      have := progress_written.out hcomma'
      omega
    exact steady_bind (ih hlength hlength')
      (fun _ _ _ _ has _ => steady_pure (.cons ⟨hts, rfl, hvs⟩ has)) fun _ => inferInstance
  · rintro ⟨l, ts⟩ d as e hd hrun
    rw [run_from] at hrun
    rw [atPunct_of_ends ">" (by rw [hd]; exact F.ends)] at hrun
    obtain ⟨_, i, hcomma, hrun⟩ := run_bind_ok_iff.mp hrun
    have := progress_comma
    have hlength := progress_written.out hcomma
    rw [hd] at hlength
    have hforward := forward_bind.out hrun
    exact Nat.lt_of_le_of_lt hforward.1 hlength

instance steady_arguments : SteadyAt F c c' Eq (arguments rules) (arguments rules) := by
  unfold arguments
  refine steady_bind (steady_punct "<") (fun _ _ d d' _ _ => ?_) fun _ => inferInstance
  refine steady_from ?_
  refine steady_bind (steady_argumentsWithin rules (Nat.lt_succ_self _) (Nat.lt_succ_self _))
    (fun as bs e e' h _ => ?_) fun _ => inferInstance
  exact steady_bind (steady_writeAll (Argument.alike_arranged h)) (fun _ _ _ _ _ _ => inferInstance)
    fun _ => inferInstance

/-! ## Names with arguments -/

omit hrules in
instance same_arguments : Same (c.atPunct "::" && c.next.next.atPunct "<")
    (c'.atPunct "::" && c'.next.next.atPunct "<") := by
  refine same_and_of fun h => ?_
  have : Near F c.next.next c'.next.next := near_next_next h
  infer_instance

instance steady_segmentEnd (inExpr : Bool) (w : String) :
    SteadyAt F c c' Eq (segmentEnd rules inExpr w) (segmentEnd rules inExpr w) := by
  unfold segmentEnd
  infer_instance

instance steady_segment (inExpr : Bool) :
    SteadyAt F c c' Eq (segment rules inExpr) (segment rules inExpr) := by
  rw [segment_eq]
  refine steady_from (steady_ite_of (fun _ => ?_) (steady_ite_of (fun _ => ?_) ?_))
  · exact steady_bind steady_anyWord (fun _ _ _ _ h _ => steady_pure (by rw [h]))
      fun _ => inferInstance
  · exact steady_bind steady_anyWord (fun _ _ _ _ h _ => h ▸ inferInstance) fun _ => inferInstance
  · exact steady_bind steady_name (fun _ _ _ _ h _ => h ▸ inferInstance) fun _ => inferInstance

omit hrules in
include hnear in
theorem same_goesOn : Same (c.atPunct "::" && !c.next.next.atGroup .parens)
    (c'.atPunct "::" && !c'.next.next.atGroup .parens) := by
  refine same_and_of fun h => ?_
  have : Near F c.next.next c'.next.next := near_next_next h
  infer_instance

instance steady_moreSegments (inExpr : Bool) :
    SteadyAt F c c' Eq (moreSegments rules inExpr) (moreSegments rules inExpr) := by
  have hprogress : Progress (do
      punct "::"
      segment rules inExpr) := progress_first (progress_punct (by decide))
  unfold moreSegments
  refine steady_mono (steady_repeatWhile (R := Eq) (fun _ _ _ => same_goesOn) fun _ _ _ => ?_) ?_
  · infer_instance
  · exact fun _ _ h => by rwa [List.forall₂_eq_eq_eq] at h

/-- A path does not look over a comma. -/
instance steady_path (inExpr : Bool) : Steady (path rules inExpr) where
  at_near F c c' _ := by
    unfold path
    infer_instance

end

end

end Grammar

end FieldAtlas.Source
