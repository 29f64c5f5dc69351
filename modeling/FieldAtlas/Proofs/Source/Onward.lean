import FieldAtlas.Proofs.Source.Paths

/-!
# What readings leave

A reading leaves an end of the tokens that it is given, so that no token comes up that was not there
before.
-/

namespace FieldAtlas.Source

/-- A reading that leaves an end of the tokens in front of it. -/
class Onward {α : Type} (r : Reading α) : Prop extends Forward r where
  suffix : ∀ {c a d}, r.run c = .ok (a, d) → d.rest <:+ c.rest

namespace Reading

variable {α β : Type}

theorem onward_of {r : Reading α} (h : ∀ {c a d}, r.run c = .ok (a, d) →
    d.rest <:+ c.rest ∧ (c.stray.isSome = true → d.stray.isSome = true)) : Onward r where
  out hrun := ⟨(h hrun).1.length_le, (h hrun).2⟩
  suffix hrun := (h hrun).1

instance onward_of_fails {r : Reading α} [Fails r] : Onward r where
  suffix h := absurd h run_ne_ok

instance onward_pure (a : α) : Onward (pure a : Reading α) where
  suffix h := by
    obtain ⟨-, rfl⟩ := Prod.mk.inj (Except.ok.inj h)
    exact List.suffix_rfl

instance onward_bind {r : Reading α} {f : α → Reading β} [hr : Onward r] [hf : ∀ a, Onward (f a)] :
    Onward (r >>= f) where
  suffix h := by
    obtain ⟨a, d, hfirst, h⟩ := run_bind_ok_iff.mp h
    exact ((hf a).suffix h).trans (hr.suffix hfirst)

theorem onward_from {f : Cursor → Reading β} (h : ∀ c, Onward (f c)) : Onward (get >>= f) where
  toForward := forward_from fun c => (h c).toForward
  suffix hrun := (h _).suffix hrun

theorem onward_seq {r : Reading α} {f : α → Reading β} [Onward r] (h : ∀ a, Onward (f a)) :
    Onward (r >>= f) := onward_bind

theorem onward_bind_run {r : Reading α} {f : α → Reading β} [hr : Onward r]
    (hf : ∀ {c a d}, r.run c = .ok (a, d) → Onward (f a)) : Onward (r >>= f) :=
  onward_of fun h => by
    obtain ⟨a, d, hfirst, h⟩ := run_bind_ok_iff.mp h
    have hsecond := hf hfirst
    exact ⟨(hsecond.suffix h).trans (hr.suffix hfirst),
      fun hstray => (hsecond.out h).2 ((hr.out hfirst).2 hstray)⟩

instance onward_get : Onward (get : Reading Cursor) where
  suffix h := by
    obtain ⟨-, rfl⟩ := Prod.mk.inj (Except.ok.inj h)
    exact List.suffix_rfl

instance onward_map {r : Reading α} {f : α → β} [hr : Onward r] : Onward (f <$> r) := by
  rw [map_eq_pure_bind]
  exact onward_bind

instance onward_discard {r : Reading α} [Onward r] : Onward (discard r) := onward_map

instance onward_ite {p : Prop} [Decidable p] {r s : Reading α} [Onward r] [Onward s] :
    Onward (if p then r else s) := by
  split <;> infer_instance

/-! ## Single tokens -/

instance onward_take (count : Nat) : Onward (take count) where
  suffix h := by
    obtain ⟨-, rfl⟩ := Prod.mk.inj (Except.ok.inj h)
    exact List.drop_suffix _ _

instance onward_write (t : Token) : Onward (write t) :=
  onward_of fun h => by
    obtain ⟨-, rfl⟩ := Prod.mk.inj (Except.ok.inj h)
    exact ⟨List.suffix_rfl, id⟩

instance onward_writeAll (ts : List Token) : Onward (writeAll ts) where
  suffix h := by
    obtain ⟨-, rfl⟩ := Prod.mk.inj (Except.ok.inj h)
    exact List.suffix_rfl

instance onward_punct (text : String) : Onward (punct text) := by
  unfold punct
  infer_instance

instance onward_punct? (text : String) : Onward (punct? text) := by
  unfold punct?
  infer_instance

instance onward_word (name : String) : Onward (word name) := by
  unfold word
  infer_instance

instance onward_word? (name : String) : Onward (word? name) := by
  unfold word?
  infer_instance

instance onward_anyWord : Onward anyWord := by
  unfold anyWord
  refine onward_from fun c => ?_
  split <;> infer_instance

instance onward_name : Onward name := by
  unfold name
  refine onward_from fun c => ?_
  split <;> infer_instance

instance onward_lifetime : Onward lifetime := by
  unfold lifetime
  infer_instance

instance onward_anything : Onward anything := by
  unfold anything
  infer_instance

/-! ## Parts and lists -/

instance onward_written {r : Reading α} [hr : Onward r] : Onward (written r) where
  suffix h := by
    obtain ⟨e, hrun, -, rfl⟩ := run_written_ok_iff.mp h
    have := hr.suffix hrun
    exact this

instance onward_group {d : Delimiter} {r : Reading α} [Forward r] : Onward (group d r) where
  suffix h := by
    obtain ⟨opened, inner, closed, rest, i, hc, -, rfl⟩ := run_group_ok_iff.mp h
    rw [hc]
    exact List.suffix_cons _ _

theorem run_attempt_ok_iff {r : Reading α} {x : Option α} {c d : Cursor} :
    (attempt r).run c = .ok (x, d) ↔ (∃ a, r.run c = .ok (a, d) ∧ x = some a) ∨
      (∃ f, r.run c = .error f) ∧ x = none ∧ d = c := by
  constructor
  · intro h
    unfold attempt at h
    rw [run_from] at h
    split at h
    · rename_i a e hrun
      obtain ⟨rfl, rfl⟩ := Prod.mk.inj (Except.ok.inj h)
      exact .inl ⟨a, hrun, rfl⟩
    · rename_i f hrun
      obtain ⟨rfl, rfl⟩ := Prod.mk.inj (Except.ok.inj h)
      exact .inr ⟨⟨f, hrun⟩, rfl, rfl⟩
  · rintro (⟨a, hrun, rfl⟩ | ⟨⟨f, hrun⟩, rfl, rfl⟩)
    · refine run_bind_ok_iff.mpr ⟨c, c, rfl, ?_⟩
      rw [hrun]
      rfl
    · refine run_bind_ok_iff.mpr ⟨d, d, rfl, ?_⟩
      rw [hrun]
      rfl

theorem run_attempt_some {r : Reading α} {a : α} {c d : Cursor}
    (h : (attempt r).run c = .ok (some a, d)) : r.run c = .ok (a, d) := by
  rcases run_attempt_ok_iff.mp h with ⟨a', hrun, ha⟩ | ⟨-, ha, -⟩
  · cases ha
    exact hrun
  · cases ha

instance onward_attempt {r : Reading α} [hr : Onward r] : Onward (attempt r) :=
  onward_of fun h => by
    rcases run_attempt_ok_iff.mp h with ⟨a, hrun, -⟩ | ⟨-, -, rfl⟩
    · exact ⟨hr.suffix hrun, (hr.out hrun).2⟩
    · exact ⟨List.suffix_rfl, id⟩

instance onward_separatedWithin {stop : Cursor → Bool} {separator : Reading Unit}
    {item : Reading α} [Onward separator] [Onward item] (limit : Nat) :
    Onward (separatedWithin stop separator item limit) := by
  induction limit with
  | zero => exact onward_pure []
  | succ limit ih =>
    unfold separatedWithin
    infer_instance

instance onward_separated {stop : Cursor → Bool} {separator : Reading Unit} {item : Reading α}
    [Onward separator] [Onward item] : Onward (separated stop separator item) := by
  unfold separated
  infer_instance

instance onward_commaList {item : Reading α} [Onward item] : Onward (commaList item) := by
  unfold commaList
  infer_instance

instance onward_repeatWithin {more : Cursor → Bool} {item : Reading α} [Onward item]
    (limit : Nat) : Onward (repeatWithin more item limit) := by
  induction limit with
  | zero => exact onward_pure []
  | succ limit ih =>
    unfold repeatWithin
    infer_instance

instance onward_repeatWhile {more : Cursor → Bool} {item : Reading α} [Onward item] :
    Onward (repeatWhile more item) := by
  unfold repeatWhile
  infer_instance

instance onward_sumWithin {stop : Cursor → Bool} {item : Reading α} [Onward item] (limit : Nat) :
    Onward (sumWithin stop item limit) := by
  induction limit with
  | zero => exact onward_pure []
  | succ limit ih =>
    unfold sumWithin
    infer_instance

instance onward_sum {stop : Cursor → Bool} {item : Reading α} [Onward item] :
    Onward (sum stop item) := by
  unfold sum
  infer_instance

end Reading

namespace Grammar

open Reading

/-- Rules that leave an end of the tokens in front of them. -/
class Rules.Onward (rules : Rules) : Prop where
  type_onward : ∀ plus, Source.Onward (rules.type plus)
  bound_onward : ∀ capturing, Source.Onward (rules.bound capturing)
  expr_onward : ∀ struct, Source.Onward (rules.expr struct)
  unary_onward : ∀ struct, Source.Onward (rules.unary struct)
  early_onward : Source.Onward rules.early
  climb_onward : ∀ struct base shape, Source.Onward (rules.climb struct base shape)
  pattern_onward : Source.Onward rules.pattern
  statements_onward : Source.Onward rules.statements

variable (rules : Rules) [hrules : rules.Onward]

instance onward_type (plus : Bool) : Onward (rules.type plus) := hrules.type_onward plus

instance onward_bound (capturing : Bool) : Onward (rules.bound capturing) :=
  hrules.bound_onward capturing

instance onward_expr (struct : Bool) : Onward (rules.expr struct) := hrules.expr_onward struct

instance onward_unary (struct : Bool) : Onward (rules.unary struct) := hrules.unary_onward struct

instance onward_early : Onward rules.early := hrules.early_onward

instance onward_climb (struct : Bool) (base : Precedence) (shape : Shape) :
    Onward (rules.climb struct base shape) := hrules.climb_onward struct base shape

instance onward_pattern : Onward rules.pattern := hrules.pattern_onward

instance onward_statements : Onward rules.statements := hrules.statements_onward

end Grammar

end FieldAtlas.Source
