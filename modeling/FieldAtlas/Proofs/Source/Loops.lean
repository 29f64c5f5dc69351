import FieldAtlas.Proofs.Source.Onward
import FieldAtlas.Proofs.Source.Tests

/-!
# Steady loops

A loop whose rounds read something has rounds enough, wherever it ends. In front of all there is,
both cursors have the same number of rounds anyway.
-/

namespace FieldAtlas.Source.Reading

variable {F : Frame} {c c' : Cursor} {α β : Type} {R : α → α → Prop} {S : β → β → Prop}

theorem steady_then {r r' : Reading α} {f f' : α → Reading β} [Near F c c']
    [hr : SteadyAt F c c' Eq r r']
    (hf : ∀ a d d' [Near F d d'], SteadyAt F d d' S (f a) (f' a))
    (hforward : ∀ a, Forward (f a)) : SteadyAt F c c' S (r >>= f) (r' >>= f') :=
  steady_bind hr (fun a _ d d' h => h ▸ hf a d d') hforward

theorem steady_if {p : Prop} [Decidable p] {r r' s s' : Reading α} [Near F c c']
    (hr : SteadyAt F c c' R r r') (hs : SteadyAt F c c' R s s') :
    SteadyAt F c c' R (if p then r else s) (if p then r' else s') := by
  split
  · exact hr
  · exact hs

instance fails_bind {r : Reading α} {f : α → Reading β} [hr : Fails r] : Fails (r >>= f) where
  out c := by
    obtain ⟨e, he⟩ := hr.out c
    exact ⟨e, by rw [StateT.run_bind, he]; rfl⟩

/-! ## Readings that make progress -/

instance progress_mark (text : String) [hmark : Mark text] : Progress (punct text) :=
  progress_punct fun h => hmark.filled (List.eq_nil_of_length_eq_zero (by
    rwa [← String.length_toList] at h))

instance progress_bind {r : Reading α} {f : α → Reading β} [hr : Progress r]
    [∀ a, Forward (f a)] : Progress (r >>= f) := progress_first hr

instance progress_of_fails {r : Reading α} [Fails r] : Progress r := ⟨fun h => absurd h run_ne_ok⟩

instance (priority := low) progress_after {r : Reading α} {f : α → Reading β} [Forward r]
    [∀ a, Progress (f a)] : Progress (r >>= f) := progress_behind

instance progress_ite {p : Prop} [Decidable p] {r s : Reading α} [Progress r] [Progress s] :
    Progress (if p then r else s) := by
  split <;> infer_instance

instance progress_map {r : Reading α} {f : α → β} [hr : Progress r] : Progress (f <$> r) where
  out h := by
    obtain ⟨a, hrun, -⟩ := run_map_ok_iff.mp h
    exact hr.out hrun

instance progress_discard {r : Reading α} [Progress r] : Progress (discard r) := progress_map

instance progress_group {d : Delimiter} {r : Reading α} : Progress (group d r) where
  out h := by
    obtain ⟨opened, inner, closed, rest, i, hc, -, rfl⟩ := run_group_ok_iff.mp h
    simp [hc]

instance progress_word (name : String) : Progress (word name) where
  out {c a d} h := by
    unfold word at h
    rw [run_from] at h
    split at h
    · rename_i hword
      obtain ⟨-, rfl⟩ := Prod.mk.inj (Except.ok.inj h)
      obtain ⟨t, ts, ht, -⟩ := (ahead_of_atWord hword).out
      simp [Cursor.advance, ht]
    · exact absurd h run_ne_ok

theorem run_word?_ok_iff {name : String} {b : Bool} {d : Cursor} :
    (word? name).run c = .ok (b, d) ↔ b = c.atWord name ∧ d = if b then c.advance 1 else c := by
  unfold word?
  constructor
  · intro h
    rw [run_from] at h
    split at h
    · rename_i hname
      obtain ⟨rfl, rfl⟩ := Prod.mk.inj (Except.ok.inj h)
      exact ⟨hname.symm, rfl⟩
    · rename_i hname
      obtain ⟨rfl, rfl⟩ := Prod.mk.inj (Except.ok.inj h)
      exact ⟨(Bool.eq_false_iff.mpr hname).symm, rfl⟩
  · rintro ⟨rfl, rfl⟩
    refine run_bind_ok_iff.mpr ⟨c, c, rfl, ?_⟩
    cases c.atWord name <;> rfl

theorem length_lt_of_word? {name : String} {d : Cursor} (h : (word? name).run c = .ok (true, d)) :
    d.rest.length < c.rest.length := by
  obtain ⟨hname, rfl⟩ := run_word?_ok_iff.mp h
  obtain ⟨t, ts, ht, -⟩ := (ahead_of_atWord hname.symm).out
  simp [Cursor.advance, ht]

/-! ## Rounds -/

section

variable [hnear : Near F c c']

instance (priority := high) steady_bind_pair {r r' : Reading α} {f f' : α → Reading β}
    [hr : SteadyAt F c c' Eq r r'] [hf : ∀ a (x : F.Pair), SteadyAt F x.left x.right S (f a) (f' a)]
    [hforward : ∀ a, Forward (f a)] : SteadyAt F c c' S (r >>= f) (r' >>= f') :=
  steady_bind hr (fun a _ d d' h hd => h ▸ hf a ⟨d, d', hd⟩) hforward

instance (priority := high) steady_ite_take {p p' : Bool} [Decidable (p = true)]
    [Decidable (p' = true)] {f f' : Unit → Reading α} {s s' : Reading α} [hp : Same p p']
    [hguards : Guards p c] [hf : ∀ x : F.Pair, SteadyAt F x.left x.right R (f ()) (f' ())]
    [hforward : ∀ a, Forward (f a)] [hs : SteadyAt F c c' R s s'] :
    SteadyAt F c c' R (if p = true then take 1 >>= f else s)
      (if p' = true then take 1 >>= f' else s') := by
  refine steady_ite_of (fun hp => ?_) hs
  have := hguards.ahead hp
  exact steady_bind steady_take_one (fun _ _ d d' _ hd => hf ⟨d, d', hd⟩) hforward

instance (priority := high) steady_ite_take_last {p p' : Bool} [Decidable (p = true)]
    [Decidable (p' = true)] {s s' : Reading Unit} [hp : Same p p'] [hguards : Guards p c]
    [hs : SteadyAt F c c' Eq s s'] :
    SteadyAt F c c' Eq (if p = true then take 1 else s) (if p' = true then take 1 else s') :=
  steady_ite_of (fun hp => have := hguards.ahead hp; steady_take_one) hs

instance steady_of_inside [F.Closed] {r : Reading α} [hr : SteadyInside r] :
    SteadyAt F c c' Eq r r := hr.at_near F c c'

instance steady_group_at {d : Delimiter} {r : Reading α}
    [hr : ∀ x : Frame.inside.Pair, SteadyAt Frame.inside x.left x.right R r r] :
    SteadyAt F c c' R (group d r) (group d r) := steady_group fun e e' he => hr ⟨e, e', he⟩

instance steady_discard_of {r r' : Reading α} [hr : SteadyAt F c c' R r r'] :
    SteadyAt F c c' Eq (discard r) (discard r') := steady_discard hr

instance steady_written_of {r : Reading α}
    [hr : ∀ x : F.fresh.Pair, SteadyAt F.fresh x.left x.right R r r] :
    SteadyAt F c c' (fun a a' => R a.1 a'.1 ∧ Alike false a.2 a'.2) (written r) (written r) :=
  steady_written fun e e' he => hr ⟨e, e', he⟩

end

/-- Fewer tokens than these are left in front of the cursors. -/
class Below (n n' : outParam Nat) (c c' : Cursor) : Prop where
  left : c.rest.length < n
  right : c'.rest.length < n'

/-- Two cursors that are near each other, with fewer tokens than these in front. -/
structure Bounded (F : Frame) (n n' : Nat) extends F.Pair where
  below : Below n n' left right

instance Bounded.near_sides {n n' : Nat} (x : Bounded F n n') : Near F x.left x.right := x.near

instance Bounded.below_sides {n n' : Nat} (x : Bounded F n n') : Below n n' x.left x.right :=
  x.below

section

variable {n n' : Nat} {r r' : Reading α} {f f' : α → Reading β} [hnear : Near F c c']
  [hr : SteadyAt F c c' Eq r r']

-- Tried before the rule for pairs, which forgets how much is left.
instance (priority := 20000) steady_bind_below [hbelow : Below n n' c c'] [Forward r] [Forward r']
    [hf : ∀ a (x : Bounded F n n'), SteadyAt F x.left x.right S (f a) (f' a)]
    [hforward : ∀ a, Forward (f a)] : SteadyAt F c c' S (r >>= f) (r' >>= f') := by
  refine steady_bind_run hr ?_ hforward
  rintro a _ d d' hrun hrun' rfl hd
  exact hf a ⟨⟨d, d', hd⟩, Nat.lt_of_le_of_lt (Forward.out hrun).1 hbelow.left,
    Nat.lt_of_le_of_lt (Forward.out hrun').1 hbelow.right⟩

/-- A round that reads a token leaves rounds enough for what is left. -/
theorem steady_round [hprogress : Progress r] [hprogress' : Progress r']
    (h : c.rest.length < n + 1) (h' : c'.rest.length < n' + 1)
    (hf : ∀ a (x : Bounded F n n'), SteadyAt F x.left x.right S (f a) (f' a))
    (hforward : ∀ a, Forward (f a)) : SteadyAt F c c' S (r >>= f) (r' >>= f') := by
  refine steady_bind_run hr ?_ hforward
  rintro a _ d d' hrun hrun' rfl hd
  exact hf a ⟨⟨d, d', hd⟩, Nat.lt_of_lt_of_le (hprogress.out hrun) (Nat.le_of_lt_succ h),
    Nat.lt_of_lt_of_le (hprogress'.out hrun') (Nat.le_of_lt_succ h')⟩

end

section

variable {stop : Cursor → Bool} {item : Reading α} [Onward item]
  (hstop : ∀ (c c' : Cursor) [Near F c c'], Same (stop c) (stop c'))
  (hitem : ∀ (c c' : Cursor) [Near F c c'], SteadyAt F c c' R item item) [hnear : Near F c c']
include hstop hitem

theorem steady_separatedWithin {limit limit' : Nat} (h : c.rest.length < limit)
    (h' : c'.rest.length < limit') : SteadyAt F c c' (List.Forall₂ R)
      (separatedWithin stop (punct ",") item limit)
      (separatedWithin stop (punct ",") item limit') := by
  induction limit generalizing limit' c c' with
  | zero => cases h
  | succ limit ih =>
  cases limit' with
  | zero => cases h'
  | succ limit' =>
  unfold separatedWithin
  have := hstop c c'
  refine steady_from (steady_ite_of (fun _ => steady_pure .nil) ?_)
  refine steady_bind_run (hitem c c') (fun a a' d d' hrun hrun' ha _ => ?_) fun _ => inferInstance
  have hread := (Forward.out hrun).1
  have hread' := (Forward.out hrun').1
  have := hstop d d'
  refine steady_from (steady_ite_of (fun _ => steady_pure (.cons ha .nil)) ?_)
  have := progress_comma
  refine steady_round (Nat.lt_of_le_of_lt hread h) (Nat.lt_of_le_of_lt hread' h') (fun _ x => ?_)
    fun _ => inferInstance
  exact steady_bind (ih x.below.left x.below.right)
    (fun _ _ _ _ has _ => steady_pure (.cons ha has)) fun _ => inferInstance

theorem steady_sumWithin {limit limit' : Nat} (h : c.rest.length < limit)
    (h' : c'.rest.length < limit') : SteadyAt F c c' (List.Forall₂ R)
      (sumWithin stop item limit) (sumWithin stop item limit') := by
  induction limit generalizing limit' c c' with
  | zero => cases h
  | succ limit ih =>
  cases limit' with
  | zero => cases h'
  | succ limit' =>
  unfold sumWithin
  have := hstop c c'
  refine steady_from (steady_ite_of (fun _ => steady_pure .nil) ?_)
  refine steady_bind_run (hitem c c') (fun a a' d d' hrun hrun' ha _ => ?_) fun _ => inferInstance
  have hread := (Forward.out hrun).1
  have hread' := (Forward.out hrun').1
  refine steady_bind_run (steady_punct? "+") ?_ fun _ => inferInstance
  rintro (_ | _) _ e e' hplus hplus' rfl _
  · exact steady_pure (.cons ha .nil)
  · have hlength := length_lt_of_punct? hplus
    have hlength' := length_lt_of_punct? hplus'
    exact steady_bind (ih (by omega) (by omega))
      (fun _ _ _ _ has _ => steady_pure (.cons ha has)) fun _ => inferInstance

end

section

variable {more stop : Cursor → Bool} {item : Reading α} [Onward item] [hnear : Near F c c']

instance (priority := low) steady_separated
    [hstop : ∀ x : F.Pair, Same (stop x.left) (stop x.right)]
    [hitem : ∀ x : F.Pair, SteadyAt F x.left x.right R item item] :
    SteadyAt F c c' (List.Forall₂ R) (separated stop (punct ",") item)
      (separated stop (punct ",") item) := by
  unfold separated
  exact steady_from (steady_separatedWithin (fun e e' he => hstop ⟨e, e', he⟩)
    (fun e e' he => hitem ⟨e, e', he⟩) (Nat.lt_succ_self _) (Nat.lt_succ_self _))

instance (priority := low) steady_sum [hstop : ∀ x : F.Pair, Same (stop x.left) (stop x.right)]
    [hitem : ∀ x : F.Pair, SteadyAt F x.left x.right R item item] :
    SteadyAt F c c' (List.Forall₂ R) (sum stop item) (sum stop item) := by
  unfold sum
  exact steady_from (steady_sumWithin (fun e e' he => hstop ⟨e, e', he⟩)
    (fun e e' he => hitem ⟨e, e', he⟩) (Nat.lt_succ_self _) (Nat.lt_succ_self _))

instance (priority := low) steady_commaList [F.Closed]
    [hitem : ∀ x : F.Pair, SteadyAt F x.left x.right R item item] :
    SteadyAt F c c' (List.Forall₂ R) (commaList item) (commaList item) := by
  unfold commaList
  exact steady_separated

instance (priority := low) steady_repeat [hprogress : Progress item]
    [hmore : ∀ x : F.Pair, Same (more x.left) (more x.right)]
    [hitem : ∀ x : F.Pair, SteadyAt F x.left x.right R item item] :
    SteadyAt F c c' (List.Forall₂ R) (repeatWhile more item) (repeatWhile more item) :=
  steady_repeatWhile (fun e e' he => hmore ⟨e, e', he⟩) fun e e' he => hitem ⟨e, e', he⟩

theorem steady_list_eq {r : Reading (List α)} (h : SteadyAt F c c' (List.Forall₂ Eq) r r) :
    SteadyAt F c c' Eq r r := steady_mono h fun _ _ h => by rwa [List.forall₂_eq_eq_eq] at h

instance steady_separated_eq [hstop : ∀ x : F.Pair, Same (stop x.left) (stop x.right)]
    [hitem : ∀ x : F.Pair, SteadyAt F x.left x.right Eq item item] :
    SteadyAt F c c' Eq (separated stop (punct ",") item) (separated stop (punct ",") item) :=
  steady_list_eq steady_separated

instance steady_sum_eq [hstop : ∀ x : F.Pair, Same (stop x.left) (stop x.right)]
    [hitem : ∀ x : F.Pair, SteadyAt F x.left x.right Eq item item] :
    SteadyAt F c c' Eq (sum stop item) (sum stop item) := steady_list_eq steady_sum

instance steady_commaList_eq [F.Closed]
    [hitem : ∀ x : F.Pair, SteadyAt F x.left x.right Eq item item] :
    SteadyAt F c c' Eq (commaList item) (commaList item) := steady_list_eq steady_commaList

instance steady_repeat_eq [hprogress : Progress item]
    [hmore : ∀ x : F.Pair, Same (more x.left) (more x.right)]
    [hitem : ∀ x : F.Pair, SteadyAt F x.left x.right Eq item item] :
    SteadyAt F c c' Eq (repeatWhile more item) (repeatWhile more item) :=
  steady_list_eq steady_repeat

end

/-! ## Single tokens -/

section

variable [hnear : Near F c c']

theorem near_write {t t' : Token} (h : Alike false [t] [t']) :
    Near F { c with taken := t :: c.taken } { c' with taken := t' :: c'.taken } := by
  obtain ⟨ts, us, htaken, htaken', hbefore⟩ := hnear.taken
  refine ⟨hnear.rest, ⟨t :: ts, t' :: us, ?_, ?_, h.append hbefore⟩, hnear.stray⟩
  · simp [htaken]
  · simp [htaken']

theorem steady_write {t t' : Token} (h : Alike false [t] [t']) :
    SteadyAt F c c' Eq (write t) (write t') where
  out hrun := by
    obtain ⟨-, rfl⟩ := Prod.mk.inj (Except.ok.inj hrun)
    exact .inr ⟨(), _, rfl, rfl, near_write h⟩

instance steady_skip [hahead : Ahead c] :
    SteadyAt F c c' Eq (discard (written (take 1))) (discard (written (take 1))) where
  out {a d} hrun := by
    obtain ⟨x, hrun, -⟩ := run_map_ok_iff.mp hrun
    obtain ⟨e, htake, -, rfl⟩ := run_written_ok_iff.mp hrun
    obtain ⟨-, rfl⟩ := Prod.mk.inj (Except.ok.inj htake)
    exact .inr ⟨(), { c' with rest := c'.rest.drop 1 }, rfl, rfl,
      near_drop (length_of_ahead hnear)⟩

end

section

variable [hnear : Near F c c'] [hclosed : F.Closed]
include hclosed

theorem not_over (d : Cursor) : ¬ F.Over d := by
  simp [Frame.Over, hclosed.out.1]

instance steady_anything : SteadyAt F c c' Eq anything anything := by
  unfold anything
  refine steady_from ?_
  rw [← length_eq_inside c c']
  exact steady_take (by simp [hclosed.out.1])

instance steady_comma? : SteadyAt F c c' Eq (punct? ",") (punct? ",") := by
  have hcomma : Same (c.atPunct ",") (c'.atPunct ",") := inferInstance
  unfold punct?
  refine steady_from (steady_ite_of (fun h => ?_) inferInstance)
  refine steady_bind (steady_take ?_) (fun _ _ _ _ _ => steady_pure rfl) fun _ => inferInstance
  have hlength := Cursor.length_le_of_startsWith h
  simp only [hclosed.out.1, List.length_nil, Nat.add_zero]
  rwa [String.length_toList] at hlength

theorem steady_bind_inside {r r' : Reading α} {f f' : α → Reading β} (hr : SteadyAt F c c' R r r')
    (hf : ∀ a a' d d', r.run c = .ok (a, d) → R a a' → [Near F d d'] →
      SteadyAt F d d' S (f a) (f' a')) : SteadyAt F c c' S (r >>= f) (r' >>= f') where
  out {b e} h := by
    obtain ⟨a, d, hrun, h⟩ := run_bind_ok_iff.mp h
    obtain hover | ⟨a', d', hrun', ha, hd⟩ := hr.out hrun
    · exact absurd hover (not_over d)
    refine ((hf a a' d d' hrun ha).out h).imp_right ?_
    rintro ⟨b', e', h', hb, he⟩
    exact ⟨b', e', run_bind_ok_iff.mpr ⟨a', d', hrun', h'⟩, hb, he⟩

theorem closed_swap : F.swap.Closed := ⟨hclosed.out.2, hclosed.out.1⟩

instance steady_attempt {r : Reading α}
    [hr : ∀ x : F.Pair, SteadyAt F x.left x.right R r r]
    [hr' : ∀ x : F.swap.Pair, SteadyAt F.swap x.left x.right R r r] :
    SteadyAt F c c' (Option.Rel R) (attempt r) (attempt r) where
  out {x d} h := by
    rcases run_attempt_ok_iff.mp h with ⟨a, hrun, rfl⟩ | ⟨⟨f, hrun⟩, rfl, rfl⟩
    · obtain hover | ⟨a', d', hrun', ha, hd⟩ := (hr ⟨c, c', hnear⟩).out hrun
      · exact absurd hover (not_over _)
      · exact .inr ⟨some a', d', run_attempt_ok_iff.mpr (.inl ⟨a', hrun', rfl⟩), .some ha, hd⟩
    · refine .inr ⟨none, c', run_attempt_ok_iff.mpr (.inr ⟨?_, rfl, rfl⟩), .none, hnear⟩
      cases hrun' : r.run c' with
      | error f' => exact ⟨f', rfl⟩
      | ok x' =>
        have := closed_swap (F := F)
        obtain hover | ⟨a, e, hrun'', -⟩ := (hr' ⟨c', d, hnear.symm⟩).out hrun'
        · exact absurd hover (not_over _)
        · rw [hrun] at hrun''
          cases hrun''

end

end FieldAtlas.Source.Reading
