import FieldAtlas.Proofs.Extract
import FieldAtlas.Proofs.Source.Near

/-!
# Steady readings

What a reading does depends on the tokens that it reads, not on their places, nor on what has been
read before, nor on whether a comma or the end of the tokens stands behind them.
-/

namespace FieldAtlas.Source

/-- The first reading has gone into what stands behind. -/
def Frame.Over (F : Frame) (c : Cursor) : Prop := c.rest.length < F.behind.length

/-- A reading that never goes back, nor forgets stray tokens. -/
class Forward {α : Type} (r : Reading α) : Prop where
  out : ∀ {c a d}, r.run c = .ok (a, d) →
    d.rest.length ≤ c.rest.length ∧ (c.stray.isSome = true → d.stray.isSome = true)

/-- From here the second reading does what the first one does, unless the first one goes over. -/
class SteadyAt (F : Frame) (c c' : Cursor) [Near F c c'] {α : Type}
    (R : outParam (α → α → Prop)) (r r' : Reading α) : Prop where
  out : ∀ {a d}, r.run c = .ok (a, d) →
    F.Over d ∨ ∃ a' d', r'.run c' = .ok (a', d') ∧ R a a' ∧ Near F d d'

/-- A reading that does the same in front of all there is. -/
class SteadyInside {α : Type} (r : Reading α) : Prop where
  at_near : ∀ (F : Frame) (c c' : Cursor) [Near F c c'] [F.Closed], SteadyAt F c c' Eq r r

/-- A reading that does the same from cursors that are near each other. -/
class Steady {α : Type} (r : Reading α) : Prop extends Forward r where
  at_near : ∀ (F : Frame) (c c' : Cursor) [Near F c c'], SteadyAt F c c' Eq r r

namespace Reading

variable {F : Frame} {c c' : Cursor} {α β : Type} {R : α → α → Prop} {S : β → β → Prop}

/-! ## Sequences of readings -/

theorem run_bind_ok_iff {r : Reading α} {f : α → Reading β} {b : β} {e : Cursor} :
    (r >>= f).run c = .ok (b, e) ↔ ∃ a d, r.run c = .ok (a, d) ∧ (f a).run d = .ok (b, e) := by
  rw [StateT.run_bind, bind_ok_iff, Prod.exists]

theorem run_from {f : Cursor → Reading β} : (get >>= f).run c = (f c).run c := rfl

theorem run_map_ok_iff {r : Reading α} {f : α → β} {b : β} {d : Cursor} :
    (f <$> r).run c = .ok (b, d) ↔ ∃ a, r.run c = .ok (a, d) ∧ f a = b := by
  rw [map_eq_pure_bind, run_bind_ok_iff]
  constructor
  · rintro ⟨a, e, hr, h⟩
    obtain ⟨rfl, rfl⟩ := Prod.mk.inj (Except.ok.inj h)
    exact ⟨a, hr, rfl⟩
  · rintro ⟨a, hr, rfl⟩
    exact ⟨a, d, hr, rfl⟩

theorem run_failExpected (what : List String) (c : Cursor) :
    ∃ e, (failExpected what : Reading α).run c = .error e := by
  unfold failExpected
  split <;> exact ⟨_, rfl⟩

/-- A reading that fails is forward, and steady whatever the other one does. -/
class Fails {α : Type} (r : Reading α) : Prop where
  out : ∀ c, ∃ e, r.run c = .error e

instance fails_failAt (pos : Pos) (message : String) : Fails (failAt pos message : Reading α) :=
  ⟨fun _ => ⟨_, rfl⟩⟩

instance fails_fail (message : String) : Fails (fail message : Reading α) := ⟨fun _ => ⟨_, rfl⟩⟩

instance fails_failExpected (what : List String) : Fails (failExpected what : Reading α) :=
  ⟨run_failExpected what⟩

instance fails_ite {p : Prop} [Decidable p] {r s : Reading α} [Fails r] [Fails s] :
    Fails (if p then r else s) := by
  split <;> infer_instance

theorem run_ne_ok {r : Reading α} [hr : Fails r] {a : α} {d : Cursor} : r.run c ≠ .ok (a, d) := by
  obtain ⟨e, he⟩ := hr.out c
  rw [he]
  exact nofun

/-! ## Readings that go forward -/

instance forward_of_fails {r : Reading α} [Fails r] : Forward r := ⟨fun h => absurd h run_ne_ok⟩

instance forward_pure (a : α) : Forward (pure a : Reading α) where
  out h := by
    obtain ⟨-, rfl⟩ := Prod.mk.inj (Except.ok.inj h)
    exact ⟨Nat.le_refl _, id⟩

instance forward_bind {r : Reading α} {f : α → Reading β} [hr : Forward r]
    [hf : ∀ a, Forward (f a)] : Forward (r >>= f) where
  out h := by
    obtain ⟨a, d, hfirst, h⟩ := run_bind_ok_iff.mp h
    obtain ⟨hlength, hstray⟩ := hr.out hfirst
    obtain ⟨hlength', hstray'⟩ := (hf a).out h
    exact ⟨Nat.le_trans hlength' hlength, hstray' ∘ hstray⟩

instance forward_map {r : Reading α} {f : α → β} [hr : Forward r] : Forward (f <$> r) := by
  rw [map_eq_pure_bind]
  exact forward_bind

instance forward_ite {p : Prop} [Decidable p] {r s : Reading α} [Forward r] [Forward s] :
    Forward (if p then r else s) := by
  split <;> infer_instance

instance forward_get : Forward (get : Reading Cursor) where
  out h := by
    obtain ⟨-, rfl⟩ := Prod.mk.inj (Except.ok.inj h)
    exact ⟨Nat.le_refl _, id⟩

theorem forward_from {f : Cursor → Reading β} (h : ∀ c, Forward (f c)) : Forward (get >>= f) :=
  forward_bind

instance forward_take (count : Nat) : Forward (take count) where
  out h := by
    obtain ⟨-, rfl⟩ := Prod.mk.inj (Except.ok.inj h)
    exact ⟨by simp [Cursor.advance], id⟩

instance forward_punct (text : String) : Forward (punct text) := by
  unfold punct
  infer_instance

instance forward_punct? (text : String) : Forward (punct? text) := by
  unfold punct?
  infer_instance

instance forward_anyWord : Forward anyWord := by
  unfold anyWord
  refine forward_from fun c => ?_
  split <;> infer_instance

/-! ## Steady readings from two cursors -/

variable [hnear : Near F c c']

theorem steady_of_fails {r r' : Reading α} [Fails r] : SteadyAt F c c' R r r' :=
  ⟨fun h => absurd h run_ne_ok⟩

instance steady_fails {r r' : Reading α} [Fails r] : SteadyAt F c c' Eq r r' := steady_of_fails

omit hnear in
instance steady_failing {r : Reading α} [Fails r] : Steady r where
  at_near _ _ _ _ := steady_fails

omit hnear in
instance steadyInside_of_steady {r : Reading α} [hr : Steady r] : SteadyInside r where
  at_near F c c' _ _ := hr.at_near F c c'

theorem steady_bind_run {r r' : Reading α} {f f' : α → Reading β} (hr : SteadyAt F c c' R r r')
    (hf : ∀ a a' d d', r.run c = .ok (a, d) → r'.run c' = .ok (a', d') → R a a' →
      [Near F d d'] → SteadyAt F d d' S (f a) (f' a'))
    (hforward : ∀ a, Forward (f a)) : SteadyAt F c c' S (r >>= f) (r' >>= f') where
  out {b e} h := by
    obtain ⟨a, d, hfirst, h⟩ := run_bind_ok_iff.mp h
    rcases hr.out hfirst with hover | ⟨a', d', hfirst', ha, hd⟩
    · exact .inl (Nat.lt_of_le_of_lt ((hforward a).out h).1 hover)
    rcases (hf a a' d d' hfirst hfirst' ha).out h with hover | ⟨b', e', h', hb, he⟩
    · exact .inl hover
    · exact .inr ⟨b', e', run_bind_ok_iff.mpr ⟨a', d', hfirst', h'⟩, hb, he⟩

theorem steady_bind {r r' : Reading α} {f f' : α → Reading β} (hr : SteadyAt F c c' R r r')
    (hf : ∀ a a' d d', R a a' → [Near F d d'] → SteadyAt F d d' S (f a) (f' a'))
    (hforward : ∀ a, Forward (f a)) : SteadyAt F c c' S (r >>= f) (r' >>= f') :=
  steady_bind_run hr (fun a a' d d' _ _ => hf a a' d d') hforward

theorem steady_mono {r r' : Reading α} {R' : α → α → Prop} (h : SteadyAt F c c' R r r')
    (hR : ∀ a a', R a a' → R' a a') : SteadyAt F c c' R' r r' where
  out hrun := (h.out hrun).imp_right fun ⟨a', d', hrun', ha, hd⟩ => ⟨a', d', hrun', hR _ a' ha, hd⟩

instance steady_bind_eq {r r' : Reading α} {f f' : α → Reading β} [hr : SteadyAt F c c' Eq r r']
    [hf : ∀ a d d' [Near F d d'], SteadyAt F d d' S (f a) (f' a)] [hforward : ∀ a, Forward (f a)] :
    SteadyAt F c c' S (r >>= f) (r' >>= f') :=
  steady_bind hr (fun a _ d d' h => h ▸ hf a d d') hforward

theorem steady_from {f f' : Cursor → Reading β} (h : SteadyAt F c c' S (f c) (f' c')) :
    SteadyAt F c c' S (get >>= f) (get >>= f') := ⟨h.out⟩

instance steady_get {f f' : Cursor → Reading β} [h : SteadyAt F c c' S (f c) (f' c')] :
    SteadyAt F c c' S (get >>= f) (get >>= f') := steady_from h

theorem steady_ite_of {p p' : Bool} [Decidable (p = true)] [Decidable (p' = true)]
    {r r' s s' : Reading α} [hp : Same p p'] (hr : p = true → SteadyAt F c c' R r r')
    (hs : SteadyAt F c c' R s s') :
    SteadyAt F c c' R (if p = true then r else s) (if p' = true then r' else s') := by
  obtain rfl := hp.eq
  by_cases h : p = true
  · rw [if_pos h, if_pos h]
    exact hr h
  · rwa [if_neg h, if_neg h]

instance steady_ite {p p' : Bool} [Decidable (p = true)] [Decidable (p' = true)]
    {r r' s s' : Reading α} [Same p p'] [hr : SteadyAt F c c' R r r'] [hs : SteadyAt F c c' R s s'] :
    SteadyAt F c c' R (if p = true then r else s) (if p' = true then r' else s') :=
  steady_ite_of (fun _ => hr) hs

theorem steady_map {r r' : Reading α} {f f' : α → β} (hr : SteadyAt F c c' R r r')
    (hf : ∀ a a', R a a' → S (f a) (f' a')) : SteadyAt F c c' S (f <$> r) (f' <$> r') where
  out {b d} h := by
    obtain ⟨a, hfirst, rfl⟩ := run_map_ok_iff.mp h
    refine (hr.out hfirst).imp_right ?_
    rintro ⟨a', d', hfirst', ha, hd⟩
    exact ⟨f' a', d', run_map_ok_iff.mpr ⟨a', hfirst', rfl⟩, hf a a' ha, hd⟩

theorem steady_pure {a a' : α} (h : R a a') :
    SteadyAt F c c' R (pure a : Reading α) (pure a') where
  out hrun := by
    obtain ⟨rfl, rfl⟩ := Prod.mk.inj (Except.ok.inj hrun)
    exact .inr ⟨a', c', rfl, h, hnear⟩

instance steady_pure_eq (a : α) : SteadyAt F c c' Eq (pure a : Reading α) (pure a) :=
  steady_pure rfl

/-! ## Single tokens -/

theorem steady_take {count : Nat} (h : count + F.behind.length ≤ c.rest.length) :
    SteadyAt F c c' Eq (take count) (take count) where
  out hrun := by
    obtain ⟨-, rfl⟩ := Prod.mk.inj (Except.ok.inj hrun)
    exact .inr ⟨(), c'.advance count, rfl, rfl, near_advance h⟩

instance steady_take_one [Ahead c] : SteadyAt F c c' Eq (take 1) (take 1) :=
  steady_take (length_of_ahead hnear)

instance steady_punct (text : String) [Mark text] :
    SteadyAt F c c' Eq (punct text) (punct text) := by
  unfold punct
  refine steady_from (steady_ite_of (fun h => ?_) inferInstance)
  exact steady_take (length_of_atPunct hnear h)

instance steady_punct? (text : String) [Mark text] :
    SteadyAt F c c' Eq (punct? text) (punct? text) := by
  unfold punct?
  refine steady_from (steady_ite_of (fun h => ?_) inferInstance)
  exact steady_bind (steady_take (length_of_atPunct hnear h))
    (fun _ _ _ _ _ => steady_pure rfl) fun _ => inferInstance

theorem run_anyWord_ok_iff {w : Pos × String} {d : Cursor} :
    anyWord.run c = .ok (w, d) ↔ ∃ rest, c.rest = .word w.1 w.2 :: rest ∧ d = c.advance 1 := by
  obtain ⟨rest, stop, taken, stray⟩ := c
  obtain ⟨pos, name⟩ := w
  constructor
  · intro h
    unfold anyWord at h
    rw [run_from] at h
    split at h
    · rename_i hrest
      obtain ⟨hw, rfl⟩ := Prod.mk.inj (Except.ok.inj h)
      obtain ⟨rfl, rfl⟩ := Prod.mk.inj hw
      exact ⟨_, hrest, rfl⟩
    · exact absurd h run_ne_ok
  · rintro ⟨rest, rfl, rfl⟩
    rfl

theorem run_punct_ok_iff {text : String} {a : Unit} {d : Cursor} :
    (punct text).run c = .ok (a, d) ↔ c.atPunct text = true ∧ d = c.advance text.length := by
  unfold punct
  constructor
  · intro h
    rw [run_from] at h
    split at h
    · rename_i htext
      exact ⟨htext, (Prod.mk.inj (Except.ok.inj h)).2.symm⟩
    · exact absurd h run_ne_ok
  · rintro ⟨htext, rfl⟩
    refine run_bind_ok_iff.mpr ⟨c, c, rfl, ?_⟩
    rw [if_pos htext]
    rfl

/-- A comma is a token as any other, unless it is what stands behind. -/
instance steady_comma : SteadyAt F c c' Eq (punct ",") (punct ",") where
  out h := by
    obtain ⟨hcomma, rfl⟩ := run_punct_ok_iff.mp h
    obtain ⟨ts, us, hc, hc', halike⟩ := hnear.rest
    rw [Cursor.atPunct, hc] at hcomma
    cases halike with
    | nil =>
      have hlength : 1 ≤ F.behind.length := Cursor.length_le_of_startsWith hcomma
      have hone : ",".length = 1 := rfl
      refine .inl ?_
      simp only [Frame.Over, Cursor.advance, hc, List.nil_append, List.length_drop]
      omega
    | punct _ _ =>
      refine .inr ⟨(), _, run_punct_ok_iff.mpr ⟨?_, rfl⟩, rfl, near_advance ?_⟩
      · rw [Cursor.atPunct, hc']
        exact hcomma
      · have hone : ",".length = 1 := rfl
        simp only [hc, List.length_append, List.length_cons]
        omega
    | _ => cases hcomma

instance steady_anyWord : SteadyAt F c c' (fun w w' => w.2 = w'.2) anyWord anyWord where
  out {w d} h := by
    obtain ⟨rest, hc, rfl⟩ := run_anyWord_ok_iff.mp h
    have : Ahead c := ⟨_, _, hc, rfl⟩
    obtain ⟨ts, us, u, halike, -, hc'⟩ := front_alike hnear hc rfl
    cases halike with
    | word _ =>
      exact .inr ⟨(_, _), _, run_anyWord_ok_iff.mpr ⟨_, hc', rfl⟩, rfl,
        near_advance (length_of_ahead hnear)⟩

instance forward_literal (what : String) (accept : Literal → Option α) :
    Forward (literal what accept) := by
  unfold literal
  refine forward_from fun c => ?_
  split
  · infer_instance
  · split <;> infer_instance

instance steady_literal (what : String) (accept : Literal → Option α) :
    SteadyAt F c c' Eq (literal what accept) (literal what accept) := by
  unfold literal
  refine steady_from ?_
  cases hl : c.literal? with
  | none => infer_instance
  | some l =>
    obtain ⟨hlength, rest', hl', hcount⟩ := front_literal hnear hl
    simp only [hl', hcount]
    cases accept l.1 with
    | none => infer_instance
    | some a =>
      exact steady_bind (steady_take hlength) (fun _ _ _ _ _ => steady_pure rfl)
        fun _ => inferInstance

instance forward_textLiteral : Forward textLiteral := by
  unfold textLiteral
  refine forward_from fun c => ?_
  split
  · split <;> infer_instance
  · infer_instance

instance steady_textLiteral : SteadyAt F c c' Eq textLiteral textLiteral := by
  unfold textLiteral
  refine steady_from ?_
  split
  · rename_i hc
    obtain ⟨ts, us, u, halike, -, hc'⟩ := front_alike hnear hc rfl
    have : Ahead c := ⟨_, _, hc, rfl⟩
    cases halike with
    | literal _ =>
      simp only [hc']
      split
      · infer_instance
      · infer_instance
  · infer_instance

/-! ## Text that is written, and groups -/

theorem run_written_ok_iff {r : Reading α} {a : α × List Token} {d : Cursor} :
    (written r).run c = .ok (a, d) ↔ ∃ e, r.run { c with taken := [] } = .ok (a.1, e) ∧
      a.2 = e.taken.reverse ∧ d = { e with taken := c.taken } := by
  obtain ⟨a, ts⟩ := a
  unfold written
  constructor
  · intro h
    rw [run_from] at h
    obtain ⟨_, _, hmodify, h⟩ := run_bind_ok_iff.mp h
    obtain ⟨-, rfl⟩ := Prod.mk.inj (Except.ok.inj hmodify)
    obtain ⟨b, e, hrun, h⟩ := run_bind_ok_iff.mp h
    obtain ⟨hb, rfl⟩ := Prod.mk.inj (Except.ok.inj h)
    obtain ⟨rfl, rfl⟩ := Prod.mk.inj hb
    exact ⟨e, hrun, rfl, rfl⟩
  · rintro ⟨e, hrun, rfl, rfl⟩
    refine run_bind_ok_iff.mpr ⟨_, _, rfl, run_bind_ok_iff.mpr ⟨_, _, rfl, ?_⟩⟩
    exact run_bind_ok_iff.mpr ⟨_, _, hrun, rfl⟩

instance forward_written {r : Reading α} [hr : Forward r] : Forward (written r) where
  out h := by
    obtain ⟨e, hrun, -, rfl⟩ := run_written_ok_iff.mp h
    have := hr.out hrun
    exact this

theorem steady_written {r r' : Reading α}
    (hr : ∀ (e e' : Cursor) [Near F.fresh e e'], SteadyAt F.fresh e e' R r r') :
    SteadyAt F c c' (fun a a' => R a.1 a'.1 ∧ Alike false a.2 a'.2) (written r) (written r') where
  out {a d} h := by
    obtain ⟨e, hrun, hts, rfl⟩ := run_written_ok_iff.mp h
    have hstart : Near F.fresh { c with taken := [] } { c' with taken := [] } := near_fresh
    refine ((hr _ { c' with taken := [] }).out hrun).imp_right ?_
    rintro ⟨a', e', hrun', ha, he⟩
    exact ⟨(a', e'.taken.reverse), _, run_written_ok_iff.mpr ⟨e', hrun', rfl, rfl⟩,
      ⟨ha, hts ▸ alike_of_fresh he⟩, near_of_fresh he⟩

theorem run_group {d : Delimiter} {r : Reading α} {opened closed : Pos} {inner rest : List Token}
    (h : c.rest = .group d opened inner closed :: rest) :
    (group d r).run c = (fun x => (x.1, { c with
      rest := rest
      taken := .group d opened x.2.taken.reverse closed :: c.taken
      stray := x.2.stray.or (x.2.rest.head?.map (strayFault d)) })) <$>
        r.run ⟨inner, closed, [], c.stray⟩ := by
  simp [group, h]

theorem run_group_ok_iff {d : Delimiter} {r : Reading α} {a : α} {e : Cursor} :
    (group d r).run c = .ok (a, e) ↔ ∃ opened inner closed rest i,
      c.rest = .group d opened inner closed :: rest ∧
      r.run ⟨inner, closed, [], c.stray⟩ = .ok (a, i) ∧
      e = { c with
        rest := rest
        taken := .group d opened i.taken.reverse closed :: c.taken
        stray := i.stray.or (i.rest.head?.map (strayFault d)) } := by
  constructor
  · intro h
    have htest := h
    unfold group at htest
    rw [run_from] at htest
    split at htest
    · rename_i opened inner closed rest hrest
      split at htest
      · subst d
        rw [run_group hrest] at h
        cases hrun : r.run ⟨inner, closed, [], c.stray⟩ with
        | error f =>
          rw [hrun] at h
          cases h
        | ok x =>
          rw [hrun] at h
          obtain ⟨rfl, rfl⟩ := Prod.mk.inj (Except.ok.inj h)
          exact ⟨opened, inner, closed, rest, x.2, hrest, hrun, rfl⟩
      · exact absurd htest run_ne_ok
    · exact absurd htest run_ne_ok
  · rintro ⟨opened, inner, closed, rest, i, hc, hrun, rfl⟩
    rw [run_group hc, hrun]
    rfl

instance forward_group {d : Delimiter} {r : Reading α} [hr : Forward r] : Forward (group d r) where
  out h := by
    obtain ⟨opened, inner, closed, rest, i, hc, hrun, rfl⟩ := run_group_ok_iff.mp h
    refine ⟨by simp [hc], fun hstray => ?_⟩
    have hinner := (hr.out hrun).2 hstray
    simp [hinner]

/-- In a group nothing stands behind. -/
theorem steady_group {d : Delimiter} {r r' : Reading α}
    (hr : ∀ (e e' : Cursor) [Near Frame.inside e e'], SteadyAt Frame.inside e e' R r r') :
    SteadyAt F c c' R (group d r) (group d r') where
  out {a e} h := by
    obtain ⟨opened, inner, closed, rest, i, hc, hrun, rfl⟩ := run_group_ok_iff.mp h
    obtain ⟨ts, us, u, halike, rfl, hc'⟩ := front_alike hnear hc rfl
    obtain ⟨vs, ws, htaken, htaken', hbefore⟩ := hnear.taken
    cases halike with
    | @group _ _ _ opened' closed' _ inner' _ _ hinner houter =>
    have hstart : Near Frame.inside ⟨inner, closed, [], c.stray⟩
        ⟨inner', closed', [], c'.stray⟩ :=
      ⟨⟨inner, inner', by simp [Frame.inside], by simp [Frame.inside], hinner⟩,
        ⟨[], [], rfl, rfl, .nil⟩, hnear.stray⟩
    obtain hover | ⟨a', i', hrun', ha, hi⟩ :=
      (hr _ ⟨inner', closed', [], c'.stray⟩).out hrun
    · cases hover
    obtain ⟨left, left', hleft, hleft', hrest⟩ := hi.rest
    obtain ⟨written, written', hwritten, hwritten', hinside⟩ := hi.taken
    refine .inr ⟨a', _, run_group_ok_iff.mpr ⟨_, _, _, _, i', hc', hrun', rfl⟩, ha, ?_⟩
    refine ⟨⟨ts, us, rfl, rfl, houter⟩,
      ⟨.group d opened i.taken.reverse closed :: vs,
        .group d opened' i'.taken.reverse closed' :: ws,
        by simp [htaken], by simp [htaken'], .group ?_ hbefore⟩, ?_⟩
    · rw [hwritten, hwritten']
      simpa [Frame.inside] using hinside.reverse
    · simp only [Option.isSome_or, Option.isSome_map, hi.stray, hleft, hleft']
      cases hrest <;> rfl

instance steady_group_inside {d : Delimiter} {r : Reading α} [hr : SteadyInside r] :
    SteadyAt F c c' Eq (group d r) (group d r) :=
  steady_group fun e e' _ => hr.at_near Frame.inside e e'

/-! ## Repetition -/

/-- A reading that does not stay where it is. -/
class Progress {α : Type} (r : Reading α) : Prop where
  out : ∀ {c a d}, r.run c = .ok (a, d) → d.rest.length < c.rest.length

instance progress_anyWord : Progress anyWord where
  out {c w d} h := by
    obtain ⟨rest, hc, rfl⟩ := run_anyWord_ok_iff.mp h
    simp [Cursor.advance, hc]

theorem progress_punct {text : String} (h : text.length ≠ 0) : Progress (punct text) where
  out hrun := by
    obtain ⟨hstarts, rfl⟩ := run_punct_ok_iff.mp hrun
    have hlength := Cursor.length_le_of_startsWith hstarts
    rw [String.length_toList] at hlength
    simp only [Cursor.advance, List.length_drop]
    omega

theorem progress_comma : Progress (punct ",") := progress_punct (by decide)

theorem progress_behind {r : Reading α} {f : α → Reading β} [hr : Forward r]
    [hf : ∀ a, Progress (f a)] : Progress (r >>= f) where
  out h := by
    obtain ⟨a, d, hfirst, h⟩ := run_bind_ok_iff.mp h
    exact Nat.lt_of_lt_of_le ((hf a).out h) (hr.out hfirst).1

instance forward_repeatWithin {more : Cursor → Bool} {item : Reading α} [Forward item]
    (limit : Nat) : Forward (repeatWithin more item limit) := by
  induction limit with
  | zero => exact forward_pure []
  | succ limit ih =>
    unfold repeatWithin
    infer_instance

instance forward_repeatWhile {more : Cursor → Bool} {item : Reading α} [Forward item] :
    Forward (repeatWhile more item) := by
  unfold repeatWhile
  infer_instance

section

variable {more : Cursor → Bool} {item : Reading α} [hprogress : Progress item] [Forward item]
  (hmore : ∀ (c c' : Cursor) [Near F c c'], Same (more c) (more c'))
  (hitem : ∀ (c c' : Cursor) [Near F c c'], SteadyAt F c c' R item item)
include hmore hitem

/-- The limits do not matter, since each round reads a token. -/
theorem steady_repeatWithin {limit limit' : Nat} (h : c.rest.length < limit)
    (h' : c'.rest.length < limit') :
    SteadyAt F c c' (List.Forall₂ R) (repeatWithin more item limit)
      (repeatWithin more item limit') := by
  induction limit generalizing limit' c c' with
  | zero => cases h
  | succ limit ih =>
  cases limit' with
  | zero => cases h'
  | succ limit' =>
  unfold repeatWithin
  refine steady_from ?_
  have := hmore c c'
  refine steady_ite_of (fun _ => ?_) (steady_pure .nil)
  refine steady_bind_run (hitem c c') ?_ fun _ => inferInstance
  intro a a' d d' hrun hrun' ha _
  have hd : d.rest.length < limit := by have := hprogress.out hrun; omega
  have hd' : d'.rest.length < limit' := by have := hprogress.out hrun'; omega
  exact steady_bind (ih hd hd') (fun _ _ _ _ h => steady_pure (.cons ha h)) fun _ => inferInstance

theorem steady_repeatWhile :
    SteadyAt F c c' (List.Forall₂ R) (repeatWhile more item) (repeatWhile more item) := by
  unfold repeatWhile
  exact steady_from
    (steady_repeatWithin hmore hitem (Nat.lt_succ_self _) (Nat.lt_succ_self _))

end

end Reading

end FieldAtlas.Source
