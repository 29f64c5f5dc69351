import FieldAtlas.Proofs.Source.Paths

/-!
# Tests on what comes next

A test that holds only in front of a token tells where the next one is. In front of all there is, a
test may look at any token, and for the end.
-/

namespace FieldAtlas.Source

open Cursor

/-! ## Marks -/

instance mark_or : Mark "|" := ⟨by decide, by decide⟩

instance mark_orOr : Mark "||" := ⟨by decide, by decide⟩

instance mark_orEquals : Mark "|=" := ⟨by decide, by decide⟩

instance mark_and : Mark "&" := ⟨by decide, by decide⟩

instance mark_andEquals : Mark "&=" := ⟨by decide, by decide⟩

instance mark_dot : Mark "." := ⟨by decide, by decide⟩

instance mark_twoDots : Mark ".." := ⟨by decide, by decide⟩

instance mark_threeDots : Mark "..." := ⟨by decide, by decide⟩

instance mark_dotsEquals : Mark "..=" := ⟨by decide, by decide⟩

instance mark_minus : Mark "-" := ⟨by decide, by decide⟩

instance mark_minusEquals : Mark "-=" := ⟨by decide, by decide⟩

instance mark_arrow : Mark "->" := ⟨by decide, by decide⟩

instance mark_star : Mark "*" := ⟨by decide, by decide⟩

instance mark_starEquals : Mark "*=" := ⟨by decide, by decide⟩

instance mark_not : Mark "!" := ⟨by decide, by decide⟩

instance mark_notEquals : Mark "!=" := ⟨by decide, by decide⟩

instance mark_question : Mark "?" := ⟨by decide, by decide⟩

instance mark_tilde : Mark "~" := ⟨by decide, by decide⟩

instance mark_semicolon : Mark ";" := ⟨by decide, by decide⟩

instance mark_doubleArrow : Mark "=>" := ⟨by decide, by decide⟩

instance mark_hash : Mark "#" := ⟨by decide, by decide⟩

instance mark_at : Mark "@" := ⟨by decide, by decide⟩

instance mark_slash : Mark "/" := ⟨by decide, by decide⟩

instance mark_percent : Mark "%" := ⟨by decide, by decide⟩

instance mark_caret : Mark "^" := ⟨by decide, by decide⟩

instance mark_lessLessEquals : Mark "<<=" := ⟨by decide, by decide⟩

/-- Marks, none of which has a comma in it. -/
class Marks (texts : List String) : Prop where
  out : ∀ text ∈ texts, Mark text

instance marks_nil : Marks [] := ⟨nofun⟩

instance marks_cons {text : String} {texts : List String} [h : Mark text] [hs : Marks texts] :
    Marks (text :: texts) := ⟨List.forall_mem_cons.mpr ⟨h, hs.out⟩⟩

/-! ## Pairs of cursors -/

/-- Two cursors that are near each other. -/
structure Frame.Pair (F : Frame) where
  left : Cursor
  right : Cursor
  near : Near F left right

instance Frame.Pair.near_sides {F : Frame} (x : F.Pair) : Near F x.left x.right := x.near

instance Frame.closed_fresh {F : Frame} [h : F.Closed] : F.fresh.Closed := ⟨h.out⟩

theorem length_lt_of_literal? {c : Cursor} {l : Literal} {rest : List Token}
    (h : c.literal? = some (l, rest)) : rest.length < c.rest.length := by
  unfold literal? at h
  split at h
  case h_1 hc | h_2 hc | h_3 hc =>
    cases h
    simp [hc]
  case h_4 hc =>
    simp only at h
    split at h <;> cases h
    simp only [hc, List.length_cons]
    omega
  case h_5 => cases h

/-! ## Tests that stand in front of a token -/

/-- If the test holds, there is a token in front, and it is not a comma. -/
class Guards (p : Bool) (c : outParam Cursor) : Prop where
  ahead : p = true → Ahead c

section

variable {c : Cursor} {p q : Bool}

theorem guards_of_ends (h : Ends c.rest → p = false) : Guards p c :=
  ⟨fun hp => ahead_of_not_ends fun hends => by rw [h hends] at hp; cases hp⟩

instance guards_atWord (name : String) : Guards (c.atWord name) c :=
  guards_of_ends (atWord_of_ends name)

instance guards_atName : Guards c.atName c := guards_of_ends atName_of_ends

instance guards_atLifetime : Guards c.atLifetime c := guards_of_ends atLifetime_of_ends

instance guards_atPunct (text : String) [Mark text] : Guards (c.atPunct text) c :=
  guards_of_ends (atPunct_of_ends text)

instance guards_and [h : Guards p c] : Guards (p && q) c :=
  ⟨fun hpq => h.ahead (Bool.and_eq_true_iff.mp hpq).1⟩

instance guards_or [h : Guards p c] [h' : Guards q c] : Guards (p || q) c :=
  ⟨fun hpq => (Bool.or_eq_true_iff.mp hpq).elim h.ahead h'.ahead⟩

instance guards_any (names : List String) : Guards (names.any c.atWord) c where
  ahead h := by
    obtain ⟨name, -, hname⟩ := List.any_eq_true.mp h
    exact ahead_of_atWord hname

end

section

variable {c : Cursor} {p p' q q' : Bool}

/-- Behind a test that holds in front of a token, the next one can be looked at. -/
theorem same_behind [Same p p'] [hguards : Guards p c] (h : Ahead c → Same q q') :
    Same (p && q) (p' && q') := same_and_of fun hp => h (hguards.ahead hp)

end

variable {F : Frame} {c c' : Cursor} [hnear : Near F c c']
include hnear

/-- Nothing more, or a comma: each cursor has one of them where the tokens in front end. -/
instance same_endOrComma : Same (c.atEnd || c.atPunct ",") (c'.atEnd || c'.atPunct ",") where
  eq := by
    obtain ⟨ts, us, hc, hc', halike⟩ := hnear.rest
    have hends {e : Cursor} (h : Ends e.rest) : (e.atEnd || e.atPunct ",") = true := by
      unfold atEnd atPunct
      rcases h.cases with h | ⟨_, _, _, h⟩ <;> rw [h] <;> rfl
    cases halike with
    | nil => rw [hends (hc ▸ F.ends), hends (hc' ▸ F.ends')]
    | _ => rw [atEnd, atEnd, atPunct, atPunct, hc, hc']; rfl

instance same_parens : Same (c.atPunct "::" && c.next.next.atGroup .parens)
    (c'.atPunct "::" && c'.next.next.atGroup .parens) := by
  refine same_and_of fun h => ?_
  have : Near F c.next.next c'.next.next := near_next_next h
  infer_instance

theorem same_atAny (texts : List String) [hmarks : Marks texts] :
    Same (c.atAny texts) (c'.atAny texts) where
  eq := by
    obtain ⟨h⟩ := hmarks
    induction texts with
    | nil => rfl
    | cons text texts ih =>
      obtain ⟨htext, htexts⟩ := List.forall_mem_cons.mp h
      have hfirst : Same (c.atPunct text) (c'.atPunct text) := inferInstance
      rw [atAny, atAny, List.any_cons, List.any_cons, hfirst.eq]
      exact congrArg _ (ih htexts)

instance same_endOrAny (texts : List String) [Marks texts] :
    Same (c.atEnd || c.atAny ("," :: texts)) (c'.atEnd || c'.atAny ("," :: texts)) where
  eq := by
    have h : Same (c.atEnd || c.atPunct ",") (c'.atEnd || c'.atPunct ",") := inferInstance
    have htexts : Same (c.atAny texts) (c'.atAny texts) := same_atAny texts
    rw [atAny, atAny, List.any_cons, List.any_cons, ← Bool.or_assoc, ← Bool.or_assoc, h.eq]
    exact congrArg _ htexts.eq

section

variable [hclosed : F.Closed]
include hclosed

instance same_comma_inside : Same (c.atPunct ",") (c'.atPunct ",") where
  eq := by
    have h : Alike true c.rest c'.rest := rest_alike
    unfold atPunct
    generalize c.rest = ts, c'.rest = us at h
    cases h <;> rfl

variable (c c') in
theorem length_eq_inside : c.rest.length = c'.rest.length :=
  rest_alike.length_eq

instance near_next_inside : Near F c.next c'.next := by
  have hlifetime : Same c.atLifetime c'.atLifetime := inferInstance
  have halike : Alike true c.rest c'.rest := rest_alike
  rw [next_eq, next_eq, ← hlifetime.eq]
  generalize (if c.atLifetime then 2 else 1) = count
  refine ⟨⟨c.rest.drop count, c'.rest.drop count, ?_, ?_, halike.drop count⟩, hnear.taken,
    hnear.stray⟩
  · rw [hclosed.out.1, List.append_nil]
  · rw [hclosed.out.2, List.append_nil]

end

end FieldAtlas.Source
