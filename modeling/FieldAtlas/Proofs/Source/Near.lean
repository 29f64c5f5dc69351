import FieldAtlas.Proofs.Source.Alike
import FieldAtlas.Source.Reading

/-!
# Cursors that are near each other

Two cursors in front of alike tokens, behind which the tokens end or a comma comes. Tests on what
comes next have the same outcome for both, as long as they do not look over the comma.
-/

namespace FieldAtlas.Source

/-- The tokens end here, or a comma comes next. -/
def Ends (ts : List Token) : Prop := ∀ t ∈ ts.head?, t.isComma = true

/-- What surrounds the tokens in front of two cursors: what stands behind those tokens, and what has
been written before. -/
structure Frame where
  behind : List Token
  behind' : List Token
  ends : Ends behind
  ends' : Ends behind'
  before : List Token
  before' : List Token

/-- Nothing stands behind: the tokens in front are all there are. -/
class Frame.Closed (F : Frame) : Prop where
  out : F.behind = [] ∧ F.behind' = []

/-- Two cursors in front of alike tokens, that have written alike tokens. -/
class Near (F : outParam Frame) (c c' : Cursor) : Prop where
  rest : ∃ ts us, c.rest = ts ++ F.behind ∧ c'.rest = us ++ F.behind' ∧ Alike true ts us
  taken : ∃ ts us, c.taken = ts ++ F.before ∧ c'.taken = us ++ F.before' ∧ Alike false ts us
  stray : c.stray.isSome = c'.stray.isSome

def Frame.swap (F : Frame) : Frame where
  behind := F.behind'
  behind' := F.behind
  ends := F.ends'
  ends' := F.ends
  before := F.before'
  before' := F.before

/-- Nothing has been written before. -/
def Frame.fresh (F : Frame) : Frame := { F with before := [], before' := [] }

theorem Near.symm {F : Frame} {c c' : Cursor} (h : Near F c c') : Near F.swap c' c where
  rest := by
    obtain ⟨ts, us, hc, hc', halike⟩ := h.rest
    exact ⟨us, ts, hc', hc, halike.symm⟩
  taken := by
    obtain ⟨ts, us, hc, hc', halike⟩ := h.taken
    exact ⟨us, ts, hc', hc, halike.symm⟩
  stray := h.stray.symm

/-- Nothing stands behind, and nothing has been written before. -/
def Frame.inside : Frame := ⟨[], [], nofun, nofun, [], []⟩

instance Frame.closed_inside : Frame.inside.Closed := ⟨rfl, rfl⟩

/-- The text of a mark that is no comma and has none in it. -/
class Mark (text : String) : Prop where
  filled : text.toList ≠ []
  noComma : ',' ∉ text.toList

instance mark_colons : Mark "::" := ⟨by decide, by decide⟩

instance mark_equals : Mark "=" := ⟨by decide, by decide⟩

/-- Two tests come to the same. -/
class Same (p p' : Bool) : Prop where
  eq : p = p'

/-- There is a token in front, and it is not a comma. -/
class Ahead (c : Cursor) : Prop where
  out : ∃ t ts, c.rest = t :: ts ∧ t.isComma = false

theorem Ends.nil : Ends [] := nofun

theorem Ends.comma {t : Token} {ts : List Token} (h : t.isComma = true) : Ends (t :: ts) := by
  rintro u hu
  exact Option.some.inj hu ▸ h

theorem Ends.cases {ts : List Token} (h : Ends ts) :
    ts = [] ∨ ∃ p j us, ts = .punct p ',' j :: us := by
  cases ts with
  | nil => exact .inl rfl
  | cons t ts =>
    have hcomma := h t rfl
    unfold Token.isComma at hcomma
    split at hcomma
    · exact .inr ⟨_, _, _, rfl⟩
    · cases hcomma

theorem Ends.alike {spaced : Bool} {ts us : List Token} (h : Ends ts)
    (halike : Alike spaced ts us) : Ends us := by
  cases halike with
  | nil => exact h
  | punct => rcases h.cases with h | ⟨_, _, _, h⟩ <;> cases h; exact .comma rfl
  | _ => rcases h.cases with h | ⟨_, _, _, h⟩ <;> cases h

namespace Cursor

/-! ## Marks -/

variable {cs : List Char} {ts us : List Token}

theorem startsWith_punct (c d e : Char) (cs : List Char) (p : Pos) (j : Bool) (ts : List Token) :
    startsWith (c :: d :: cs) (.punct p e j :: ts) = (c == e && j && startsWith (d :: cs) ts) :=
  rfl

theorem startsWith_behind (hfilled : cs ≠ []) (hcomma : ',' ∉ cs) (hends : Ends ts) :
    startsWith cs ts = false := by
  obtain ⟨c, cs, rfl⟩ := List.exists_cons_of_ne_nil hfilled
  have hc : c ≠ ',' := fun h => hcomma (h ▸ List.mem_cons_self)
  rcases hends.cases with rfl | ⟨p, j, us, rfl⟩
  · cases cs <;> rfl
  · cases cs <;> simp [startsWith, hc]

theorem startsWith_append (hcomma : ',' ∉ cs) (hends : Ends us) :
    startsWith cs (ts ++ us) = startsWith cs ts := by
  induction cs generalizing ts with
  | nil => rfl
  | cons c cs ih =>
    have hnil : startsWith (c :: cs) [] = false := by cases cs <;> rfl
    cases ts with
    | nil => rw [List.nil_append, startsWith_behind (List.cons_ne_nil _ _) hcomma hends, hnil]
    | cons t ts =>
      have ih' : startsWith cs (ts ++ us) = startsWith cs ts :=
        ih fun h => hcomma (List.mem_cons_of_mem _ h)
      cases t <;> cases cs <;> simp_all [startsWith]

theorem startsWith_alike (hcomma : ',' ∉ cs) (h : Alike true ts us) :
    startsWith cs ts = startsWith cs us := by
  induction cs generalizing ts us with
  | nil => rfl
  | cons c cs ih =>
    have hcomma' : ',' ∉ cs := fun h => hcomma (List.mem_cons_of_mem _ h)
    cases cs with
    | nil => cases h <;> rfl
    | cons d cs =>
      cases h with
      | nil => rfl
      | word _ => rfl
      | literal _ => rfl
      | group _ _ => rfl
      | punct spacing rest =>
        rename_i ts us
        rw [startsWith_punct, startsWith_punct, ih hcomma' rest]
        -- The spacing counts only if a mark that is no comma follows.
        cases hj : joins ts with
        | true => rw [spacing rfl hj]
        | false =>
          have hstop : startsWith (d :: cs) us = false := by
            rw [rest.joins_eq] at hj
            have hd : d ≠ ',' := fun h => hcomma' (h ▸ List.mem_cons_self)
            cases us with
            | nil => cases cs <;> rfl
            | cons t us =>
              cases t with
              | punct p e j =>
                have he : e = ',' := by simpa [joins] using hj
                subst he
                cases cs <;> simp [startsWith, hd]
              | _ => cases cs <;> rfl
          simp [hstop]

theorem length_le_of_startsWith (h : startsWith cs ts = true) : cs.length ≤ ts.length := by
  induction cs generalizing ts with
  | nil => exact Nat.zero_le _
  | cons c cs ih =>
    cases ts with
    | nil => cases cs <;> cases h
    | cons t ts =>
      cases t with
      | punct p d j =>
        cases cs with
        | nil => simp
        | cons d cs =>
          rw [startsWith_punct, Bool.and_eq_true] at h
          exact Nat.succ_le_succ (ih h.2)
      | _ => cases cs <;> cases h

theorem startsWith_single {a : Char} {ts : List Token} (h : startsWith [a] ts = true) :
    ∃ p j us, ts = .punct p a j :: us := by
  cases ts with
  | nil => cases h
  | cons t ts =>
    cases t with
    | punct p c j =>
      obtain rfl : a = c := by simpa [startsWith] using h
      exact ⟨p, j, ts, rfl⟩
    | _ => cases h

theorem startsWith_pair {a b : Char} {ts : List Token} (h : startsWith [a, b] ts = true) :
    ∃ p j q k us, ts = .punct p a j :: .punct q b k :: us := by
  cases ts with
  | nil => cases h
  | cons t ts =>
    cases t with
    | punct p c j =>
      cases ts with
      | nil => simp [startsWith] at h
      | cons u us =>
        cases u with
        | punct q d k =>
          obtain ⟨⟨rfl, -⟩, rfl⟩ : (a = c ∧ j = true) ∧ b = d := by simpa [startsWith] using h
          exact ⟨p, j, q, k, us, rfl⟩
        | _ => simp [startsWith] at h
    | _ => cases h

end Cursor

open Cursor

variable {F : Frame} {c c' : Cursor}

/-! ## Tokens -/

theorem ahead_of_not_ends (h : ¬ Ends c.rest) : Ahead c := by
  refine ⟨?_⟩
  cases hc : c.rest with
  | nil => exact absurd (by rw [hc]; exact nofun) h
  | cons t ts =>
    refine ⟨t, ts, rfl, ?_⟩
    rw [← Bool.not_eq_true]
    intro hcomma
    refine h ?_
    rintro u hu
    rw [hc] at hu
    exact Option.some.inj hu ▸ hcomma

theorem same_of_front [hnear : Near F c c'] {p : Cursor → Bool}
    (hends : ∀ c, Ends c.rest → p c = false)
    (hfront : ∀ ts us, Alike true ts us → ts ≠ [] → c.rest = ts ++ F.behind →
      c'.rest = us ++ F.behind' → p c = p c') : Same (p c) (p c') := by
  obtain ⟨ts, us, hc, hc', h⟩ := hnear.rest
  refine ⟨?_⟩
  by_cases hts : ts = []
  · subst hts
    cases h
    rw [hends c (by rw [hc]; exact F.ends), hends c' (by rw [hc']; exact F.ends')]
  · exact hfront ts us h hts hc hc'

theorem atWord_of_ends (name : String) (h : Ends c.rest) : c.atWord name = false := by
  unfold atWord
  rcases h.cases with h | ⟨_, _, _, h⟩ <;> simp [h]

theorem atAnyWord_of_ends (h : Ends c.rest) : c.atAnyWord = false := by
  unfold atAnyWord
  rcases h.cases with h | ⟨_, _, _, h⟩ <;> simp [h]

theorem atName_of_ends (h : Ends c.rest) : c.atName = false := by
  unfold atName
  rcases h.cases with h | ⟨_, _, _, h⟩ <;> simp [h]

theorem atGroup_of_ends (d : Delimiter) (h : Ends c.rest) : c.atGroup d = false := by
  unfold atGroup
  rcases h.cases with h | ⟨_, _, _, h⟩ <;> simp [h]

theorem atLifetime_of_ends (h : Ends c.rest) : c.atLifetime = false := by
  unfold atLifetime
  rcases h.cases with h | ⟨_, _, _, h⟩ <;> simp [h]

theorem ahead_of_atWord {name : String} (h : c.atWord name = true) : Ahead c :=
  ahead_of_not_ends fun hends => by rw [atWord_of_ends name hends] at h; cases h

theorem ahead_of_atLifetime (h : c.atLifetime = true) : Ahead c :=
  ahead_of_not_ends fun hends => by rw [atLifetime_of_ends hends] at h; cases h

theorem atPunct_of_ends (text : String) [hmark : Mark text] (h : Ends c.rest) :
    c.atPunct text = false :=
  startsWith_behind hmark.filled hmark.noComma h

section

variable (hnear : Near F c c')
include hnear

theorem front_alike {t : Token} {rest : List Token} (hc : c.rest = t :: rest)
    (ht : t.isComma = false) : ∃ ts us u, Alike true (t :: ts) (u :: us) ∧
      rest = ts ++ F.behind ∧ c'.rest = u :: (us ++ F.behind') := by
  obtain ⟨ts, us, hts, hus, h⟩ := hnear.rest
  rw [hc] at hts
  cases ts with
  | nil =>
    have hcomma := F.ends t (by rw [← List.nil_append F.behind, ← hts]; rfl)
    rw [hcomma] at ht
    cases ht
  | cons v vs =>
    obtain ⟨rfl, rfl⟩ := List.cons.inj hts
    cases us with
    | nil => cases h
    | cons u us => exact ⟨vs, us, u, h, rfl, hus⟩

theorem front_literal {l : Literal} {rest : List Token} (h : c.literal? = some (l, rest)) :
    c.rest.length - rest.length + F.behind.length ≤ c.rest.length ∧
    ∃ rest', c'.literal? = some (l, rest') ∧
      c'.rest.length - rest'.length = c.rest.length - rest.length := by
  unfold literal? at h
  split at h
  case h_1 | h_2 | h_3 =>
    rename_i hc
    obtain ⟨rfl, rfl⟩ := Prod.mk.inj (Option.some.inj h)
    obtain ⟨ts, us, u, halike, rfl, hc'⟩ := front_alike hnear hc rfl
    cases halike
    refine ⟨?_, us ++ F.behind', by simp [literal?, hc'], by simp [hc, hc']⟩
    simp only [hc, List.length_cons, List.length_append]
    omega
  case h_4 =>
    rename_i hc
    simp only at h
    split at h
    · rename_i hnumber
      obtain ⟨rfl, rfl⟩ := Prod.mk.inj (Option.some.inj h)
      obtain ⟨ts, us, u, halike, hts, hc'⟩ := front_alike hnear hc rfl
      cases halike with
      | punct _ hrest =>
        cases hrest with
        | nil => rcases F.ends.cases with h | ⟨_, _, _, h⟩ <;> simp [h] at hts
        | @literal _ _ _ vs ws _ =>
          obtain ⟨hl, rfl⟩ := List.cons.inj hts
          cases hl
          refine ⟨by simp [hc]; omega, ws ++ F.behind', by simp [literal?, hc', hnumber], ?_⟩
          simp [hc, hc']
          omega
        | _ => cases hts
    · cases h
  case h_5 => cases h

theorem length_of_atPunct {text : String} [hmark : Mark text]
    (h : c.atPunct text = true) : text.length + F.behind.length ≤ c.rest.length := by
  obtain ⟨ts, us, hc, -, -⟩ := hnear.rest
  rw [atPunct, hc, startsWith_append hmark.noComma F.ends] at h
  have hlength := length_le_of_startsWith h
  rw [String.length_toList] at hlength
  rw [hc, List.length_append]
  omega

theorem length_add_eq :
    c.rest.length + F.behind'.length = c'.rest.length + F.behind.length := by
  obtain ⟨ts, us, hc, hc', h⟩ := hnear.rest
  rw [hc, hc', List.length_append, List.length_append, h.length_eq]
  omega

theorem length_of_ahead [hahead : Ahead c] : 1 + F.behind.length ≤ c.rest.length := by
  obtain ⟨ts, us, hc, -, -⟩ := hnear.rest
  obtain ⟨t, vs, ht, hcomma⟩ := hahead.out
  cases ts with
  | nil =>
    rw [List.nil_append] at hc
    have hends := F.ends t (by rw [← hc, ht]; rfl)
    rw [hends] at hcomma
    cases hcomma
  | cons u us =>
    rw [hc, List.length_append, List.length_cons]
    omega

theorem length_of_atLifetime (h : c.atLifetime = true) : 2 + F.behind.length ≤ c.rest.length := by
  obtain ⟨ts, us, hc, -, -⟩ := hnear.rest
  unfold atLifetime at h
  split at h
  · rename_i hrest
    rw [hc] at hrest ⊢
    match ts, hrest with
    | [], hrest => rcases F.ends.cases with h | ⟨_, _, _, h⟩ <;> simp [h] at hrest
    | [_], hrest =>
      have hbehind := (List.cons.inj hrest).2
      rcases F.ends.cases with h | ⟨_, _, _, h⟩ <;> simp [h] at hbehind
    | _ :: _ :: _, _ => simp only [List.length_append, List.length_cons]; omega
  · cases h

end

variable [hnear : Near F c c']
include hnear

instance same_atPunct (text : String) [hmark : Mark text] :
    Same (c.atPunct text) (c'.atPunct text) := by
  obtain ⟨ts, us, hc, hc', h⟩ := hnear.rest
  refine ⟨?_⟩
  rw [atPunct, atPunct, hc, hc', startsWith_append hmark.noComma F.ends,
    startsWith_append hmark.noComma F.ends', startsWith_alike hmark.noComma h]

instance same_atWord (name : String) : Same (c.atWord name) (c'.atWord name) := by
  refine same_of_front (p := fun c => c.atWord name) (fun _ => atWord_of_ends name) ?_
  intro ts us h hts hc hc'
  simp only [atWord, hc, hc']
  cases h <;> first | rfl | contradiction

instance same_atAnyWord : Same c.atAnyWord c'.atAnyWord := by
  refine same_of_front (p := atAnyWord) (fun _ => atAnyWord_of_ends) ?_
  intro ts us h hts hc hc'
  simp only [atAnyWord, hc, hc']
  cases h <;> first | rfl | contradiction

instance same_atName : Same c.atName c'.atName := by
  refine same_of_front (p := atName) (fun _ => atName_of_ends) ?_
  intro ts us h hts hc hc'
  simp only [atName, hc, hc']
  cases h <;> first | rfl | contradiction

instance same_atGroup (d : Delimiter) : Same (c.atGroup d) (c'.atGroup d) := by
  refine same_of_front (p := fun c => c.atGroup d) (fun _ => atGroup_of_ends d) ?_
  intro ts us h hts hc hc'
  simp only [atGroup, hc, hc']
  cases h <;> first | rfl | contradiction

variable (c c') in
theorem literal?_cases : (c.literal? = none ∧ c'.literal? = none) ∨ ∃ l rest rest',
    c.literal? = some (l, rest) ∧ c'.literal? = some (l, rest') ∧
    c.rest.length - rest.length + F.behind.length ≤ c.rest.length ∧
    c'.rest.length - rest'.length = c.rest.length - rest.length := by
  cases h : c.literal? with
  | some l =>
    obtain ⟨hlength, rest', h', hcount⟩ := front_literal hnear h
    exact .inr ⟨l.1, l.2, rest', rfl, h', hlength, hcount⟩
  | none =>
    refine .inl ⟨rfl, Option.not_isSome_iff_eq_none.mp fun hsome => ?_⟩
    obtain ⟨l, h'⟩ := Option.isSome_iff_exists.mp hsome
    obtain ⟨-, _, h'', -⟩ := front_literal hnear.symm h'
    rw [h] at h''
    cases h''

instance same_atLiteral : Same c.atLiteral c'.atLiteral where
  eq := by
    unfold atLiteral
    rcases literal?_cases c c' with ⟨h, h'⟩ | ⟨_, _, _, h, h', -⟩
    · rw [h, h']
    · rw [h, h']
      rfl

variable (c c') in
theorem written_cases :
    (∃ p q text ts us, c.rest = .literal p text :: ts ∧ c'.rest = .literal q text :: us) ∨
    (∀ p text ts, c.rest ≠ .literal p text :: ts) ∧
      ∀ q text us, c'.rest ≠ .literal q text :: us := by
  have hfront {F : Frame} {c c' : Cursor} (hnear : Near F c c') {p : Pos} {text : String}
      {ts : List Token} (hc : c.rest = .literal p text :: ts) :
      ∃ q us, c'.rest = .literal q text :: us := by
    obtain ⟨ts, us, u, halike, -, hc'⟩ := front_alike hnear hc rfl
    cases halike with
    | literal _ => exact ⟨_, _, hc'⟩
  by_cases h : ∃ p text ts, c.rest = .literal p text :: ts
  · obtain ⟨p, text, ts, hc⟩ := h
    obtain ⟨q, us, hc'⟩ := hfront hnear hc
    exact .inl ⟨p, q, text, ts, us, hc, hc'⟩
  · refine .inr ⟨fun p text ts hc => h ⟨p, text, ts, hc⟩, fun q text us hc' => h ?_⟩
    obtain ⟨p, ts, hc⟩ := hfront hnear.symm hc'
    exact ⟨p, text, ts, hc⟩

instance same_any {α : Type} (xs : List α) {p q : α → Bool} [h : ∀ a, Same (p a) (q a)] :
    Same (xs.any p) (xs.any q) where
  eq := by rw [funext fun a => (h a).eq]

instance same_atLifetime : Same c.atLifetime c'.atLifetime := by
  refine same_of_front (p := atLifetime) (fun _ => atLifetime_of_ends) ?_
  intro ts us h hts hc hc'
  simp only [atLifetime, hc, hc']
  cases h with
  | nil => contradiction
  | @punct _ _ mark _ _ _ _ _ rest =>
    by_cases hmark : mark = '\''
    · subst hmark
      cases rest with
      | nil =>
        rcases F.ends.cases with h | ⟨_, _, _, h⟩ <;>
          rcases F.ends'.cases with h' | ⟨_, _, _, h'⟩ <;> simp [h, h']
      | _ => rfl
    · simp [hmark]
  | _ => rfl

section

variable [hclosed : F.Closed]
include hclosed

theorem rest_alike : Alike true c.rest c'.rest := by
  obtain ⟨ts, us, hc, hc', h⟩ := hnear.rest
  rwa [hc, hc', hclosed.out.1, hclosed.out.2, List.append_nil, List.append_nil]

instance same_atEnd : Same c.atEnd c'.atEnd where
  eq := by
    have h : Alike true c.rest c'.rest := rest_alike
    unfold atEnd
    generalize c.rest = ts, c'.rest = us at h
    cases h <;> rfl

end

/-! ## The cursor behind the next token -/

theorem near_drop {n : Nat} (h : n + F.behind.length ≤ c.rest.length) :
    Near F { c with rest := c.rest.drop n } { c' with rest := c'.rest.drop n } := by
  obtain ⟨ts, us, hc, hc', halike⟩ := hnear.rest
  have hlength := halike.length_eq
  rw [hc, List.length_append] at h
  refine ⟨⟨ts.drop n, us.drop n, ?_, ?_, halike.drop n⟩, hnear.taken, hnear.stray⟩
  · rw [hc, List.drop_append_of_le_length (by omega)]
  · rw [hc', List.drop_append_of_le_length (by omega)]

theorem near_advance {n : Nat} (h : n + F.behind.length ≤ c.rest.length) :
    Near F (c.advance n) (c'.advance n) := by
  refine ⟨(near_drop h).rest, ?_, hnear.stray⟩
  obtain ⟨ts, us, hc, hc', halike⟩ := hnear.rest
  obtain ⟨vs, ws, htaken, htaken', hbefore⟩ := hnear.taken
  have hlength := halike.length_eq
  rw [hc, List.length_append] at h
  refine ⟨(ts.take n).reverse ++ vs, (us.take n).reverse ++ ws, ?_, ?_,
    (halike.unspaced.take n).reverse.append hbefore⟩
  · rw [advance, hc, htaken, List.take_append_of_le_length (by omega), List.append_assoc]
  · rw [advance, hc', htaken', List.take_append_of_le_length (by omega), List.append_assoc]

omit hnear in
theorem next_eq (c : Cursor) :
    c.next = { c with rest := c.rest.drop (if c.atLifetime then 2 else 1) } := by
  obtain ⟨rest, stop, taken, stray⟩ := c
  unfold next atLifetime
  cases rest with
  | nil => rfl
  | cons t ts =>
    cases t with
    | punct p mark j =>
      by_cases hmark : mark = '\''
      · subst hmark
        match ts with
        | [] => rfl
        | .word .. :: _ => rfl
        | .punct .. :: _ => rfl
        | .literal .. :: _ => rfl
        | .group .. :: _ => rfl
      · simp [hmark]
    | _ => rfl

instance near_next [Ahead c] : Near F c.next c'.next := by
  have hsame : Same c.atLifetime c'.atLifetime := inferInstance
  rw [next_eq, next_eq, ← hsame.eq]
  split
  · rename_i hlifetime
    exact near_drop (length_of_atLifetime hnear hlifetime)
  · exact near_drop (length_of_ahead hnear)

omit hnear in
theorem next_next_of_atPunct_colons (h : c.atPunct "::" = true) :
    c.next.next = { c with rest := c.rest.drop 2 } := by
  obtain ⟨rest, stop, taken, stray⟩ := c
  obtain ⟨p, j, q, k, us, rfl⟩ := startsWith_pair h
  rfl

theorem near_next_next (h : c.atPunct "::" = true) : Near F c.next.next c'.next.next := by
  have hsame : Same (c.atPunct "::") (c'.atPunct "::") := inferInstance
  rw [next_next_of_atPunct_colons h, next_next_of_atPunct_colons (hsame.eq ▸ h)]
  exact near_drop (length_of_atPunct hnear h)

/-! ## Written text -/

theorem near_fresh : Near F.fresh { c with taken := [] } { c' with taken := [] } :=
  ⟨hnear.rest, ⟨[], [], rfl, rfl, .nil⟩, hnear.stray⟩

theorem near_of_fresh {e e' : Cursor} (h : Near F.fresh e e') :
    Near F { e with taken := c.taken } { e' with taken := c'.taken } :=
  ⟨h.rest, hnear.taken, h.stray⟩

omit hnear

theorem alike_of_fresh (h : Near F.fresh c c') : Alike false c.taken.reverse c'.taken.reverse := by
  obtain ⟨ts, us, htaken, htaken', halike⟩ := h.taken
  rw [htaken, htaken']
  simpa [Frame.fresh] using halike.reverse

/-! ## Tests -/

variable {p p' q q' : Bool}

instance (priority := low) same_refl (p : Bool) : Same p p := ⟨rfl⟩

instance same_not [h : Same p p'] : Same (!p) (!p') := ⟨by rw [h.eq]⟩

instance same_or [h : Same p p'] [h' : Same q q'] : Same (p || q) (p' || q') :=
  ⟨by rw [h.eq, h'.eq]⟩

instance same_and [h : Same p p'] [h' : Same q q'] : Same (p && q) (p' && q') :=
  ⟨by rw [h.eq, h'.eq]⟩

theorem same_and_of [hp : Same p p'] (h : p = true → Same q q') : Same (p && q) (p' && q') where
  eq := by
    rw [← hp.eq]
    cases p with
    | false => rfl
    | true => rw [(h rfl).eq]

end FieldAtlas.Source
