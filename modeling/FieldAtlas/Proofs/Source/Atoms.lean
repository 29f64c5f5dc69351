import FieldAtlas.Proofs.Source.Expressions

/-!
# Steady simple expressions

Whether `for` starts a loop or the parameters of a closure is seen behind the first name between the
angles. If a comma stands there, or nothing, then it may be seen in front of one cursor alone. It is
of no consequence: a loop needs a block and a closure needs a bar, and neither is there.
-/

namespace FieldAtlas.Source

/-! ## Tokens that have to be there -/

/-- A bar or a group. -/
def Token.isBarOrGroup : Token → Bool
  | .punct _ '|' _ => true
  | .group .. => true
  | _ => false

namespace Reading

variable {α β : Type}

/-- A reading that does not go well unless it reads a bar or a group. -/
class Meets (r : Reading α) : Prop where
  out : ∀ {c a d}, r.run c = .ok (a, d) → ∃ us t vs, c.rest = us ++ t :: vs ∧
    t.isBarOrGroup = true ∧ d.rest.length ≤ vs.length

instance meets_first {r : Reading α} {f : α → Reading β} [hr : Meets r] [hf : ∀ a, Forward (f a)] :
    Meets (r >>= f) where
  out h := by
    obtain ⟨a, d, hfirst, h⟩ := run_bind_ok_iff.mp h
    obtain ⟨us, t, vs, hc, ht, hd⟩ := hr.out hfirst
    exact ⟨us, t, vs, hc, ht, Nat.le_trans ((hf a).out h).1 hd⟩

instance (priority := low) meets_behind {r : Reading α} {f : α → Reading β} [hr : Onward r]
    [hf : ∀ a, Meets (f a)] : Meets (r >>= f) where
  out h := by
    obtain ⟨a, d, hfirst, h⟩ := run_bind_ok_iff.mp h
    obtain ⟨us, t, vs, hd, ht, he⟩ := (hf a).out h
    obtain ⟨ts, hts⟩ := hr.suffix hfirst
    exact ⟨ts ++ us, t, vs, by rw [← hts, hd, List.append_assoc], ht, he⟩

instance meets_ite {p : Prop} [Decidable p] {r s : Reading α} [Meets r] [Meets s] :
    Meets (if p then r else s) := by
  split <;> infer_instance

instance meets_group {d : Delimiter} {r : Reading α} : Meets (group d r) where
  out h := by
    obtain ⟨opened, inner, closed, rest, i, hc, -, rfl⟩ := run_group_ok_iff.mp h
    exact ⟨[], _, rest, hc, rfl, Nat.le_refl _⟩

instance meets_bar : Meets (punct "|") where
  out {c a d} h := by
    obtain ⟨hbar, rfl⟩ := run_punct_ok_iff.mp h
    obtain ⟨p, j, ts, hc⟩ := Cursor.startsWith_single hbar
    refine ⟨[], _, ts, hc, rfl, ?_⟩
    rw [Cursor.advance, hc]
    exact Nat.le_refl _

theorem over_of_meets {F : Frame} {r : Reading α} [hr : Meets r] {c d : Cursor} {a : α}
    {ts : List Token} (hc : c.rest = ts ++ F.behind) (hts : ∀ t ∈ ts, t.isBarOrGroup = false)
    (hrun : r.run c = .ok (a, d)) : F.Over d := by
  obtain ⟨us, t, vs, hc', ht, hd⟩ := hr.out hrun
  refine Nat.lt_of_le_of_lt hd ?_
  rcases List.append_eq_append_iff.mp (hc.symm.trans hc') with ⟨ws, -, hws⟩ | ⟨ws, hus, hws⟩
  · simp only [hws, List.length_append, List.length_cons]
    omega
  · cases ws with
    | nil =>
      rw [List.nil_append] at hws
      simp [← hws]
    | cons w ws =>
      obtain ⟨rfl, -⟩ := List.cons.inj hws
      rw [hts t (by simp [hus])] at ht
      cases ht

end Reading

namespace Grammar

open Reading

set_option synthInstance.maxSize 100000

variable (rules : Rules) [hrules : rules.AllSteady] {F : Frame} {c c' : Cursor}
  [hnear : Near F c c']

instance meets_forExpr : Meets (forExpr rules) := by
  unfold forExpr attributedBlock
  infer_instance

instance meets_closure (struct : Bool) : Meets (closure rules struct) := by
  unfold closure
  dsimp only
  infer_instance

/-! ## Parameters of closures -/

omit hrules hnear in
theorem front_of_atWord {name : String} (h : c.atWord name = true) :
    ∃ p ts, c.rest = .word p name :: ts := by
  unfold Cursor.atWord at h
  split at h
  · rename_i hc
    exact ⟨_, _, by rw [hc, eq_of_beq h]⟩
  · cases h

omit hrules hnear in
theorem front_of_atName (h : (c.atLifetime || c.atName) = true) :
    ∃ us, c.rest = us ++ c.next.rest ∧ ∀ t ∈ us, t.isBarOrGroup = false := by
  rcases Bool.or_eq_true_iff.mp h with h | h
  · unfold Cursor.atLifetime at h
    split at h
    · rename_i p j q w ts hc
      exact ⟨[.punct p '\'' j, .word q w], by simp [Cursor.next, hc], by simp [Token.isBarOrGroup]⟩
    · cases h
  · unfold Cursor.atName at h
    split at h
    · rename_i p w ts hc
      exact ⟨[.word p w], by simp [Cursor.next, hc], by simp [Token.isBarOrGroup]⟩
    · cases h

omit hrules in
theorem same_startsBinder (h : (c.atWord "for" && c.next.atPunct "<") = true →
    (c.next.next.atLifetime || c.next.next.atName) = true →
    c.next.next.next.rest ≠ F.behind) : Same (startsBinder c) (startsBinder c') := by
  have hfront : Same (c.atWord "for" && c.next.atPunct "<")
      (c'.atWord "for" && c'.next.atPunct "<") := same_behind fun _ => inferInstance
  unfold startsBinder
  dsimp only
  refine same_and_of fun hfor => ?_
  obtain ⟨hword, hangle⟩ := Bool.and_eq_true_iff.mp hfor
  have : Ahead c := Guards.ahead hword
  have : Ahead c.next := Guards.ahead hangle
  have : Same ((c.next.next.atLifetime || c.next.next.atName) &&
        (c.next.next.next.atAny [">", ",", "="] ||
          (c.next.next.next.atPunct ":" && !c.next.next.next.atPunct "::")))
      ((c'.next.next.atLifetime || c'.next.next.atName) &&
        (c'.next.next.next.atAny [">", ",", "="] ||
          (c'.next.next.next.atPunct ":" && !c'.next.next.next.atPunct "::"))) := by
    refine same_and_of fun hname => ?_
    have : Ahead c.next.next := Guards.ahead hname
    have : Same (c.next.next.next.atPunct ",") (c'.next.next.next.atPunct ",") :=
      same_atComma (h hfor hname)
    unfold Cursor.atAny
    simp only [List.any_cons, List.any_nil]
    infer_instance
  infer_instance

instance same_startsBinder_inside [F.Closed] : Same (startsBinder c) (startsBinder c') := by
  unfold startsBinder Cursor.atAny
  simp only [List.any_cons, List.any_nil]
  infer_instance

omit hrules in
variable (c c') in
/-- What `for` starts is the same, unless there are only angles and a name in front. -/
theorem startsBinder_cases : Same (startsBinder c) (startsBinder c') ∨
    ∃ p ts, c.rest = .word p "for" :: (ts ++ F.behind) ∧ ∀ t ∈ ts, t.isBarOrGroup = false := by
  by_cases h : (c.atWord "for" && c.next.atPunct "<") = true ∧
      (c.next.next.atLifetime || c.next.next.atName) = true ∧ c.next.next.next.rest = F.behind
  · obtain ⟨hfor, hname, hbehind⟩ := h
    obtain ⟨hword, hangle⟩ := Bool.and_eq_true_iff.mp hfor
    obtain ⟨p, ts, hc⟩ := front_of_atWord hword
    obtain ⟨q, j, us, hnext⟩ := Cursor.startsWith_single (a := '<') hangle
    obtain ⟨vs, hinner, hvs⟩ := front_of_atName hname
    refine .inr ⟨p, .punct q '<' j :: vs, ?_, ?_⟩
    · rw [hc, List.cons_append, ← hbehind, ← hinner]
      have hts : c.next.rest = ts := by simp [Cursor.next, hc]
      have hus : c.next.next.rest = us := by
        rw [next_eq c.next]
        simp [hnext, Cursor.atLifetime]
      rw [hus, ← hnext, hts]
    · exact List.forall_mem_cons.mpr ⟨rfl, hvs⟩
  · exact .inl (same_startsBinder fun hfor hname hbehind => h ⟨hfor, hname, hbehind⟩)

/-! ## Simple expressions -/

omit hrules hnear in
/-- A `for` starts a closure or a loop. -/
theorem run_atom_for {p : Pos} {ts : List Token} (hc : c.rest = .word p "for" :: ts)
    (struct : Bool) : (atom rules struct).run c = StateT.run
      (if startsBinder c then plainly (closure rules struct) else blocky (forExpr rules)) c := by
  have hliteral : c.literal? = none := by simp [Cursor.literal?, hc]
  have hword (name : String) : c.atWord name = ("for" == name) := by rw [Cursor.atWord, hc]
  have hgroup (d : Delimiter) : c.atGroup d = false := by rw [Cursor.atGroup, hc]
  have hpunct (text : String) [hmark : Mark text] : c.atPunct text = false := by
    obtain ⟨m, cs, hcs⟩ := List.exists_cons_of_ne_nil hmark.filled
    rw [Cursor.atPunct, hc, hcs]
    cases cs <;> rfl
  have hlifetime : c.atLifetime = false := by rw [Cursor.atLifetime, hc]
  have hname : c.atName = false := by
    rw [Cursor.atName, hc]
    rfl
  unfold atom
  rw [StateT.run_bind]
  change StateT.run _ c = _
  simp only [hliteral, startsAsyncBlock, startsClosure, startsPathExpr, startsSegment,
    Cursor.atPathKeyword, hword, hgroup, hpunct, hlifetime, hname]
  cases startsBinder c <;> simp [hword]

instance same_startsAsyncBlock : Same (startsAsyncBlock c) (startsAsyncBlock c') := by
  unfold startsAsyncBlock
  refine same_behind fun _ => ?_
  have : Same (c.next.atWord "move" && c.next.next.atGroup .braces)
      (c'.next.atWord "move" && c'.next.next.atGroup .braces) := same_behind fun _ => inferInstance
  infer_instance

instance same_startsPathExpr : Same (startsPathExpr c) (startsPathExpr c') := by
  have : Same (c.atWord "try" && (c.next.atPunct "!" || c.next.atPunct "::"))
      (c'.atWord "try" && (c'.next.atPunct "!" || c'.next.atPunct "::")) :=
    same_behind fun _ => inferInstance
  unfold startsPathExpr
  infer_instance

instance same_startsClosure [Same (startsBinder c) (startsBinder c')] :
    Same (startsClosure c) (startsClosure c') := by
  have : Same (c.atWord "const" && !c.next.atGroup .braces)
      (c'.atWord "const" && !c'.next.atGroup .braces) := same_behind fun _ => inferInstance
  have : Same (c.atWord "async" && (c.next.atPunct "|" || c.next.atWord "move"))
      (c'.atWord "async" && (c'.next.atPunct "|" || c'.next.atWord "move")) :=
    same_behind fun _ => inferInstance
  unfold startsClosure
  infer_instance

omit hrules in
theorem steady_literalExpr {l : Literal} {rest rest' : List Token}
    (hlength : c.rest.length - rest.length + F.behind.length ≤ c.rest.length)
    (hcount : c'.rest.length - rest'.length = c.rest.length - rest.length) :
    SteadyAt F c c' Eq (literalExpr l rest) (literalExpr l rest') := by
  unfold literalExpr
  refine steady_from ?_
  rw [hcount]
  refine steady_bind (steady_take hlength) (fun _ _ d d' _ _ => ?_) fun _ => ?_
  · rcases written_cases c c' with ⟨p, q, text, ts, us, hc, hc'⟩ | ⟨hc, hc'⟩
    · simp only [hc, hc']
      cases l <;> infer_instance
    · split
      · exact absurd ‹_› (hc _ _ _)
      · split
        · exact absurd ‹_› (hc' _ _ _)
        · infer_instance
  · split <;> infer_instance

instance (priority := high) steady_ite_plainly_take {p p' : Bool} {s s' : Reading Shape}
    [Same p p'] [hguards : Guards p c] [hs : SteadyAt F c c' Eq s s'] :
    SteadyAt F c c' Eq (if p then plainly (take 1) else s)
      (if p' then plainly (take 1) else s') := by
  refine steady_ite_of (fun hp => ?_) hs
  have := hguards.ahead hp
  infer_instance

instance steady_atom (struct : Bool) :
    SteadyAt F c c' Eq (atom rules struct) (atom rules struct) := by
  rcases startsBinder_cases c c' with hsame | ⟨p, ts, hc, hts⟩
  · unfold atom
    refine steady_from ?_
    rcases literal?_cases c c' with ⟨h, h'⟩ | ⟨l, rest, rest', h, h', hlength, hcount⟩
    · have : Same (c.atWord "try" && c.next.atGroup .braces)
          (c'.atWord "try" && c'.next.atGroup .braces) := same_behind fun _ => inferInstance
      have : Same (c.atWord "builtin" && c.next.atPunct "#")
          (c'.atWord "builtin" && c'.next.atPunct "#") := same_behind fun _ => inferInstance
      simp only [h, h']
      infer_instance
    · simp only [h, h']
      exact steady_literalExpr hlength hcount
  · -- The other cursor may see another form here, but this one goes over in either.
    refine ⟨fun hrun => .inl ?_⟩
    rw [run_atom_for rules hc] at hrun
    have hfront : ∀ t ∈ Token.word p "for" :: ts, t.isBarOrGroup = false :=
      List.forall_mem_cons.mpr ⟨rfl, hts⟩
    split at hrun
    · have : Meets (plainly (closure rules struct)) := by
        unfold plainly
        infer_instance
      exact over_of_meets hc hfront hrun
    · have : Meets (blocky (forExpr rules)) := by
        unfold blocky
        infer_instance
      exact over_of_meets hc hfront hrun

instance steady_unaryRule (struct : Bool) :
    SteadyAt F c c' Eq (unary rules struct) (unary rules struct) := by
  unfold unary
  dsimp only
  refine steady_then (fun _ d d' _ => steady_from ?_) fun _ => inferInstance
  refine steady_ite_of (fun _ => ?_) inferInstance
  refine steady_then (fun _ e e' _ => steady_from ?_) fun _ => inferInstance
  have : Same (e.atWord "raw" && (e.next.atWord "mut" || e.next.atWord "const"))
      (e'.atWord "raw" && (e'.next.atWord "mut" || e'.next.atWord "const")) :=
    same_behind fun _ => inferInstance
  infer_instance

instance same_startsBlock [F.Closed] : Same (startsBlock c) (startsBlock c') := by
  unfold startsBlock
  infer_instance

instance steady_earlyRule [F.Closed] :
    SteadyAt F c c' Eq (Grammar.early rules) (Grammar.early rules) := by
  unfold Grammar.early
  dsimp only
  infer_instance

end Grammar

end FieldAtlas.Source
