import FieldAtlas.Proofs.Source.Statements
import FieldAtlas.Source.Grammar

/-!
# The grammar is steady

The rules are closed up level by level. Each level is steady if the one below it is, and the lowest
one reads nothing at all.
-/

namespace FieldAtlas.Source.Grammar

open Reading

/-! ## Bounds in front of nothing -/

section

variable (rules : Rules) {c d : Cursor} (hends : Ends c.rest)
include hends

theorem eq_of_punct?_of_ends {text : String} [Mark text] {b : Bool}
    (h : (punct? text).run c = .ok (b, d)) : b = false ∧ d = c := by
  obtain ⟨rfl, rfl⟩ := run_punct?_ok_iff.mp h
  rw [atPunct_of_ends text hends]
  exact ⟨rfl, rfl⟩

theorem run_name_of_ends {w : Pos × String} : name.run c ≠ .ok (w, d) := by
  intro h
  unfold name at h
  rw [run_from] at h
  split at h
  · rename_i hc
    rcases hends.cases with hend | ⟨_, _, _, hend⟩ <;> rw [hc] at hend <;> cases hend
  · exact run_ne_ok h

theorem run_path_of_ends (inExpr : Bool) {p : PathShape} :
    (path rules inExpr).run c ≠ .ok (p, d) := by
  intro h
  unfold path at h
  obtain ⟨_, _, hmark, hrest⟩ := run_bind_ok_iff.mp h
  obtain ⟨rfl, rfl⟩ := eq_of_punct?_of_ends hends hmark
  obtain ⟨_, _, hsegment, -⟩ := run_bind_ok_iff.mp hrest
  rw [segment_eq, run_from, if_neg (by simp [atWord_of_ends _ hends]),
    if_neg (by simp [atWord_of_ends _ hends])] at hsegment
  obtain ⟨_, _, hname, -⟩ := run_bind_ok_iff.mp hsegment
  exact run_name_of_ends hends hname

theorem run_traitBound_of_ends {u : Unit} : (traitBound rules).run c ≠ .ok (u, d) := by
  intro h
  unfold traitBound at h
  rw [run_from, if_neg (by simp [atWord_of_ends _ hends])] at h
  obtain ⟨_, _, hmark, hquestion⟩ := run_bind_ok_iff.mp h
  obtain ⟨rfl, rfl⟩ := eq_of_punct?_of_ends hends hmark
  rw [if_neg (by simp)] at hquestion
  obtain ⟨_, _, hdiscard, hbinder⟩ := run_bind_ok_iff.mp hquestion
  obtain ⟨_, hmark, -⟩ := run_map_ok_iff.mp hdiscard
  obtain ⟨rfl, rfl⟩ := eq_of_punct?_of_ends hends hmark
  rw [run_from, if_neg (by simp [atWord_of_ends _ hends])] at hbinder
  obtain ⟨_, _, hpath, -⟩ := run_bind_ok_iff.mp hbinder
  exact run_path_of_ends rules hends false hpath

theorem run_bound_of_ends (capturing : Bool) {trait : Bool} :
    (bound rules capturing).run c ≠ .ok (trait, d) := by
  intro h
  unfold bound at h
  rw [run_from, if_neg (by simp [atLifetime_of_ends hends]),
    if_neg (by simp [atWord_of_ends _ hends]), if_neg (by simp [atGroup_of_ends _ hends])] at h
  obtain ⟨_, _, htrait, -⟩ := run_bind_ok_iff.mp h
  exact run_traitBound_of_ends rules hends htrait

end

/-! ## The levels -/

instance allSteady_none : Rules.none.AllSteady where
  type _ := inferInstanceAs (Steady (failExpected ["type"]))
  bound _ := inferInstanceAs (Steady (failExpected ["bound"]))
  bound_ends _ _ _ _ _ := run_ne_ok (r := failExpected ["bound"])
  statements := inferInstanceAs (SteadyInside (failExpected ["statement"]))
  forward_statements := inferInstanceAs (Forward (failExpected ["statement"]))
  expr _ := inferInstanceAs (Steady (fail "expected an expression"))
  unary _ := inferInstanceAs (Steady (fail "expected an expression"))
  early := inferInstanceAs (SteadyInside (fail "expected an expression"))
  climb _ _ s := ⟨fun _ _ _ _ => steady_pure_eq s⟩
  pattern _ _ _ _ := steady_of_fails (r := failExpected ["pattern"])

instance allSteady_deeper (rules : Rules) [rules.AllSteady] : rules.deeper.AllSteady where
  type plus := { at_near := fun _ _ _ _ => steady_typeRule rules plus }
  bound capturing := { at_near := fun _ _ _ _ => steady_boundRule rules capturing }
  bound_ends capturing _ _ _ hends := run_bound_of_ends rules hends capturing
  statements := steadyInside_statements rules
  forward_statements := inferInstanceAs (Forward (Grammar.statements rules))
  expr struct := { at_near := fun _ _ _ _ => steady_exprRule rules struct }
  unary struct := { at_near := fun _ _ _ _ => steady_unaryRule rules struct }
  early := ⟨fun _ _ _ _ _ => steady_earlyRule rules⟩
  climb struct base shape := { at_near := fun _ _ _ _ => steady_climbRule rules struct base shape }
  pattern _ _ _ _ := steady_patternRule rules

/-- However deep it goes, the grammar is steady. -/
instance allSteady_within (depth : Nat) : (Rules.within depth).AllSteady := by
  induction depth with
  | zero => exact allSteady_none
  | succ depth _ => exact allSteady_deeper (Rules.within depth)

instance allSteady_for (count : Nat) : (Rules.for count).AllSteady :=
  allSteady_within (8 * count + 16)

end FieldAtlas.Source.Grammar
