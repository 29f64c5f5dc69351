import FieldAtlas.Declaration.Code
import FieldAtlas.Proofs.Declaration.Plan
import Mathlib.Data.List.Basic

/-!
# What can be written

A plan can be written unless one of its remarks cannot. What is written for a remark stands in the
code of the plan, be it a value or a refusal to compile.
-/

namespace FieldAtlas

open FieldAtlas.Source

namespace Code

/-! ## Code of several elements -/

section

variable {α β : Type} {write : α → Option (List String)} {x : α} {xs : List α}

theorem each_map (write : α → Option (List String)) (g : β → α) (ys : List β) :
    each write (ys.map g) = each (fun y => write (g y)) ys := by
  rw [each, each, List.mapM_map]
  rfl

theorem each_cons : each write (x :: xs) = do
    let code ← write x
    let codes ← each write xs
    return code ++ codes := by
  rw [each, each, List.mapM_cons]
  cases write x with
  | none => rfl
  | some code => cases xs.mapM write <;> rfl

theorem exists_infix_of_each {codes : List String} (h : each write xs = some codes) (hx : x ∈ xs) :
    ∃ code, write x = some code ∧ code <:+: codes := by
  induction xs generalizing codes with
  | nil => cases hx
  | cons y ys ih =>
    rw [each_cons] at h
    obtain ⟨first, hfirst, h⟩ := Option.bind_eq_some_iff.mp h
    obtain ⟨others, hothers, h⟩ := Option.bind_eq_some_iff.mp h
    obtain rfl := Option.some.inj h
    rcases List.mem_cons.mp hx with rfl | hx
    · exact ⟨first, hfirst, (List.prefix_append _ _).isInfix⟩
    · obtain ⟨code, hcode, hinfix⟩ := ih hothers hx
      exact ⟨code, hcode, hinfix.trans (List.suffix_append _ _).isInfix⟩

end

/-! ## Plans that cannot be written -/

theorem remark_of_value? {r : Remark} {v : Value} (h : r.value? = some v) :
    ∃ content, remark r = some (value content) := by
  cases r with
  | text literal s => exact ⟨_, rfl⟩
  | bool b => exact ⟨_, rfl⟩
  | int n =>
    simp only [Remark.value?, Option.ite_none_right_eq_some] at h
    simp only [remark, if_neg (Int.not_lt.mpr h.1.1), if_neg (Int.not_lt.mpr h.1.2)]
    exact ⟨_, rfl⟩
  | float d =>
    simp only [Remark.value?, Option.ite_none_right_eq_some] at h
    simp only [remark, if_pos h.1]
    exact ⟨_, rfl⟩

section

open List (infix_append_of_infix_left infix_append_of_infix_right)

variable {part content : List String}

theorem infix_parens (h : part <:+: content) : part <:+: parens content :=
  infix_append_of_infix_left (infix_append_of_infix_right h)

theorem infix_braces (h : part <:+: content) : part <:+: braces content :=
  infix_append_of_infix_left (infix_append_of_infix_right h)

theorem infix_filled (cell : String) (h : part <:+: content) : part <:+: filled cell content :=
  infix_append_of_infix_left
    (infix_append_of_infix_right (infix_parens (infix_append_of_infix_right (infix_braces h))))

/-! ## Parts of a plan -/

section

variable {p : ClassPlan} {code : List String} (h : ofPlan p = some code)
include h

theorem exists_infix_builder : ∃ b, builder p = some b ∧ b <:+: code := by
  obtain ⟨giver, hgiver, h⟩ := Option.bind_eq_some_iff.mp h
  obtain rfl := Option.some.inj h
  obtain ⟨b, hb, hgiver⟩ := Option.bind_eq_some_iff.mp hgiver
  obtain rfl := Option.some.inj hgiver
  refine ⟨b, hb, infix_append_of_infix_left (infix_append_of_infix_left ?_)⟩
  refine infix_append_of_infix_right (infix_braces ?_)
  refine infix_append_of_infix_right (infix_braces ?_)
  exact infix_append_of_infix_right (infix_filled _ (List.infix_refl b))

theorem exists_infix_fieldCall {f : FieldPlan} (hf : f ∈ p.fields) :
    ∃ c, fieldCall (spelling p.kind) f = some c ∧ c <:+: code := by
  obtain ⟨b, hb, hinfix⟩ := exists_infix_builder h
  obtain ⟨fields, hfields, hb⟩ := Option.bind_eq_some_iff.mp hb
  obtain ⟨ending, -, hb⟩ := Option.bind_eq_some_iff.mp hb
  obtain rfl := Option.some.inj hb
  obtain ⟨c, hc, hone⟩ := exists_infix_of_each hfields hf
  refine ⟨c, hc, hone.trans (List.IsInfix.trans ?_ hinfix)⟩
  exact infix_append_of_infix_left
    (infix_append_of_infix_left (infix_append_of_infix_right (List.infix_refl fields)))

theorem exists_infix_override (hp : p.kind = .compact) {o : String × List BuilderCall}
    (ho : o ∈ p.overrides) : ∃ c, override o = some c ∧ c <:+: code := by
  obtain ⟨b, hb, hinfix⟩ := exists_infix_builder h
  obtain ⟨fields, -, hb⟩ := Option.bind_eq_some_iff.mp hb
  obtain ⟨last, hlast, hb⟩ := Option.bind_eq_some_iff.mp hb
  obtain rfl := Option.some.inj hb
  rw [ending, hp] at hlast
  obtain ⟨overrides, hoverrides, hlast⟩ := Option.bind_eq_some_iff.mp hlast
  obtain rfl := Option.some.inj hlast
  obtain ⟨c, hc, hone⟩ := exists_infix_of_each hoverrides ho
  refine ⟨c, hc, hone.trans (List.IsInfix.trans ?_ hinfix)⟩
  refine infix_append_of_infix_left (infix_append_of_infix_right ?_)
  exact infix_append_of_infix_left (infix_append_of_infix_left (List.infix_refl overrides))

end

variable {r : Remark} {written : List String} (hwritten : remark r = some written)
include hwritten

end

end Code

end FieldAtlas
