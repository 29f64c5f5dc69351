import FieldAtlas.Proofs.Naming
import Mathlib.Data.Set.Function

/-!
# Snake case and mixed case

Names of small words with underscores between them and names in mixed case stand for one another.
Camel case leads from the ones to the others, and back each capital starts a new word.
-/

namespace FieldAtlas.Naming

/-- Words of small letters and digits with one underscore between each two, where every word after
the first starts with a letter. -/
def SnakeCase (name : String) : Prop :=
  ∃ first rest, name.toList = ['_'].intercalate (first :: rest) ∧ first ≠ [] ∧
    (∀ c ∈ first, isSmall c = true) ∧ ∀ s ∈ rest, Word s

/-- Letters and digits, and no capital at the start. -/
def MixedCase (name : String) : Prop :=
  ∃ c cs, name.toList = c :: cs ∧ isSmall c = true ∧ ∀ d ∈ cs, d.isAlphanum = true

/-- Splits a name before each capital, which becomes small. -/
def toSnakeCase (name : String) : String := String.ofList (snake name.toList)

/-! ## Letters -/

theorem ascii_of_isUpper {c : Char} (h : c.isUpper = true) : c.toNat < 128 := by
  have hrange : (decide (c.val ≥ 65 ∧ c.val ≤ 90)) = true := h
  simp only [decide_eq_true_eq, ge_iff_le, UInt32.le_iff_toNat_le] at hrange
  have hval : c.toNat = c.val.toNat := rfl
  have hz : (90 : UInt32).toNat = 90 := rfl
  omega

theorem isAlphanum_eq (c : Char) : c.isAlphanum = (c.isUpper || isSmall c) := Bool.or_assoc ..

theorem isUpper_of_isAlphanum {c : Char} (h : c.isAlphanum = true) (hc : isSmall c = false) :
    c.isUpper = true := by
  rwa [isAlphanum_eq, hc, Bool.or_false] at h

theorem isAlphanum_of_isSmall {c : Char} (h : isSmall c = true) : c.isAlphanum = true := by
  rw [isAlphanum_eq, h, Bool.or_true]

theorem isAlphanum_toUpper {c : Char} (h : c.isLower = true) : c.toUpper.isAlphanum = true := by
  have hc := ascii_of_isSmall (isSmall_of_isLower h)
  revert h
  exact ascii_all (P := fun c => c.isLower = true → c.toUpper.isAlphanum = true) (by decide) hc

theorem uncapitalized_capital {c : Char} (h : c.isUpper = true) :
    uncapitalized c = ['_', c.toLower] ∧ c.toLower.isLower = true ∧ c.toLower.toUpper = c := by
  have hc := ascii_of_isUpper h
  revert h
  exact ascii_all (P := fun c => c.isUpper = true →
    uncapitalized c = ['_', c.toLower] ∧ c.toLower.isLower = true ∧ c.toLower.toUpper = c)
    (by decide) hc

theorem underscore_not_mem {cs : List Char} (h : ∀ c ∈ cs, c.isAlphanum = true) : '_' ∉ cs := by
  intro hmem
  have hunderscore := h '_' hmem
  revert hunderscore
  decide

theorem isSmall_of_word {s : List Char} (h : Word s) : ∀ c ∈ s, isSmall c = true := by
  obtain ⟨c, t, rfl, hc, ht⟩ := h
  exact List.forall_mem_cons.mpr ⟨isSmall_of_isLower hc, ht⟩

/-! ## Words and underscores -/

theorem segments_eq_splitOn (cs : List Char) : segments cs = cs.splitOn '_' := by
  induction cs with
  | nil => rfl
  | cons c cs ih =>
    rw [segments, ih, List.splitOn, List.splitOn, List.splitOnP_cons_eq_if_modifyHead]
    by_cases hc : c = '_'
    · simp [hc]
    · simp only [hc, if_false, beq_iff_eq]
      cases hsplit : cs.splitOnP (· == '_') with
      | nil => exact absurd hsplit (List.splitOnP_ne_nil _ _)
      | cons s rest => rfl

theorem intercalate_eq (first : List Char) (rest : List (List Char)) :
    ['_'].intercalate (first :: rest) = first ++ rest.flatMap fun s => '_' :: s := by
  induction rest generalizing first with
  | nil => simp
  | cons s rest ih =>
    rw [List.intercalate_cons_cons, ih, List.flatMap_cons, List.append_assoc, List.singleton_append,
      List.cons_append]

theorem camel_of_not_mem {cs : List Char} (h : '_' ∉ cs) : camel cs = cs := by
  rw [camel, segments_eq_splitOn, List.splitOn_eq_singleton h]
  exact List.append_nil cs

theorem toCamelCase_mixed {name : String} (h : MixedCase name) :
    '_' ∉ name.toList ∧ toCamelCase name = name := by
  obtain ⟨c, cs, hname, hc, hcs⟩ := h
  have hnot : '_' ∉ name.toList := by
    rw [hname]
    exact underscore_not_mem (List.forall_mem_cons.mpr ⟨isAlphanum_of_isSmall hc, hcs⟩)
  exact ⟨hnot, by rw [toCamelCase, camel_of_not_mem hnot, String.ofList_toList]⟩

/-! ## From snake case to mixed case -/

section

variable {first : List Char} {rest : List (List Char)}
  (small : ∀ c ∈ first, isSmall c = true) (words : ∀ s ∈ rest, Word s)
include small words

theorem segments_intercalate : segments (['_'].intercalate (first :: rest)) = first :: rest := by
  rw [segments_eq_splitOn]
  apply List.splitOn_intercalate _ _ (List.cons_ne_nil _ _)
  intro s hs
  apply underscore_not_mem
  rcases List.mem_cons.mp hs with rfl | hs
  · exact fun c hc => isAlphanum_of_isSmall (small c hc)
  · exact fun c hc => isAlphanum_of_isSmall (isSmall_of_word (words s hs) c hc)

theorem camel_intercalate :
    camel (['_'].intercalate (first :: rest)) = first ++ rest.flatMap capitalized := by
  rw [camel, segments_intercalate small words]

theorem isAlphanum_camel : ∀ c ∈ first ++ rest.flatMap capitalized, c.isAlphanum = true := by
  intro c hc
  rcases List.mem_append.mp hc with hc | hc
  · exact isAlphanum_of_isSmall (small c hc)
  · obtain ⟨s, hs, hc⟩ := List.mem_flatMap.mp hc
    obtain ⟨d, t, rfl, hd, ht⟩ := words s hs
    rw [capitalized_small (isSmall_of_isLower hd) ht] at hc
    rcases List.mem_cons.mp hc with rfl | hc
    · exact isAlphanum_toUpper hd
    · exact isAlphanum_of_isSmall (ht c hc)

end

theorem SnakeCase.plain {name : String} (h : SnakeCase name) : Plain name.toList := by
  obtain ⟨first, rest, hname, _, small, words⟩ := h
  exact ⟨first, rest, by rw [hname, segments_intercalate small words], small, words⟩

theorem mixedCase_toCamelCase {name : String} (h : SnakeCase name) :
    MixedCase (toCamelCase name) := by
  obtain ⟨first, rest, hname, hne, small, words⟩ := h
  obtain ⟨c, cs, rfl⟩ := List.exists_cons_of_ne_nil hne
  refine ⟨c, cs ++ rest.flatMap capitalized, ?_, small c List.mem_cons_self, ?_⟩
  · rw [toCamelCase, String.toList_ofList, hname, camel_intercalate small words, List.cons_append]
  · exact (List.forall_mem_cons.mp (isAlphanum_camel small words)).2

theorem toSnakeCase_toCamelCase {name : String} (h : SnakeCase name) :
    toSnakeCase (toCamelCase name) = name := by
  rw [toSnakeCase, toCamelCase, String.toList_ofList, snake_camel h.plain, String.ofList_toList]

/-! ## From mixed case to snake case -/

/-- The words that a name in mixed case is made of. Only one that starts with a capital has nothing
in front of the first capital. -/
theorem exists_words {cs : List Char} (h : ∀ c ∈ cs, c.isAlphanum = true) :
    ∃ first rest, snake cs = ['_'].intercalate (first :: rest) ∧
      cs = first ++ rest.flatMap capitalized ∧ (∀ c ∈ first, isSmall c = true) ∧
      (∀ s ∈ rest, Word s) ∧ ∀ c ∈ cs.head?, isSmall c = true → first ≠ [] := by
  induction cs with
  | nil => exact ⟨[], [], rfl, rfl, nofun, nofun, nofun⟩
  | cons c cs ih =>
    rw [List.forall_mem_cons] at h
    obtain ⟨first, rest, hsnake, hcamel, small, words, -⟩ := ih h.2
    have hstep : snake (c :: cs) = uncapitalized c ++ snake cs := rfl
    rw [intercalate_eq] at hsnake
    cases hc : isSmall c with
    | true =>
      refine ⟨c :: first, rest, ?_, by rw [List.cons_append, ← hcamel],
        List.forall_mem_cons.mpr ⟨hc, small⟩, words, fun _ _ _ => List.cons_ne_nil _ _⟩
      rw [hstep, uncapitalized_small hc, hsnake, intercalate_eq]
      rfl
    | false =>
      -- A capital ends the words so far, and is the first letter of the word after it.
      obtain ⟨hsplit, hlower, hupper⟩ := uncapitalized_capital (isUpper_of_isAlphanum h.1 hc)
      refine ⟨[], (c.toLower :: first) :: rest, ?_, ?_, nofun,
        List.forall_mem_cons.mpr ⟨⟨_, _, rfl, hlower, small⟩, words⟩, ?_⟩
      · rw [hstep, hsplit, hsnake, intercalate_eq]
        rfl
      · rw [List.nil_append, List.flatMap_cons,
          capitalized_small (isSmall_of_isLower hlower) small, hupper, List.cons_append, ← hcamel]
      · intro d hd hsmall
        rw [← Option.some.inj hd, hc] at hsmall
        cases hsmall

theorem snakeCase_toSnakeCase {name : String} (h : MixedCase name) :
    SnakeCase (toSnakeCase name) ∧ toCamelCase (toSnakeCase name) = name := by
  obtain ⟨c, cs, hname, hc, hcs⟩ := h
  obtain ⟨first, rest, hsnake, hcamel, small, words, hne⟩ :=
    exists_words (List.forall_mem_cons.mpr ⟨isAlphanum_of_isSmall hc, hcs⟩)
  have htext : (toSnakeCase name).toList = ['_'].intercalate (first :: rest) := by
    rw [toSnakeCase, String.toList_ofList, hname, hsnake]
  refine ⟨⟨first, rest, htext, hne c rfl hc, small, words⟩, ?_⟩
  rw [toCamelCase, htext, camel_intercalate small words, ← hcamel, ← hname, String.ofList_toList]

/-- Camel case is a one-to-one correspondence of the names in snake case with those in mixed case,
and is undone by a split before each capital. What it gives has no underscore and is not changed
again. -/
theorem camel_case_undone :
    Set.BijOn toCamelCase {n | SnakeCase n} {n | MixedCase n} ∧
      Set.InvOn toSnakeCase toCamelCase {n | SnakeCase n} {n | MixedCase n} ∧
      ∀ n, SnakeCase n →
        '_' ∉ (toCamelCase n).toList ∧ toCamelCase (toCamelCase n) = toCamelCase n := by
  have hinv : Set.InvOn toSnakeCase toCamelCase {n | SnakeCase n} {n | MixedCase n} :=
    ⟨fun _ h => toSnakeCase_toCamelCase h, fun _ h => (snakeCase_toSnakeCase h).2⟩
  refine ⟨?_, hinv, fun n h => toCamelCase_mixed (mixedCase_toCamelCase h)⟩
  exact hinv.bijOn (fun _ h => mixedCase_toCamelCase h) fun _ h => (snakeCase_toSnakeCase h).1

/-- Three words, of which the first starts with a digit. -/
theorem camel_case_undone_words : SnakeCase "2nd_user_id2" ∧
    toCamelCase "2nd_user_id2" = "2ndUserId2" ∧ toSnakeCase "2ndUserId2" = "2nd_user_id2" ∧
    '_' ∉ "2ndUserId2".toList ∧ toCamelCase "2ndUserId2" = "2ndUserId2" := by
  have hwords : ∀ s ∈ [['u', 's', 'e', 'r'], ['i', 'd', '2']], Word s :=
    List.forall_mem_cons.mpr ⟨⟨'u', ['s', 'e', 'r'], rfl, rfl, List.all_eq_true.mp rfl⟩,
      List.forall_mem_singleton.mpr ⟨'i', ['d', '2'], rfl, rfl, List.all_eq_true.mp rfl⟩⟩
  have hsnake : SnakeCase "2nd_user_id2" :=
    ⟨['2', 'n', 'd'], _, by decide, by decide, List.all_eq_true.mp rfl, hwords⟩
  obtain ⟨-, hinv, hfixed⟩ := camel_case_undone
  have hcamel : toCamelCase "2nd_user_id2" = "2ndUserId2" := by decide
  have hback := hinv.1 hsnake
  have hshown := hfixed _ hsnake
  rw [hcamel] at hback hshown
  exact ⟨hsnake, hcamel, hback, hshown⟩

end FieldAtlas.Naming
