import FieldAtlas.Naming

/-!
# Names that camel case keeps apart

Camel case drops underscores and the difference between capitals, so it may give one name to two. It
can be undone for names of small letters and digits where a letter follows each underscore.
-/

namespace FieldAtlas.Naming

open FieldAtlas.Text

/-- Each capital becomes an underscore and the small letter. -/
def uncapitalized (c : Char) : List Char := if c.isUpper then ['_', c.toLower] else [c]

def snake (cs : List Char) : List Char := cs.flatMap uncapitalized

def isSmall (c : Char) : Bool := c.isLower || c.isDigit

/-- A letter comes first. -/
def Word (s : List Char) : Prop := ∃ c t, s = c :: t ∧ c.isLower = true ∧ ∀ d ∈ t, isSmall d = true

/-- Small letters and digits, with a letter after each underscore. -/
def Plain (cs : List Char) : Prop :=
  ∃ first rest, segments cs = first :: rest ∧ (∀ c ∈ first, isSmall c = true) ∧ ∀ s ∈ rest, Word s

theorem segments_join (cs : List Char) :
    ∃ first rest, segments cs = first :: rest ∧ cs = first ++ rest.flatMap fun s => '_' :: s := by
  induction cs with
  | nil => exact ⟨[], [], rfl, rfl⟩
  | cons c cs ih =>
    obtain ⟨first, rest, hsegments, hjoin⟩ := ih
    by_cases hc : c = '_'
    · refine ⟨[], first :: rest, by rw [segments, if_pos hc, hsegments], ?_⟩
      rw [List.flatMap_cons, List.nil_append, List.cons_append, ← hjoin, hc]
    · refine ⟨c :: first, rest, by rw [segments, if_neg hc, hsegments], ?_⟩
      rw [List.cons_append, ← hjoin]

/-! ## Letters -/

theorem ascii_all {P : Char → Prop} (h : ∀ n : Fin 128, P (Char.ofNat n)) {c : Char}
    (hc : c.toNat < 128) : P c := by
  have hp := h ⟨c.toNat, hc⟩
  rwa [Char.ofNat_toNat] at hp

theorem ascii_of_isSmall {c : Char} (h : isSmall c = true) : c.toNat < 128 := by
  have hrange : ((c.val ≥ 97 && c.val ≤ 122) || (c.val ≥ 48 && c.val ≤ 57)) = true := h
  simp only [Bool.or_eq_true, Bool.and_eq_true, decide_eq_true_eq, UInt32.le_iff_toNat_le] at hrange
  have hval : c.toNat = c.val.toNat := rfl
  have hz : (122 : UInt32).toNat = 122 := rfl
  have hnine : (57 : UInt32).toNat = 57 := rfl
  omega

theorem isSmall_of_isLower {c : Char} (h : c.isLower = true) : isSmall c = true := by
  rw [isSmall, h, Bool.true_or]

theorem uncapitalized_small {c : Char} (h : isSmall c = true) : uncapitalized c = [c] := by
  have hc := ascii_of_isSmall h
  revert h
  exact ascii_all (P := fun c => isSmall c = true → uncapitalized c = [c]) (by decide) hc

theorem toLower_small {c : Char} (h : isSmall c = true) : c.toLower = c := by
  have hc := ascii_of_isSmall h
  revert h
  exact ascii_all (P := fun c => isSmall c = true → c.toLower = c) (by decide) hc

theorem uncapitalized_toUpper {c : Char} (h : c.isLower = true) :
    uncapitalized c.toUpper = ['_', c] := by
  have hc := ascii_of_isSmall (isSmall_of_isLower h)
  revert h
  exact ascii_all (P := fun c => c.isLower = true → uncapitalized c.toUpper = ['_', c]) (by decide) hc

/-! ## Back from camel case -/

theorem snake_small {cs : List Char} (h : ∀ c ∈ cs, isSmall c = true) : snake cs = cs := by
  induction cs with
  | nil => rfl
  | cons c cs ih =>
    rw [List.forall_mem_cons] at h
    rw [snake, List.flatMap_cons, uncapitalized_small h.1]
    exact congrArg (c :: ·) (ih h.2)

theorem capitalized_small {c : Char} {t : List Char} (hc : isSmall c = true)
    (ht : ∀ d ∈ t, isSmall d = true) : capitalized (c :: t) = c.toUpper :: t := by
  have hlower : t.map Char.toLower = t := by
    rw [List.map_congr_left fun d hd => toLower_small (ht d hd), List.map_id']
  rw [capitalized, CaseMap.upper_ascii (ascii_of_isSmall hc),
    CaseMap.lowerAll_ascii t fun d hd => ascii_of_isSmall (ht d hd), hlower, List.singleton_append]

theorem snake_capitalized {s : List Char} (h : Word s) : snake (capitalized s) = '_' :: s := by
  obtain ⟨c, t, rfl, hc, ht⟩ := h
  rw [capitalized_small (isSmall_of_isLower hc) ht, snake, List.flatMap_cons, uncapitalized_toUpper hc]
  exact congrArg (fun t => '_' :: c :: t) (snake_small ht)

theorem snake_words {ss : List (List Char)} (h : ∀ s ∈ ss, Word s) :
    snake (ss.flatMap capitalized) = ss.flatMap fun s => '_' :: s := by
  induction ss with
  | nil => rfl
  | cons s ss ih =>
    rw [List.forall_mem_cons] at h
    rw [List.flatMap_cons, List.flatMap_cons, ← ih h.2, ← snake_capitalized h.1, snake, snake, snake,
      List.flatMap_append]

theorem snake_camel {cs : List Char} (h : Plain cs) : snake (camel cs) = cs := by
  obtain ⟨first, rest, hsegments, hfirst, hrest⟩ := h
  obtain ⟨first', rest', hsegments', hjoin⟩ := segments_join cs
  obtain ⟨rfl, rfl⟩ := List.cons.inj (hsegments.symm.trans hsegments')
  have hcamel : camel cs = first ++ rest.flatMap capitalized := by rw [camel, hsegments]
  calc snake (camel cs) = snake first ++ snake (rest.flatMap capitalized) := by
        rw [hcamel, snake, List.flatMap_append, ← snake, ← snake]
    _ = first ++ rest.flatMap fun s => '_' :: s := by rw [snake_small hfirst, snake_words hrest]
    _ = cs := hjoin.symm

theorem toCamelCase_inj {a b : String} (ha : Plain a.toList) (hb : Plain b.toList)
    (h : toCamelCase a = toCamelCase b) : a = b := by
  have hcamel : camel a.toList = camel b.toList := by
    simpa [toCamelCase] using congrArg String.toList h
  rw [String.ext_iff, ← snake_camel ha, hcamel, snake_camel hb]

end FieldAtlas.Naming
