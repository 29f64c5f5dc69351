import FieldAtlas.Field.Table
import Mathlib.Data.List.Find

/-!
# Tables of fields as maps from names

Putting a field changes what stands under its name and nothing else. The names stay distinct, and
keep their seats.
-/

namespace FieldAtlas.Table

variable {α β : Type} (name : α → String)

/-! ## What stands under a name -/

theorem find?_put (x : α) (t : List α) (n : String) :
    (put name x t).find? (fun y => name y == n) =
      if name x = n then some x else t.find? fun y => name y == n := by
  induction t with
  | nil => by_cases h : name x = n <;> simp [put, h]
  | cons y ys ih =>
    by_cases hy : name y = name x
    · by_cases h : name x = n <;> simp [put, hy, h]
    · by_cases h : name y = n
      · have : ¬ name x = n := fun hx => hy (h.trans hx.symm)
        rw [put, if_neg hy]
        simp [h, this]
      · simp [put, hy, h, ih]

theorem find?_putAll {xs : List α} (hxs : (xs.map name).Nodup) (t : List α) (n : String) :
    (putAll name t xs).find? (fun y => name y == n) =
      (xs.find? fun y => name y == n).or (t.find? fun y => name y == n) := by
  induction xs generalizing t with
  | nil => simp [putAll]
  | cons x xs ih =>
    rw [List.map_cons, List.nodup_cons] at hxs
    have hstep : putAll name t (x :: xs) = putAll name (put name x t) xs := rfl
    rw [hstep, ih hxs.2, find?_put]
    by_cases h : name x = n
    · have hnone : (xs.find? fun y => name y == n) = none := by
        rw [List.find?_eq_none]
        intro y hy hyn
        exact hxs.1 (by rw [h, ← eq_of_beq hyn]; exact List.mem_map_of_mem hy)
      simp [h, hnone]
    · simp [h]

theorem find?_of_mem {t : List α} (ht : (t.map name).Nodup) {x : α} (hx : x ∈ t) :
    (t.find? fun y => name y == name x) = some x := by
  induction t with
  | nil => simp at hx
  | cons y ys ih =>
    rw [List.map_cons, List.nodup_cons] at ht
    rcases List.mem_cons.mp hx with rfl | hx
    · simp
    · have : name y ≠ name x := fun h => ht.1 (h ▸ List.mem_map_of_mem hx)
      simp [this, ih ht.2 hx]

theorem isSome_find?_iff (t : List α) (n : String) :
    (t.find? fun y => name y == n).isSome ↔ n ∈ t.map name := by
  simp [List.find?_isSome]

/-! ## Entries -/

theorem mem_of_mem_put {x y : α} {t : List α} (h : y ∈ put name x t) : y = x ∨ y ∈ t := by
  induction t with
  | nil => exact Or.inl (List.mem_singleton.mp h)
  | cons z zs ih =>
    rw [put] at h
    split at h
    · exact (List.mem_cons.mp h).imp_right (List.mem_cons_of_mem _)
    · rcases List.mem_cons.mp h with rfl | h
      · exact Or.inr List.mem_cons_self
      · exact (ih h).imp_right (List.mem_cons_of_mem _)

theorem mem_of_mem_putAll {y : α} {t xs : List α} (h : y ∈ putAll name t xs) : y ∈ xs ∨ y ∈ t := by
  induction xs generalizing t with
  | nil => exact Or.inr h
  | cons x xs ih =>
    rcases ih h with h | h
    · exact Or.inl (List.mem_cons_of_mem _ h)
    · rcases mem_of_mem_put name h with rfl | h
      · exact Or.inl List.mem_cons_self
      · exact Or.inr h

theorem mem_putAll_of_mem {xs : List α} (hxs : (xs.map name).Nodup) {x : α} (hx : x ∈ xs)
    (t : List α) : x ∈ putAll name t xs := by
  have hfind := find?_putAll name hxs t (name x)
  rw [find?_of_mem name hxs hx, Option.some_or] at hfind
  exact List.mem_of_find?_eq_some hfind

/-! ## Names -/

theorem map_put (x : α) (t : List α) :
    (put name x t).map name =
      if name x ∈ t.map name then t.map name else t.map name ++ [name x] := by
  induction t with
  | nil => simp [put]
  | cons y ys ih =>
    by_cases hy : name y = name x
    · simp [put, hy]
    · have hx : ¬ name x = name y := fun h => hy h.symm
      simp only [put, if_neg hy, List.map_cons, ih, List.mem_cons, hx, false_or]
      split <;> simp

theorem nodup_put {t : List α} (ht : (t.map name).Nodup) (x : α) :
    ((put name x t).map name).Nodup := by
  rw [map_put]
  split
  · exact ht
  · rename_i hx
    rw [List.nodup_append]
    refine ⟨ht, by simp, ?_⟩
    rintro a ha b hb rfl
    exact hx (List.mem_singleton.mp hb ▸ ha)

theorem nodup_putAll {t : List α} (ht : (t.map name).Nodup) (xs : List α) :
    ((putAll name t xs).map name).Nodup := by
  induction xs generalizing t with
  | nil => exact ht
  | cons x xs ih => exact ih (nodup_put name ht x)

theorem prefix_map_putAll (t xs : List α) : t.map name <+: (putAll name t xs).map name := by
  induction xs generalizing t with
  | nil => exact List.prefix_rfl
  | cons x xs ih =>
    refine List.IsPrefix.trans ?_ (ih (put name x t))
    rw [map_put]
    split
    · exact List.prefix_rfl
    · exact List.prefix_append _ _

theorem eq_of_name_eq {t : List α} (ht : (t.map name).Nodup) {x y : α} (hx : x ∈ t) (hy : y ∈ t)
    (h : name x = name y) : x = y := by
  have hfind := find?_of_mem name ht hx
  rw [h, find?_of_mem name ht hy] at hfind
  exact (Option.some.inj hfind).symm

theorem find?_of_perm {t u : List α} (ht : (t.map name).Nodup) (hperm : t.Perm u) (n : String) :
    (t.find? fun y => name y == n) = u.find? fun y => name y == n := by
  apply List.find?_eq_find?_of_perm hperm
  rintro x ⟨hx, hxn⟩ y ⟨hy, hyn⟩
  exact eq_of_name_eq name ht hx hy ((eq_of_beq hxn).trans (eq_of_beq hyn).symm)

/-! ## Tables of several classes, from the last to the first -/

variable {γ : Type} {table : γ → List α}

theorem nodup_foldl_putAll (cs : List γ) {t : List α} (ht : (t.map name).Nodup) :
    ((cs.foldl (fun t c => putAll name t (table c)) t).map name).Nodup := by
  induction cs generalizing t with
  | nil => exact ht
  | cons c cs ih => exact ih (nodup_putAll name ht (table c))

theorem mem_of_mem_foldl_putAll {x : α} {cs : List γ} {t : List α}
    (h : x ∈ cs.foldl (fun t c => putAll name t (table c)) t) : x ∈ t ∨ ∃ c ∈ cs, x ∈ table c := by
  induction cs generalizing t with
  | nil => exact Or.inl h
  | cons c cs ih =>
    rcases ih h with h | ⟨b, hb, hx⟩
    · rcases mem_of_mem_putAll name h with hx | hx
      · exact Or.inr ⟨c, List.mem_cons_self, hx⟩
      · exact Or.inl hx
    · exact Or.inr ⟨b, List.mem_cons_of_mem _ hb, hx⟩

theorem find?_foldl_putAll {cs : List γ} (hcs : ∀ c ∈ cs, ((table c).map name).Nodup)
    (n : String) :
    ((cs.reverse.foldl (fun t c => putAll name t (table c)) []).find? fun y => name y == n) =
      cs.findSome? fun c => (table c).find? fun y => name y == n := by
  induction cs with
  | nil => rfl
  | cons c cs ih =>
    rw [List.reverse_cons, List.foldl_append, List.foldl_cons, List.foldl_nil,
      find?_putAll name (hcs c List.mem_cons_self), ih fun x hx => hcs x (List.mem_cons_of_mem _ hx),
      List.findSome?_cons]
    cases (table c).find? fun y => name y == n <;> rfl

/-! ## Seats -/

theorem putAll_cons_of_not_mem {x : α} {xs : List α} (hx : name x ∉ xs.map name) (t : List α) :
    putAll name (x :: t) xs = x :: putAll name t xs := by
  induction xs generalizing t with
  | nil => rfl
  | cons y ys ih =>
    rw [List.map_cons, List.mem_cons, not_or] at hx
    have hput : put name y (x :: t) = x :: put name y t := by rw [put, if_neg hx.1]
    have hstep (t : List α) : putAll name t (y :: ys) = putAll name (put name y t) ys := rfl
    rw [hstep, hstep, hput, ih hx.2]

theorem putAll_eq_of_prefix {t xs : List α} (hxs : (xs.map name).Nodup)
    (h : t.map name <+: xs.map name) : putAll name t xs = xs := by
  induction xs generalizing t with
  | nil =>
    rw [List.map_nil, List.prefix_nil, List.map_eq_nil_iff] at h
    rw [h]
    rfl
  | cons x xs ih =>
    rw [List.map_cons, List.nodup_cons] at hxs
    have hput : ∃ t', put name x t = x :: t' ∧ t'.map name <+: xs.map name := by
      cases t with
      | nil => exact ⟨[], rfl, List.nil_prefix⟩
      | cons y ys =>
        rw [List.map_cons, List.map_cons, List.cons_prefix_cons] at h
        exact ⟨ys, by rw [put, if_pos h.1], h.2⟩
    obtain ⟨t', ht', hpre⟩ := hput
    have hstep : putAll name t (x :: xs) = putAll name (put name x t) xs := rfl
    rw [hstep, ht', putAll_cons_of_not_mem name hxs.1, ih hxs.2 hpre]

theorem putAll_nil_eq {xs : List α} (hxs : (xs.map name).Nodup) : putAll name [] xs = xs :=
  putAll_eq_of_prefix name hxs List.nil_prefix

theorem put_eq {t : List α} (ht : (t.map name).Nodup) (x : α) :
    put name x t = t.map (fun y => if name y = name x then x else y) ++
      if name x ∈ t.map name then [] else [x] := by
  induction t with
  | nil => rfl
  | cons y ys ih =>
    rw [List.map_cons, List.nodup_cons] at ht
    by_cases hy : name y = name x
    · have hys : (ys.map fun z => if name z = name x then x else z) = ys.map id := by
        apply List.map_congr_left
        intro z hz
        have hne : name z ≠ name x := fun h => ht.1 (hy.trans h.symm ▸ List.mem_map_of_mem hz)
        rw [if_neg hne, id]
      simp [put, hy, hys]
    · have hx : ¬ name x = name y := fun h => hy h.symm
      simp [put, hy, hx, ih ht.2]

/-- What is put replaces the entries of its names, and what is left of it is added at the end. -/
theorem putAll_eq {t xs : List α} (ht : (t.map name).Nodup) (hxs : (xs.map name).Nodup) :
    putAll name t xs = t.map (fun y => (xs.find? fun x => name x == name y).getD y) ++
      xs.filter fun x => name x ∉ t.map name := by
  induction xs generalizing t with
  | nil => simp [putAll]
  | cons x xs ih =>
    rw [List.map_cons, List.nodup_cons] at hxs
    have hstep : putAll name t (x :: xs) = putAll name (put name x t) xs := rfl
    have hnone : (xs.find? fun z => name z == name x) = none := by
      rw [List.find?_eq_none]
      intro z hz h
      exact hxs.1 (eq_of_beq h ▸ List.mem_map_of_mem hz)
    have hseats : (put name x t).map (fun y => (xs.find? fun z => name z == name y).getD y) =
        t.map (fun y => ((x :: xs).find? fun z => name z == name y).getD y) ++
          if name x ∈ t.map name then [] else [x] := by
      rw [put_eq name ht, List.map_append, List.map_map]
      congr 1
      · apply List.map_congr_left
        intro y _
        by_cases hy : name y = name x
        · simp [hy, hnone]
        · simp [hy, Ne.symm hy]
      · split <;> simp [hnone]
    have hrest : (xs.filter fun z => name z ∉ (put name x t).map name) =
        xs.filter fun z => name z ∉ t.map name := by
      apply List.filter_congr
      intro z hz
      have hne : name z ≠ name x := fun h => hxs.1 (h ▸ List.mem_map_of_mem hz)
      rw [map_put]
      split <;> simp [hne]
    rw [hstep, ih (nodup_put name ht x) hxs.2, hseats, hrest, List.append_assoc]
    congr 1
    by_cases hx : name x ∈ t.map name
    · rw [if_pos hx, List.filter_cons_of_neg (by simpa using hx), List.nil_append]
    · rw [if_neg hx, List.filter_cons_of_pos (by simpa using hx), List.singleton_append]

/-! ## The checks -/

theorem ownFault?_eq_none_iff (both : α → Bool) (seen : List String) (xs : List α) :
    ownFault? name both seen xs = none ↔
      (∀ x ∈ xs, name x ∉ seen) ∧ (xs.map name).Nodup ∧ ∀ x ∈ xs, both x = false := by
  induction xs generalizing seen with
  | nil => simp [ownFault?]
  | cons x xs ih =>
    by_cases hseen : name x ∈ seen
    · simp [ownFault?, hseen]
    by_cases hboth : both x = true
    · simp [ownFault?, hseen, hboth]
    simp only [ownFault?, if_neg hseen, if_neg hboth, ih, List.mem_append, List.mem_singleton,
      not_or, List.map_cons, List.nodup_cons, List.forall_mem_cons, List.mem_map]
    constructor
    · rintro ⟨hnew, hnodup, hrest⟩
      refine ⟨⟨hseen, fun y hy => (hnew y hy).1⟩, ⟨?_, hnodup⟩, by simpa using hboth, hrest⟩
      rintro ⟨y, hy, heq⟩
      exact (hnew y hy).2 heq
    · rintro ⟨⟨_, hnew⟩, ⟨hx, hnodup⟩, _, hrest⟩
      exact ⟨fun y hy => ⟨hnew y hy, fun heq => hx ⟨y, hy, heq⟩⟩, hnodup, hrest⟩

theorem misplaced?_eq_none_iff (hasDefault : α → Bool) (seen : Bool) (xs : List α) :
    misplaced? hasDefault seen xs = none ↔
      (seen = true → ∀ x ∈ xs, hasDefault x = true) ∧
        xs.Pairwise fun x y => hasDefault x = true → hasDefault y = true := by
  induction xs generalizing seen with
  | nil => simp [misplaced?]
  | cons x xs ih =>
    rw [List.pairwise_cons, List.forall_mem_cons]
    cases hx : hasDefault x with
    | true =>
      simp only [misplaced?, hx, if_true, ih, true_and, forall_const]
      exact ⟨fun h => ⟨fun _ => h.1, h⟩, fun h => h.2⟩
    | false => cases seen <;> simp [misplaced?, hx, ih]

/-! ## Tables of other entries with the same names -/

variable {name} {name' : β → String} {f : α → β} (hname : ∀ x, name' (f x) = name x)
include hname

theorem map_put_map (x : α) (t : List α) :
    (put name x t).map f = put name' (f x) (t.map f) := by
  induction t with
  | nil => rfl
  | cons y ys ih =>
    simp only [put, List.map_cons, hname]
    split
    · simp
    · simp [ih]

theorem map_putAll_map (t xs : List α) :
    (putAll name t xs).map f = putAll name' (t.map f) (xs.map f) := by
  induction xs generalizing t with
  | nil => rfl
  | cons x xs ih =>
    have hstep : putAll name t (x :: xs) = putAll name (put name x t) xs := rfl
    rw [hstep, ih, map_put_map hname]
    rfl

theorem ownFault?_map {both : α → Bool} {both' : β → Bool} (hboth : ∀ x, both' (f x) = both x)
    (seen : List String) (xs : List α) :
    ownFault? name' both' seen (xs.map f) = ownFault? name both seen xs := by
  induction xs generalizing seen with
  | nil => rfl
  | cons x xs ih => simp only [List.map_cons, ownFault?, hname, hboth, ih]

omit hname in
theorem misplaced?_map {hasDefault : α → Bool} {hasDefault' : β → Bool}
    (h : ∀ x, hasDefault' (f x) = hasDefault x) (seen : Bool) (xs : List α) :
    misplaced? hasDefault' seen (xs.map f) = (misplaced? hasDefault seen xs).map f := by
  induction xs generalizing seen with
  | nil => rfl
  | cons x xs ih =>
    simp only [List.map_cons, misplaced?, h, ih]
    split
    · rfl
    · split <;> rfl

end FieldAtlas.Table
