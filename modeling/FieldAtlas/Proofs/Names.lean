import FieldAtlas.Proofs.Table
import Mathlib.Data.List.Dedup

/-!
# The order in which names come up

Tables that are put into one another seat each name where it first came up. Read from the back, this
is the list of all names with only the last of each kept.
-/

namespace FieldAtlas.Names

/-- Each name once, where it first comes up. -/
def firsts (names : List String) : List String := names.reverse.dedup.reverse

section

variable {α β : Type} [DecidableEq β]

theorem firsts_flatMap_reverse (l : List α) (f : α → List String) :
    firsts (l.reverse.flatMap f) = (l.flatMap fun a => (f a).reverse).dedup.reverse := by
  rw [firsts, List.reverse_flatMap, List.reverse_reverse]
  rfl

/-! ## Lists with the last of each kept -/

theorem dedup_append_congr (l : List β) {xs ys : List β} (h : xs.dedup = ys.dedup) :
    (l ++ xs).dedup = (l ++ ys).dedup := by
  rw [List.dedup_append, List.dedup_append, h]

theorem dedup_concat (l : List β) (b : β) :
    (l ++ [b]).dedup = (l.filter fun x => !x == b).dedup ++ [b] := by
  induction l with
  | nil => rfl
  | cons x l ih =>
    by_cases hx : x = b
    · have hmem : x ∈ l ++ [b] := by simp [hx]
      rw [List.cons_append, List.dedup_cons_of_mem hmem, ih, List.filter_cons_of_neg (by simp [hx])]
    · rw [List.filter_cons_of_pos (by simp [hx]), List.cons_append]
      by_cases hmem : x ∈ l
      · rw [List.dedup_cons_of_mem (List.mem_append_left _ hmem), ih,
          List.dedup_cons_of_mem (by simp [hmem, hx])]
      · rw [List.dedup_cons_of_notMem (by simp [hmem, hx]), ih,
          List.dedup_cons_of_notMem (by simp [hmem]), List.cons_append]

theorem dedup_append_dedup (l xs : List β) : (l ++ xs.dedup).dedup = (l ++ xs).dedup :=
  dedup_append_congr l List.dedup_idem

theorem dedup_dedup_append (l xs : List β) : (l.dedup ++ xs).dedup = (l ++ xs).dedup := by
  induction l with
  | nil => rfl
  | cons b l ih =>
    by_cases hb : b ∈ l
    · have hmem : b ∈ l ++ xs := List.mem_append_left _ hb
      rw [List.dedup_cons_of_mem hb, ih, List.cons_append, List.dedup_cons_of_mem hmem]
    · rw [List.dedup_cons_of_notMem hb, List.cons_append, List.cons_append]
      exact dedup_append_congr [b] ih

theorem dedup_flatMap_dedup (l : List α) (f : α → List β) :
    (l.flatMap fun a => (f a).dedup).dedup = (l.flatMap f).dedup := by
  induction l with
  | nil => rfl
  | cons a l ih =>
    rw [List.flatMap_cons, List.flatMap_cons, dedup_dedup_append]
    exact dedup_append_congr _ ih

theorem dedup_flatMap_of_map_dedup {κ : Type} [DecidableEq κ] {key : α → κ} (f : α → List β) :
    ∀ {xs ys : List α}, (∀ x ∈ xs, ∀ y ∈ xs, key x = key y → x = y) →
      (∀ y ∈ ys, y ∈ xs) → (xs.map key).dedup = ys.map key →
      (xs.flatMap f).dedup = (ys.flatMap f).dedup := by
  intro xs
  induction xs with
  | nil =>
    intro ys _ _ hkey
    obtain rfl := List.map_eq_nil_iff.mp hkey.symm
    rfl
  | cons x xs ih =>
    intro ys hinj hys hkey
    have hinj' : ∀ a ∈ xs, ∀ b ∈ xs, key a = key b → a = b := fun a ha b hb =>
      hinj a (List.mem_cons_of_mem _ ha) b (List.mem_cons_of_mem _ hb)
    have hmem : ∀ a, a ∈ x :: xs → key a ∈ xs.map key → a ∈ xs := by
      intro a ha hk
      obtain ⟨b, hb, hab⟩ := List.mem_map.mp hk
      rwa [hinj a ha b (List.mem_cons_of_mem _ hb) hab.symm]
    rw [List.map_cons] at hkey
    by_cases hx : key x ∈ xs.map key
    · -- The source comes again, so that what it gives here is dropped.
      rw [List.dedup_cons_of_mem hx] at hkey
      have hsub : f x ⊆ xs.flatMap f := by
        intro b hb
        exact List.mem_flatMap.mpr ⟨x, hmem x List.mem_cons_self hx, hb⟩
      rw [List.flatMap_cons, List.Subset.dedup_append_right hsub]
      refine ih hinj' ?_ hkey
      intro y hy
      apply hmem y (hys y hy)
      rw [← List.mem_dedup, hkey]
      exact List.mem_map_of_mem hy
    · rw [List.dedup_cons_of_notMem hx] at hkey
      cases ys with
      | nil => simp at hkey
      | cons y ys =>
        rw [List.map_cons, List.cons.injEq] at hkey
        obtain rfl : x = y := hinj x List.mem_cons_self y (hys y List.mem_cons_self) hkey.1
        rw [List.flatMap_cons, List.flatMap_cons]
        apply dedup_append_congr
        refine ih hinj' ?_ hkey.2
        intro z hz
        apply hmem z (hys z (List.mem_cons_of_mem _ hz))
        rw [← List.mem_dedup, hkey.2]
        exact List.mem_map_of_mem hz

/-- Picking by a partial injection does not disturb which of each is last. -/
theorem filterMap_dedup {γ : Type} [DecidableEq γ] {g : β → Option γ}
    (hg : ∀ x y z, g x = some z → g y = some z → x = y) (l : List β) :
    l.dedup.filterMap g = (l.filterMap g).dedup := by
  induction l with
  | nil => rfl
  | cons x l ih =>
    by_cases hx : x ∈ l
    · rw [List.dedup_cons_of_mem hx, ih]
      cases hgx : g x with
      | none => rw [List.filterMap_cons_none hgx]
      | some z =>
        have hz : z ∈ l.filterMap g := List.mem_filterMap.mpr ⟨x, hx, hgx⟩
        rw [List.filterMap_cons_some hgx, List.dedup_cons_of_mem hz]
    · rw [List.dedup_cons_of_notMem hx]
      cases hgx : g x with
      | none => rw [List.filterMap_cons_none hgx, List.filterMap_cons_none hgx, ih]
      | some z =>
        have hz : z ∉ l.filterMap g := by
          intro hmem
          obtain ⟨y, hy, hgy⟩ := List.mem_filterMap.mp hmem
          exact hx (hg y x z hgy hgx ▸ hy)
        rw [List.filterMap_cons_some hgx, List.filterMap_cons_some hgx, ih,
          List.dedup_cons_of_notMem hz]

omit [DecidableEq β] in
theorem filterMap_eq_singleton {γ : Type} {g : β → Option γ} {l : List β} (hl : l.Nodup) {x : β}
    (hx : x ∈ l) {z : γ} (hgx : g x = some z) (hg : ∀ y ∈ l, y ≠ x → g y = none) :
    l.filterMap g = [z] := by
  obtain ⟨as, bs, rfl⟩ := List.append_of_mem hx
  have hother : ∀ y ∈ as ++ bs, g y = none := by
    intro y hy
    have hne : y ≠ x := by
      rintro rfl
      exact (List.nodup_middle.mp hl).notMem hy
    apply hg y _ hne
    rcases List.mem_append.mp hy with hy | hy
    · exact List.mem_append_left _ hy
    · exact List.mem_append_right _ (List.mem_cons_of_mem _ hy)
  have has : as.filterMap g = [] :=
    List.filterMap_eq_nil_iff.mpr fun y hy => hother y (List.mem_append_left _ hy)
  have hbs : bs.filterMap g = [] :=
    List.filterMap_eq_nil_iff.mpr fun y hy => hother y (List.mem_append_right _ hy)
  rw [List.filterMap_append, has, List.nil_append, List.filterMap_cons_some hgx, hbs]

end

-- By the length of the list, as its tail comes without the name at its head.
theorem firsts_eq_eraseDups (names : List String) : firsts names = names.eraseDups := by
  match names with
  | [] => rfl
  | n :: names =>
    rw [List.eraseDups_cons, ← firsts_eq_eraseDups (names.filter _), firsts, List.reverse_cons,
      dedup_concat, List.reverse_append, List.filter_reverse]
    rfl
termination_by names.length
decreasing_by exact Nat.lt_succ_of_le (List.length_filter_le ..)

/-! ## Tables -/

variable {α γ : Type} (name : α → String)

theorem reverse_map_putAll {t : List α} (ht : (t.map name).Nodup) (xs : List α) :
    ((Table.putAll name t xs).map name).reverse =
      ((xs.map name).reverse ++ (t.map name).reverse).dedup := by
  induction xs generalizing t with
  | nil =>
    rw [List.map_nil, List.reverse_nil, List.nil_append, (List.nodup_reverse.mpr ht).dedup]
    rfl
  | cons x xs ih =>
    have hstep : Table.putAll name t (x :: xs) = Table.putAll name (Table.put name x t) xs := rfl
    rw [hstep, ih (Table.nodup_put name ht x), List.map_cons, List.reverse_cons, List.append_assoc]
    apply dedup_append_congr
    rw [Table.map_put, List.singleton_append]
    split
    · rename_i hx
      rw [List.dedup_cons_of_mem (List.mem_reverse.mpr hx)]
    · rw [List.reverse_append, List.reverse_singleton, List.singleton_append]

theorem reverse_map_foldl_putAll {table : γ → List α} (cs : List γ) :
    ((cs.reverse.foldl (fun t c => Table.putAll name t (table c)) []).map name).reverse =
      (cs.flatMap fun c => ((table c).map name).reverse).dedup := by
  induction cs with
  | nil => rfl
  | cons c cs ih =>
    have hnodup : ((cs.reverse.foldl (fun t c => Table.putAll name t (table c)) []).map name).Nodup :=
      Table.nodup_foldl_putAll name _ (by simp)
    rw [List.reverse_cons, List.foldl_append, List.foldl_cons, List.foldl_nil,
      reverse_map_putAll name hnodup, ih, dedup_append_dedup, List.flatMap_cons]

end FieldAtlas.Names
