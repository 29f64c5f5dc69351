import FieldAtlas.Record.Linearization

/-!
# What a merge of rows gives

The merge keeps every row, takes nothing else and repeats nothing. It finds an order whenever there
is one without repeats that keeps every row: whatever heads were taken first, that order still
keeps what is left, and its first entry that stands at a head is in no tail.
-/

namespace FieldAtlas.Linearization

variable {α κ : Type} [DecidableEq κ] (key : α → κ)

/-! ## One step -/

theorem eligible_iff (rows : List (List α)) (x : α) :
    eligible key rows x = true ↔ ∀ row ∈ rows, ∀ y ∈ row.tail, key y ≠ key x := by
  simp [eligible]

theorem choose?_spec {rows : List (List α)} {x : α} (h : choose? key rows = some x) :
    (∃ row ∈ rows, row.head? = some x) ∧ ∀ row ∈ rows, ∀ y ∈ row.tail, key y ≠ key x := by
  unfold choose? at h
  refine ⟨?_, (eligible_iff key rows x).mp (List.find?_some h)⟩
  simpa [List.mem_filterMap] using List.mem_of_find?_eq_some h

theorem advanceRow_sublist (x : α) (row : List α) : (advanceRow key x row).Sublist row := by
  cases row with
  | nil => exact List.Sublist.refl _
  | cons y ys =>
    rw [advanceRow]
    split
    · exact List.sublist_cons_self y ys
    · exact List.Sublist.refl _

theorem not_mem_advanceRow {x : α} {row : List α} (h : ∀ y ∈ row.tail, key y ≠ key x) :
    ∀ y ∈ advanceRow key x row, key y ≠ key x := by
  cases row with
  | nil => simp [advanceRow]
  | cons z zs =>
    intro y hy
    rw [advanceRow] at hy
    split at hy
    · exact h y hy
    · rename_i hz
      rcases List.mem_cons.mp hy with rfl | hy
      · exact hz
      · exact h y hy

theorem length_advanceRow_le (x : α) (row : List α) : (advanceRow key x row).length ≤ row.length :=
  (advanceRow_sublist key x row).length_le

theorem length_flatten_advance_le (x : α) (rows : List (List α)) :
    (advance key x rows).flatten.length ≤ rows.flatten.length := by
  induction rows with
  | nil => simp [advance]
  | cons row rows ih =>
    have hrow := length_advanceRow_le key x row
    simp only [advance, List.map_cons, List.flatten_cons, List.length_append] at ih ⊢
    omega

theorem length_flatten_advance_lt {x : α} {rows : List (List α)}
    (h : ∃ row ∈ rows, row.head? = some x) :
    (advance key x rows).flatten.length < rows.flatten.length := by
  induction rows with
  | nil => simp at h
  | cons row rows ih =>
    have hrow := length_advanceRow_le key x row
    have hrows := length_flatten_advance_le key x rows
    simp only [advance, List.map_cons, List.flatten_cons, List.length_append] at ih hrows ⊢
    obtain ⟨r, hr, hx⟩ := h
    rcases List.mem_cons.mp hr with rfl | hr
    · obtain ⟨ys, rfl⟩ := List.head?_eq_some_iff.mp hx
      simp only [advanceRow, if_true, List.length_cons]
      omega
    · have := ih ⟨r, hr, hx⟩
      omega

/-! ## The order that comes out -/

theorem mergeWithin_step {steps : Nat} {rows : List (List α)} {order : List α}
    (h : mergeWithin key steps rows = some order) :
    ((∀ row ∈ rows, row = []) ∧ order = []) ∨
      ∃ n x rest, choose? key rows = some x ∧ mergeWithin key n (advance key x rows) = some rest ∧
        order = x :: rest := by
  unfold mergeWithin at h
  split at h
  · rename_i hall
    left
    refine ⟨?_, (Option.some.inj h).symm⟩
    simpa using hall
  · right
    cases steps with
    | zero => simp at h
    | succ n =>
      simp only at h
      split at h
      · simp at h
      · rename_i x hx
        obtain ⟨rest, hrest, rfl⟩ := Option.map_eq_some_iff.mp h
        exact ⟨n, x, rest, hx, hrest, rfl⟩

theorem mem_of_mem_mergeWithin (order : List α) : ∀ {steps : Nat} {rows : List (List α)},
    mergeWithin key steps rows = some order → ∀ x ∈ order, ∃ row ∈ rows, x ∈ row := by
  induction order with
  | nil => simp
  | cons x order ih =>
    intro steps rows h y hy
    rcases mergeWithin_step key h with ⟨_, hnil⟩ | ⟨n, x', rest, hx, hrest, heq⟩
    · simp at hnil
    obtain ⟨rfl, rfl⟩ := List.cons.inj heq
    rcases List.mem_cons.mp hy with rfl | hy
    · obtain ⟨row, hrow, hhead⟩ := (choose?_spec key hx).1
      exact ⟨row, hrow, List.mem_of_head? hhead⟩
    · obtain ⟨row, hrow, hmem⟩ := ih hrest y hy
      obtain ⟨row, hr, rfl⟩ := List.mem_map.mp hrow
      exact ⟨row, hr, (advanceRow_sublist key x row).subset hmem⟩

theorem nodup_mergeWithin (order : List α) : ∀ {steps : Nat} {rows : List (List α)},
    mergeWithin key steps rows = some order → (order.map key).Nodup := by
  induction order with
  | nil => simp
  | cons x order ih =>
    intro steps rows h
    rcases mergeWithin_step key h with ⟨_, hnil⟩ | ⟨n, x', rest, hx, hrest, heq⟩
    · simp at hnil
    obtain ⟨rfl, rfl⟩ := List.cons.inj heq
    rw [List.map_cons, List.nodup_cons]
    refine ⟨?_, ih hrest⟩
    intro hmem
    obtain ⟨y, hy, hkey⟩ := List.mem_map.mp hmem
    -- The taken entry is gone from every row, so it cannot come out again.
    obtain ⟨row, hrow, hyrow⟩ := mem_of_mem_mergeWithin key order hrest y hy
    obtain ⟨row, hr, rfl⟩ := List.mem_map.mp hrow
    exact not_mem_advanceRow key ((choose?_spec key hx).2 row hr) y hyrow hkey

theorem sublist_mergeWithin (order : List α) : ∀ {steps : Nat} {rows : List (List α)},
    (∀ r ∈ rows, ∀ s ∈ rows, ∀ x ∈ r, ∀ y ∈ s, key x = key y → x = y) →
      mergeWithin key steps rows = some order → ∀ row ∈ rows, row.Sublist order := by
  induction order with
  | nil =>
    intro steps rows _ h row hrow
    rcases mergeWithin_step key h with ⟨hall, _⟩ | ⟨_, _, _, _, _, heq⟩
    · obtain rfl := hall row hrow
      exact List.nil_sublist _
    · simp at heq
  | cons x order ih =>
    intro steps rows hinj h row hrow
    rcases mergeWithin_step key h with ⟨_, hnil⟩ | ⟨n, x', rest, hx, hrest, heq⟩
    · simp at hnil
    obtain ⟨rfl, rfl⟩ := List.cons.inj heq
    have hleft : ∀ r ∈ advance key x rows, ∃ r' ∈ rows, r.Sublist r' := by
      intro r hr
      obtain ⟨r', hr', rfl⟩ := List.mem_map.mp hr
      exact ⟨r', hr', advanceRow_sublist key x r'⟩
    have hinj' : ∀ r ∈ advance key x rows, ∀ s ∈ advance key x rows, ∀ y ∈ r, ∀ z ∈ s,
        key y = key z → y = z := by
      intro r hr s hs y hy z hz
      obtain ⟨r', hr', hsub⟩ := hleft r hr
      obtain ⟨s', hs', hsub'⟩ := hleft s hs
      exact hinj r' hr' s' hs' y (hsub.subset hy) z (hsub'.subset hz)
    have hsub := ih hinj' hrest (advanceRow key x row) (List.mem_map_of_mem hrow)
    cases row with
    | nil => exact List.nil_sublist _
    | cons y ys =>
      rw [advanceRow] at hsub
      split at hsub
      · rename_i hkey
        obtain ⟨row', hrow', hhead⟩ := (choose?_spec key hx).1
        have : y = x :=
          hinj _ hrow _ hrow' y List.mem_cons_self x (List.mem_of_head? hhead) hkey
        rw [this]
        exact hsub.cons_cons x
      · exact hsub.cons x

/-! ## When an order comes out -/

/-- In rows that one order keeps, the first entry of that order that is a head is in no tail. -/
theorem exists_eligible (order : List α) (hnodup : (order.map key).Nodup) :
    ∀ {rows : List (List α)}, (∀ row ∈ rows, row.Sublist order) → (∃ row ∈ rows, row ≠ []) →
      ∃ x, x ∈ rows.filterMap List.head? ∧ eligible key rows x = true := by
  induction order with
  | nil =>
    rintro rows hsub ⟨row, hrow, hne⟩
    exact absurd (List.sublist_nil.mp (hsub row hrow)) hne
  | cons o order ih =>
    intro rows hsub hne
    rw [List.map_cons, List.nodup_cons] at hnodup
    by_cases hhead : ∃ row ∈ rows, row.head? = some o
    · refine ⟨o, List.mem_filterMap.mpr hhead, (eligible_iff key rows o).mpr ?_⟩
      intro row hrow y hy hkey
      have hy' : y ∈ order := (hsub row hrow).tail.subset hy
      exact hnodup.1 (hkey ▸ List.mem_map_of_mem hy')
    · apply ih hnodup.2 _ hne
      intro row hrow
      cases hsub row hrow with
      | cons _ h => exact h
      | cons_cons _ h => exact absurd ⟨_, hrow, rfl⟩ hhead

/-- The invariant of the loop: some order without repeats keeps every row that is left. -/
theorem mergeWithin_isSome (order : List α) (hnodup : (order.map key).Nodup) (steps : Nat) :
    ∀ {rows : List (List α)}, (∀ row ∈ rows, row.Sublist order) →
      rows.flatten.length ≤ steps → (mergeWithin key steps rows).isSome := by
  induction steps with
  | zero =>
    intro rows hsub hlen
    have hnil : rows.flatten = [] := List.eq_nil_of_length_eq_zero (by omega)
    have hall : rows.all List.isEmpty = true := by simpa using List.flatten_eq_nil_iff.mp hnil
    simp [mergeWithin, hall]
  | succ n ih =>
    intro rows hsub hlen
    by_cases hall : rows.all List.isEmpty = true
    · simp [mergeWithin, hall]
    have hne : ∃ row ∈ rows, row ≠ [] := by simpa using hall
    obtain ⟨x, hx⟩ : ∃ x, choose? key rows = some x := by
      rw [← Option.isSome_iff_exists, choose?, List.find?_isSome]
      exact exists_eligible key order hnodup hsub hne
    have hlt := length_flatten_advance_lt key (choose?_spec key hx).1
    have hrest : (mergeWithin key n (advance key x rows)).isSome := by
      apply ih _ (by omega)
      intro row hrow
      obtain ⟨row, hr, rfl⟩ := List.mem_map.mp hrow
      exact (advanceRow_sublist key x row).trans (hsub row hr)
    simpa [mergeWithin, hall, hx] using hrest

/-! ## The whole merge -/

variable {key} {rows : List (List α)}

theorem nodup_merge? {order : List α} (h : merge? key rows = some order) :
    (order.map key).Nodup :=
  nodup_mergeWithin key order h

theorem sublist_merge? {order : List α} (h : merge? key rows = some order)
    (hinj : ∀ r ∈ rows, ∀ s ∈ rows, ∀ x ∈ r, ∀ y ∈ s, key x = key y → x = y) :
    ∀ row ∈ rows, row.Sublist order :=
  sublist_mergeWithin key order hinj h

theorem mem_of_mem_merge? {order : List α} (h : merge? key rows = some order) {x : α}
    (hx : x ∈ order) : ∃ row ∈ rows, x ∈ row :=
  mem_of_mem_mergeWithin key order h x hx

theorem exists_merge? {order : List α} (hnodup : (order.map key).Nodup)
    (hsub : ∀ row ∈ rows, row.Sublist order) : ∃ out, merge? key rows = some out :=
  Option.isSome_iff_exists.mp (mergeWithin_isSome key order hnodup _ hsub (Nat.le_refl _))

end FieldAtlas.Linearization
