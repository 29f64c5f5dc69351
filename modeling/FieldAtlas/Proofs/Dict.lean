import FieldAtlas.Dict

/-!
# Dictionaries in order

The keys of a dictionary ascend, so that each stands once, and every operation keeps them so.
-/

namespace FieldAtlas.Dict

variable {α : Type}

/-- The keys ascend. -/
def Sorted (d : Dict α) : Prop := d.Pairwise fun e f => e.1 < f.1

theorem sorted_nil : Sorted ([] : Dict α) := List.Pairwise.nil

theorem mem_keys_iff (d : Dict α) (k : String) : k ∈ d.keys ↔ (d.get? k).isSome := by
  induction d with
  | nil => simp [keys]
  | cons e d ih =>
    obtain ⟨l, v⟩ := e
    rw [keys] at ih ⊢
    by_cases h : k = l
    · simp [get?_cons, h]
    · rw [get?_cons, if_neg h, List.map_cons, List.mem_cons, ih]
      exact or_iff_right h

theorem get?_eq_none_of_not_mem {d : Dict α} {k : String} (h : k ∉ d.keys) : d.get? k = none := by
  rw [mem_keys_iff] at h
  simpa using h

theorem mem_insert {key : String} {value : α} {d : Dict α} {e : String × α}
    (h : e ∈ d.insert key value) : e = (key, value) ∨ e ∈ d := by
  induction d with
  | nil => simpa [insert] using h
  | cons f d ih =>
    obtain ⟨l, v⟩ := f
    rw [insert] at h
    split at h
    · rcases List.mem_cons.mp h with h | h
      · exact Or.inl h
      · exact Or.inr (List.mem_cons_of_mem _ h)
    · split at h
      · exact List.mem_cons.mp h
      · rcases List.mem_cons.mp h with rfl | h
        · exact Or.inr List.mem_cons_self
        · exact (ih h).imp_right (List.mem_cons_of_mem _)

theorem mem_insertNew {key : String} {value : α} {d : Dict α} {e : String × α}
    (h : e ∈ d.insertNew key value) : e = (key, value) ∨ e ∈ d := by
  unfold insertNew at h
  split at h
  · exact Or.inr h
  · exact mem_insert h

theorem mem_extend {d new : Dict α} {e : String × α} (h : e ∈ d.extend new) : e ∈ new ∨ e ∈ d := by
  unfold extend at h
  induction new generalizing d with
  | nil => exact Or.inr h
  | cons f new ih =>
    rcases ih h with h | h
    · exact Or.inl (List.mem_cons_of_mem f h)
    · rcases mem_insert h with rfl | h
      · exact Or.inl List.mem_cons_self
      · exact Or.inr h

theorem mem_foldl_erase {β : Type} (name : β → String) {xs : List β} {d : Dict α}
    {e : String × α} (h : e ∈ xs.foldl (fun d x => Dict.erase (name x) d) d) : e ∈ d := by
  induction xs generalizing d with
  | nil => exact h
  | cons x xs ih => exact (List.mem_filter.mp (ih h)).1

theorem mem_of_get? {d : Dict α} {k : String} {v : α} (h : d.get? k = some v) : (k, v) ∈ d := by
  induction d with
  | nil => simp at h
  | cons e d ih =>
    obtain ⟨l, w⟩ := e
    rw [get?_cons] at h
    split at h
    · rename_i hkl
      rw [hkl, Option.some.inj h]
      exact List.mem_cons_self
    · exact List.mem_cons_of_mem _ (ih h)

theorem sorted_insert {d : Dict α} (hd : Sorted d) (key : String) (value : α) :
    Sorted (d.insert key value) := by
  induction d with
  | nil => exact List.pairwise_singleton _ _
  | cons f d ih =>
    obtain ⟨l, v⟩ := f
    obtain ⟨hl, hd⟩ := List.pairwise_cons.mp hd
    rw [insert]
    split
    · rename_i heq
      exact List.pairwise_cons.mpr ⟨fun e he => heq ▸ hl e he, hd⟩
    rename_i hne
    split
    · rename_i hlt
      refine List.pairwise_cons.mpr ⟨?_, List.pairwise_cons.mpr ⟨hl, hd⟩⟩
      intro e he
      rcases List.mem_cons.mp he with rfl | he
      · exact hlt
      · exact String.lt_trans hlt (hl e he)
    · rename_i hnlt
      refine List.pairwise_cons.mpr ⟨?_, ih hd⟩
      intro e he
      rcases mem_insert he with rfl | he
      · rw [← String.not_le]
        exact fun hle => hne (String.le_antisymm hle (String.not_lt.mp hnlt))
      · exact hl e he

theorem sorted_insertNew {d : Dict α} (hd : Sorted d) (key : String) (value : α) :
    Sorted (d.insertNew key value) := by
  unfold insertNew
  split
  · exact hd
  · exact sorted_insert hd key value

theorem sorted_erase {d : Dict α} (hd : Sorted d) (key : String) : Sorted (d.erase key) :=
  List.Pairwise.filter _ hd

theorem sorted_extend {d : Dict α} (hd : Sorted d) (new : Dict α) : Sorted (d.extend new) := by
  unfold extend
  induction new generalizing d with
  | nil => exact hd
  | cons e new ih => exact ih (sorted_insert hd e.1 e.2)

theorem sorted_ofEntries (entries : List (String × α)) : Sorted (ofEntries entries) :=
  sorted_extend sorted_nil entries

theorem insert_of_lt {d : Dict α} {key : String} (h : ∀ e ∈ d, e.1 < key) (value : α) :
    d.insert key value = d ++ [(key, value)] := by
  induction d with
  | nil => rfl
  | cons e d ih =>
    obtain ⟨l, v⟩ := e
    rw [List.forall_mem_cons] at h
    have hne : key ≠ l := Ne.symm (String.ne_of_lt h.1)
    have hnlt : ¬ key < l := String.lt_asymm h.1
    rw [insert, if_neg hne, if_neg hnlt, ih h.2, List.cons_append]

theorem extend_append {d new : Dict α} (h : Sorted (d ++ new)) : d.extend new = d ++ new := by
  unfold extend
  induction new generalizing d with
  | nil => exact (List.append_nil d).symm
  | cons e new ih =>
    have hlt : ∀ f ∈ d, f.1 < e.1 :=
      fun f hf => (List.pairwise_append.mp h).2.2 f hf e List.mem_cons_self
    rw [List.append_cons] at h ⊢
    rw [List.foldl_cons, insert_of_lt hlt, ih h]

theorem ofEntries_eq {d : Dict α} (hd : Sorted d) : ofEntries d = d := extend_append (d := []) hd

theorem nodup_keys {d : Dict α} (hd : Sorted d) : d.keys.Nodup := by
  rw [keys, List.nodup_iff_pairwise_ne, List.pairwise_map]
  exact hd.imp fun h => String.ne_of_lt h

/-! ## What stands under a key -/

theorem get?_extend {new : Dict α} (hnew : new.keys.Nodup) (d : Dict α) (k : String) :
    (d.extend new).get? k = (new.get? k).or (d.get? k) := by
  unfold extend
  induction new generalizing d with
  | nil => rfl
  | cons e new ih =>
    obtain ⟨l, v⟩ := e
    rw [keys, List.map_cons, List.nodup_cons] at hnew
    rw [List.foldl_cons, ih hnew.2, get?_insert, get?_cons]
    by_cases h : k = l
    · have hnone : get? k new = none := get?_eq_none_of_not_mem (h ▸ hnew.1)
      rw [hnone, if_pos h, if_pos h]
      rfl
    · rw [if_neg h, if_neg h]

theorem get?_extend_of_not_mem {new : Dict α} {k : String} (h : k ∉ new.keys) (d : Dict α) :
    (d.extend new).get? k = d.get? k := by
  unfold extend
  induction new generalizing d with
  | nil => rfl
  | cons e new ih =>
    rw [keys, List.map_cons, List.mem_cons, not_or] at h
    rw [List.foldl_cons, ih h.2, get?_insert, if_neg h.1]

theorem get?_ofEntries {β : Type} {name : β → String} {value : β → α} {xs : List β}
    (hxs : (xs.map name).Nodup) (k : String) :
    (ofEntries (xs.map fun x => (name x, value x))).get? k =
      (xs.find? fun x => name x == k).map value := by
  have hkeys : keys (xs.map fun x => (name x, value x)) = xs.map name := by
    rw [keys, List.map_map]
    rfl
  rw [ofEntries, get?_extend (by rwa [hkeys]), get?_nil, Option.or_none]
  clear hxs hkeys
  induction xs with
  | nil => rfl
  | cons x xs ih =>
    rw [List.map_cons, get?_cons, ih]
    by_cases h : name x = k
    · simp [h]
    · simp [h, Ne.symm h]

theorem get?_extend_eq (d new : Dict α) (k : String) :
    (d.extend new).get? k = ((ofEntries new).get? k).or (d.get? k) := by
  unfold ofEntries
  induction new generalizing d with
  | nil => rfl
  | cons e new ih =>
    have hcons : ∀ d : Dict α, d.extend (e :: new) = (d.insert e.1 e.2).extend new := fun _ => rfl
    rw [hcons, hcons, ih, ih (insert e.1 e.2 []), get?_insert, get?_insert, Option.or_assoc]
    by_cases h : k = e.1 <;> simp [h]

theorem get?_insertNew (key k : String) (value : α) (d : Dict α) :
    (d.insertNew key value).get? k = (d.get? k).or (if k = key then some value else none) := by
  unfold insertNew
  by_cases hk : k = key
  · subst hk
    cases h : d.get? k <;> simp [get?_insert, h]
  · cases h : d.get? key <;> simp [get?_insert, hk]

theorem get?_insertNew_of_ne {key k : String} (h : k ≠ key) (value : α) (d : Dict α) :
    (d.insertNew key value).get? k = d.get? k := by
  rw [get?_insertNew, if_neg h, Option.or_none]

theorem get?_foldl_erase {β : Type} (name : β → String) (xs : List β) (d : Dict α) (k : String) :
    (xs.foldl (fun d x => Dict.erase (name x) d) d).get? k =
      if k ∈ xs.map name then none else d.get? k := by
  induction xs generalizing d with
  | nil => simp
  | cons x xs ih =>
    rw [List.foldl_cons, ih, get?_erase, List.map_cons]
    by_cases hx : k = name x
    · simp [hx]
    · simp [hx]

theorem sorted_foldl_erase {β : Type} (name : β → String) (xs : List β) {d : Dict α}
    (hd : Sorted d) : Sorted (xs.foldl (fun d x => Dict.erase (name x) d) d) := by
  induction xs generalizing d with
  | nil => exact hd
  | cons x xs ih => exact ih (sorted_erase hd (name x))

end FieldAtlas.Dict
