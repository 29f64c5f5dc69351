/-!
# Dictionaries

Entries under distinct string keys, kept in the order of the keys.
-/

namespace FieldAtlas

/-- Entries in ascending order of their keys. -/
abbrev Dict (α : Type) := List (String × α)

namespace Dict

variable {α : Type}

def get? (key : String) : Dict α → Option α
  | [] => none
  | (k, v) :: d => if key = k then some v else get? key d

/-- Puts `value` under `key`, in place of what was there. -/
def insert (key : String) (value : α) : Dict α → Dict α
  | [] => [(key, value)]
  | (k, v) :: d =>
    if key = k then (key, value) :: d
    else if key < k then (key, value) :: (k, v) :: d
    else (k, v) :: insert key value d

def erase (key : String) (d : Dict α) : Dict α := d.filter fun e => e.1 ≠ key

/-- Puts `value` under `key` unless there is an entry already. -/
def insertNew (key : String) (value : α) (d : Dict α) : Dict α :=
  match d.get? key with
  | some _ => d
  | none => d.insert key value

/-- Puts every entry of `new` over those of `d`. -/
def extend (d new : Dict α) : Dict α := new.foldl (fun d e => d.insert e.1 e.2) d

def ofEntries (entries : List (String × α)) : Dict α := extend [] entries

def keys (d : Dict α) : List String := d.map Prod.fst

@[simp] theorem get?_nil (key : String) : get? key ([] : Dict α) = none := rfl

theorem get?_cons (key k : String) (v : α) (d : Dict α) :
    get? key ((k, v) :: d) = if key = k then some v else get? key d := rfl

theorem get?_insert (key k : String) (v : α) (d : Dict α) :
    get? k (insert key v d) = if k = key then some v else get? k d := by
  induction d with
  | nil => simp [insert, get?_cons]
  | cons e d ih =>
    obtain ⟨k', v'⟩ := e
    by_cases hk : key = k'
    · subst hk
      by_cases h : k = key <;> simp [insert, get?_cons, h]
    · by_cases hlt : key < k'
      · simp [insert, hk, hlt, get?_cons]
      · by_cases h : k = k'
        · subst h
          simp [insert, hk, hlt, get?_cons, Ne.symm hk]
        · simp [insert, hk, hlt, get?_cons, h, ih]

theorem get?_erase (key k : String) (d : Dict α) :
    get? k (erase key d) = if k = key then none else get? k d := by
  induction d with
  | nil => simp [erase]
  | cons e d ih =>
    obtain ⟨k', v'⟩ := e
    rw [erase] at ih ⊢
    by_cases hk : k' = key
    · subst hk
      by_cases h : k = k'
      · simpa [h] using ih
      · simpa [h, get?_cons] using ih
    · by_cases h : k = k'
      · subst h
        simp [hk, get?_cons]
      · simpa [hk, get?_cons, h] using ih

end Dict

end FieldAtlas
