import FieldAtlas.World.Basic

/-!
# Introspectors in use

As long as an identity tells what a class is, a list that is kept for it is the list that extraction
would give.
-/

namespace FieldAtlas

theorem extractFields_of_classify {c d : ClassObject} (h : c.classify = d.classify)
    {fields : List Descriptor} (hd : extractFields d = .ok fields) : extractFields c = .ok fields := by
  unfold extractFields at hd ⊢
  rw [h]
  cases hk : d.classify with
  | struct s => rwa [hk] at hd
  | record r => rwa [hk] at hd
  | neither => simp [hk] at hd

namespace Introspector

/-- The introspectors that come about by use, where `tables` is what the classes are. -/
inductive Used (tables : ClassId → Classification) : Introspector → Prop
  | new (settings : Settings) : Used tables (.new settings)
  | got {i j : Introspector} {c : ClassObject} {number : Nat} {list : FieldList} :
      Used tables i → c.classify = tables c.id → i.getFields c number = .ok (list, j) →
      Used tables j
  | forgot {i : Introspector} (id : ClassId) : Used tables i → Used tables (i.forget id)
  | cleared {i : Introspector} : Used tables i → Used tables i.clear

/-! ## What is kept -/

theorem cached?_keep (i : Introspector) (id k : ClassId) (list : FieldList) :
    (i.keep id list).cached? k = (i.cached? k).or (if k = id then some list else none) := by
  unfold keep
  cases hid : i.cached? id with
  | some l =>
    by_cases hk : k = id
    · simp [hk, hid]
    · simp [hk]
  | none =>
    by_cases hk : k = id
    · rw [hk, hid, Option.none_or, if_pos rfl]
      simp [cached?]
    · have hne : (id == k) = false := by simpa using Ne.symm hk
      simp [cached?, hk, hne]

theorem cached?_forget (i : Introspector) (id k : ClassId) :
    (i.forget id).cached? k = if k = id then none else i.cached? k := by
  unfold cached? forget
  rw [List.find?_filter]
  by_cases hk : k = id
  · simp [hk]
  · simp only [if_neg hk]
    congr 2
    funext e
    by_cases he : e.1 = k <;> simp [he, hk]

theorem getFields_ok {i j : Introspector} {c : ClassObject} {number : Nat} {list : FieldList}
    (h : i.getFields c number = .ok (list, j)) :
    j = i ∨ extractFields c = .ok list.fields ∧ j = i.keep c.id list := by
  unfold getFields at h
  cases hhit : i.hit? c.id with
  | some l =>
    simp only [hhit, Except.ok.injEq, Prod.mk.injEq] at h
    exact Or.inl h.2.symm
  | none =>
    cases hfields : extractFields c with
    | error e => simp [hhit, hfields] at h
    | ok fields =>
      simp only [hhit, hfields, Except.ok.injEq, Prod.mk.injEq] at h
      obtain ⟨rfl, rfl⟩ := h
      split
      · exact Or.inr ⟨rfl, rfl⟩
      · exact Or.inl rfl

variable {tables : ClassId → Classification} {i : Introspector}

theorem Used.extractFields_of_cached (h : Used tables i) {c : ClassObject} {list : FieldList}
    (hc : c.classify = tables c.id) (hlist : i.cached? c.id = some list) :
    extractFields c = .ok list.fields := by
  induction h generalizing list with
  | new => simp [cached?, Introspector.new] at hlist
  | @got i j d _ kept _ hd hget ih =>
    rcases getFields_ok hget with rfl | ⟨hfields, rfl⟩
    · exact ih hlist
    rw [cached?_keep] at hlist
    cases hold : i.cached? c.id with
    | some l =>
      rw [hold, Option.some_or] at hlist
      exact ih (hold.trans hlist)
    | none =>
      rw [hold, Option.none_or, Option.ite_none_right_eq_some] at hlist
      obtain ⟨hid, hkept⟩ := hlist
      obtain rfl := Option.some.inj hkept
      exact extractFields_of_classify (by rw [hc, hid, hd]) hfields
  | forgot id _ ih =>
    rw [cached?_forget] at hlist
    split at hlist
    · simp at hlist
    · exact ih hlist
  | cleared => simp [cached?, clear] at hlist

theorem cached?_of_hit? {id : ClassId} {list : FieldList} (h : i.hit? id = some list) :
    i.cached? id = some list := by
  unfold hit? at h
  split at h
  · exact h
  · cases h

theorem Used.getFields_eq (h : Used tables i) {c : ClassObject} (hc : c.classify = tables c.id)
    {fields : List Descriptor} (hfields : extractFields c = .ok fields) (number : Nat) :
    ∃ list j, i.getFields c number = .ok (list, j) ∧ list.fields = fields := by
  unfold getFields
  cases hhit : i.hit? c.id with
  | none => simp [hfields]
  | some list =>
    have hlist := h.extractFields_of_cached hc (cached?_of_hit? hhit)
    rw [hfields] at hlist
    exact ⟨list, i, rfl, (Except.ok.inj hlist).symm⟩

theorem Used.getFields_error (h : Used tables i) {c : ClassObject} (hc : c.classify = tables c.id)
    {e : FieldError} (hfields : extractFields c = .error e) (number : Nat) :
    i.getFields c number = .error e := by
  unfold getFields
  cases hhit : i.hit? c.id with
  | none => simp [hfields]
  | some list =>
    have hlist := h.extractFields_of_cached hc (cached?_of_hit? hhit)
    rw [hfields] at hlist
    cases hlist

end Introspector

namespace World

theorem getFields_fst (w : World) (via : Option IntrospectorId) (c : ClassObject) :
    ∃ number, (w.getFields via c).1 =
      ((w.introspector via).getFields c number).map Prod.fst := by
  unfold World.getFields
  simp only
  split
  · rename_i h
    exact ⟨_, (congrArg (Except.map Prod.fst) h).symm⟩
  · rename_i h
    exact ⟨_, (congrArg (Except.map Prod.fst) h).symm⟩

theorem map_getFields {w : World} {via : Option IntrospectorId}
    {tables : ClassId → Classification} (h : (w.introspector via).Used tables) {c : ClassObject}
    (hc : c.classify = tables c.id) :
    (w.getFields via c).1.map FieldList.fields = FieldAtlas.extractFields c := by
  obtain ⟨number, hfst⟩ := w.getFields_fst via c
  rw [hfst]
  cases hfields : FieldAtlas.extractFields c with
  | error e =>
    rw [h.getFields_error hc hfields]
    rfl
  | ok fields =>
    obtain ⟨list, j, hget, rfl⟩ := h.getFields_eq hc hfields number
    rw [hget]
    rfl

theorem buildDefinition_fst (w : World) (via : Option IntrospectorId) (c : ClassObject)
    (config : ObjectConfig) : (w.buildDefinition via c config).1 =
      ((w.getFields via c).1.map FieldList.fields).map
        (.ofFields c config (w.introspector via).settings.autoCamelCase) := by
  unfold World.buildDefinition
  split
  · rename_i h
    rw [h]
    rfl
  · rename_i h
    rw [h]
    rfl

theorem buildDefinition_eq {w : World} {via : Option IntrospectorId}
    {tables : ClassId → Classification} (h : (w.introspector via).Used tables) {c : ClassObject}
    (hc : c.classify = tables c.id) {fields : List Descriptor}
    (hfields : FieldAtlas.extractFields c = .ok fields) (config : ObjectConfig) :
    (w.buildDefinition via c config).1 =
      .ok (.ofFields c config (w.introspector via).settings.autoCamelCase fields) := by
  rw [buildDefinition_fst, map_getFields h hc, hfields]
  rfl

end World

end FieldAtlas
