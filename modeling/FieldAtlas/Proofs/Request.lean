import FieldAtlas.Proofs.World

/-!
# Requests

What the introspectors of a world can be asked, and what each request does to them: it changes one
introspector at most.
-/

namespace FieldAtlas

/-! ## One introspector -/

namespace Introspector

/-- What a success for the class `id` comes to, where `number` is the next free number. -/
structure Gives (i : Introspector) (id : ClassId) (number : Nat) (list : FieldList)
    (j : Introspector) : Prop where
  settings : j.settings = i.settings
  cached : ∀ k, j.cached? k =
    if i.settings.cacheFields = true ∧ k = id then some list else i.cached? k
  kept : i.settings.cacheFields = true → ∀ l, i.cached? id = some l → list = l
  new : (i.settings.cacheFields = true → i.cached? id = none) → list.number = number

theorem getFields_gives {i j : Introspector} {c : ClassObject} {number : Nat} {list : FieldList}
    (h : i.getFields c number = .ok (list, j)) : i.Gives c.id number list j := by
  unfold getFields hit? at h
  cases hon : i.settings.cacheFields with
  | false =>
    cases hfields : extractFields c with
    | error e => simp [hon, hfields] at h
    | ok fields =>
      simp only [hon, hfields, Bool.false_eq_true, if_false, Except.ok.injEq, Prod.mk.injEq] at h
      obtain ⟨rfl, rfl⟩ := h
      exact ⟨rfl, by simp [hon], by simp [hon], fun _ => rfl⟩
  | true =>
    simp only [hon, if_true] at h
    cases hold : i.cached? c.id with
    | some l =>
      -- The list that is kept is handed out again, and the cache stays as it is.
      simp only [hold, Except.ok.injEq, Prod.mk.injEq] at h
      obtain ⟨rfl, rfl⟩ := h
      refine ⟨rfl, ?_, ?_, ?_⟩
      · intro k
        split
        · rename_i hk
          rw [hk.2, hold]
        · rfl
      · intro _ m hm
        exact Option.some.inj (hold.symm.trans hm)
      · intro hnone
        rw [hnone hon] at hold
        cases hold
    | none =>
      cases hfields : extractFields c with
      | error e => simp [hold, hfields] at h
      | ok fields =>
        simp only [hold, hfields, Except.ok.injEq, Prod.mk.injEq] at h
        obtain ⟨rfl, rfl⟩ := h
        refine ⟨?_, ?_, ?_, fun _ => rfl⟩
        · simp [keep, hold]
        · intro k
          rw [cached?_keep]
          by_cases hk : k = c.id
          · simp [hk, hon, hold]
          · simp [hk]
        · intro _ m hm
          rw [hold] at hm
          cases hm

@[simp] theorem cached?_clear (i : Introspector) (k : ClassId) : i.clear.cached? k = none := rfl

end Introspector

/-! ## The introspectors of a world -/

namespace World

/-- The handle is on an introspector of the world. -/
def Has (w : World) : Option IntrospectorId → Prop
  | none => True
  | some id => id.index < w.others.length

theorem has_global (w : World) : w.Has none := trivial

/-- The introspector that is meant has become `j`, and no other has changed. -/
structure Became (w : World) (via : Option IntrospectorId) (j : Introspector) (v : World) :
    Prop where
  has : ∀ a, v.Has a ↔ w.Has a
  introspector : ∀ a, w.Has a → v.introspector a = if a = via then j else w.introspector a

variable {w v : World} {via : Option IntrospectorId}

theorem has_of_same (h : w.SameIntrospectors v) (a : Option IntrospectorId) :
    v.Has a ↔ w.Has a := by
  cases a with
  | none => exact Iff.rfl
  | some id => rw [Has, Has, h.others]

theorem introspector_of_same (h : w.SameIntrospectors v) (a : Option IntrospectorId) :
    v.introspector a = w.introspector a := by
  cases a with
  | none => exact h.global
  | some id => rw [World.introspector, World.introspector, h.others, h.global]

theorem has_newIntrospector (w : World) (settings : Settings) (a : Option IntrospectorId) :
    (w.newIntrospector settings).2.Has a ↔
      w.Has a ∨ a = some (w.newIntrospector settings).1 := by
  cases a with
  | none => simp [Has]
  | some id =>
    have hlast : id = ⟨w.others.length⟩ ↔ id.index = w.others.length := by
      cases id
      simp
    simp only [Has, World.newIntrospector, List.length_append, List.length_singleton,
      Option.some.injEq, hlast]
    omega

theorem introspector_newIntrospector_of_has {a : Option IntrospectorId} (h : w.Has a)
    (settings : Settings) :
    (w.newIntrospector settings).2.introspector a = w.introspector a := by
  cases a with
  | none => rfl
  | some id =>
    have hid : id.index < w.others.length := h
    simp [World.newIntrospector, World.introspector, List.getElem?_append_left hid]

theorem not_has_newIntrospector (w : World) (settings : Settings) :
    ¬ w.Has (some (w.newIntrospector settings).1) := by
  simp [Has, World.newIntrospector]

theorem became_setIntrospector (known : w.Has via) (j : Introspector) :
    w.Became via j (w.setIntrospector via j) := by
  cases via with
  | none =>
    refine ⟨fun a => by cases a <;> exact Iff.rfl, ?_⟩
    intro a ha
    cases a with
    | none => rfl
    | some id =>
      have hid : id.index < w.others.length := ha
      simp [World.introspector, setIntrospector, hid]
  | some k =>
    have hk : k.index < w.others.length := known
    refine ⟨fun a => by cases a <;> simp [Has, setIntrospector], ?_⟩
    intro a ha
    cases a with
    | none => rfl
    | some id =>
      have hid : id.index < w.others.length := ha
      rw [World.introspector, setIntrospector, List.getD_eq_getElem?_getD, List.getElem?_set]
      by_cases heq : k = id
      · simp [heq, hid]
      · have hne : k.index ≠ id.index := fun h => heq (congrArg IntrospectorId.mk h)
        simp [hne, Ne.symm heq, World.introspector]

@[simp] theorem nextList_setIntrospector (w : World) (via : Option IntrospectorId)
    (i : Introspector) : (w.setIntrospector via i).nextList = w.nextList := by
  cases via <;> rfl

@[simp] theorem nextList_noteExtraction (w : World) (c : ClassObject) :
    (w.noteExtraction c).nextList = w.nextList := by
  unfold World.noteExtraction
  split <;> rfl

theorem getFields_became (known : w.Has via) (c : ClassObject) :
    (∃ e, (w.getFields via c).1 = .error e ∧ w.SameIntrospectors (w.getFields via c).2 ∧
      (w.getFields via c).2.nextList = w.nextList) ∨
    ∃ l j, (w.getFields via c).1 = .ok l ∧ (w.introspector via).Gives c.id w.nextList l j ∧
      w.Became via j (w.getFields via c).2 ∧ (w.getFields via c).2.nextList = w.nextList + 1 := by
  unfold World.getFields
  extract_lets i v
  have hv : w.SameIntrospectors v ∧ v.nextList = w.nextList := by
    unfold v
    split
    · exact ⟨⟨rfl, rfl⟩, rfl⟩
    · exact ⟨(w.noteExtraction_same c).1, w.nextList_noteExtraction c⟩
  obtain ⟨hsame, hnext⟩ := hv
  rw [hnext]
  split
  · exact Or.inl ⟨_, rfl, hsame, hnext⟩
  · rename_i l j hget
    have hsame' : w.SameIntrospectors { v with nextList := w.nextList + 1 } :=
      ⟨hsame.global, hsame.others⟩
    have hset := became_setIntrospector ((has_of_same hsame' via).mpr known) j
    refine Or.inr ⟨l, j, rfl, Introspector.getFields_gives hget, ⟨?_, ?_⟩,
      nextList_setIntrospector _ via j⟩
    · exact fun a => (hset.has a).trans (has_of_same hsame' a)
    · intro a ha
      rw [hset.introspector a ((has_of_same hsame' a).mpr ha), introspector_of_same hsame']

theorem definition_of_capability {c : ClassObject} {o : ObjectCapability}
    (h : c.capability? = some o) (w : World) (strict : Bool) :
    w.definition c strict =
      ((w.buildDefinition o.via c o.config).1.map some, (w.getFields o.via c).2) := by
  rw [← w.buildDefinition_snd o.via c o.config]
  unfold World.definition
  rw [h]
  simp only
  split
  · rename_i heq
    rw [heq]
    rfl
  · rename_i heq
    rw [heq]
    rfl

end World

/-! ## Histories -/

/-- Something that is asked of the introspectors of a world, and the answer. -/
inductive Request where
  /-- The fields of a class, for a caller or for a definition. -/
  | fields (via : Option IntrospectorId) (id : ClassId) (found : Except FieldError FieldList)
  | kept (via : Option IntrospectorId) (id : ClassId) (list : Option FieldList)
  | forget (via : Option IntrospectorId) (id : ClassId) (was : Bool)
  | clear (via : Option IntrospectorId)
  /-- The fields of a class without any introspector. -/
  | extraction (found : Except FieldError FieldList)
  | other

namespace Request

/-- The list that was handed out. -/
def list? : Request → Option FieldList
  | fields _ _ (.ok l) => some l
  | extraction (.ok l) => some l
  | _ => none

/-- The lists that have been found for a class after the request, where `before` are those until
then. -/
def after (via : Option IntrospectorId) (id : ClassId) (before : List FieldList) :
    Request → List FieldList
  | fields a k (.ok l) => if a = via ∧ k = id then l :: before else before
  | forget a k _ => if a = via ∧ k = id then [] else before
  | clear a => if a = via then [] else before
  | _ => before

/-- The lists that have been found for a class since it was last dropped, the latest first. -/
def found (via : Option IntrospectorId) (id : ClassId) : List Request → List FieldList
  | [] => []
  | r :: rs => r.after via id (found via id rs)

/-- The request neither keeps nor drops a list of the class. -/
def Leaves (via : Option IntrospectorId) (id : ClassId) : Request → Prop
  | fields a k (.ok _) => ¬ (a = via ∧ k = id)
  | forget a k _ => ¬ (a = via ∧ k = id)
  | clear a => a ≠ via
  | _ => True

end Request

namespace World

/-- One request, and the world after it. A definition is made over the fields that it asks for. -/
inductive Answers (w : World) : Request → World → Prop
  | getFields {via : Option IntrospectorId} (known : w.Has via) (c : ClassObject) :
      Answers w (.fields via c.id (w.getFields via c).1) (w.getFields via c).2
  | buildDefinition {via : Option IntrospectorId} (known : w.Has via) (c : ClassObject)
      (config : ObjectConfig) :
      Answers w (.fields via c.id (w.getFields via c).1) (w.buildDefinition via c config).2
  | definition {c : ClassObject} {o : ObjectCapability} (capable : c.capability? = some o)
      (known : w.Has o.via) (strict : Bool) :
      Answers w (.fields o.via c.id (w.getFields o.via c).1) (w.definition c strict).2
  | cached {via : Option IntrospectorId} (known : w.Has via) (c : ClassObject) :
      Answers w (.kept via c.id (w.cached? via c)) w
  | forget {via : Option IntrospectorId} (known : w.Has via) (c : ClassObject) :
      Answers w (.forget via c.id (w.forget via c).1) (w.forget via c).2
  | clear {via : Option IntrospectorId} (known : w.Has via) : Answers w (.clear via) (w.clear via)
  | extractFields (c : ClassObject) :
      Answers w (.extraction (w.extractFields c).1) (w.extractFields c).2
  | introspector (settings : Settings) : Answers w .other (w.newIntrospector settings).2
  /-- Classes, values and products leave the introspectors alone. -/
  | other {v : World} (same : w.SameIntrospectors v) (later : w.nextList ≤ v.nextList) :
      Answers w .other v

/-- All requests so far, the latest first, in a world whose introspectors had seen nothing. -/
inductive History : List Request → World → Prop
  | start {w : World} (global : w.global.cache = []) (others : w.others = []) : History [] w
  | answer {rs : List Request} {r : Request} {w v : World} :
      History rs w → w.Answers r v → History (r :: rs) v

/-- What one request can do to the introspectors. -/
inductive Effect (w : World) : Request → World → Prop
  | found {via : Option IntrospectorId} {id : ClassId} {l : FieldList} {j : Introspector}
      {v : World} (known : w.Has via) (gives : (w.introspector via).Gives id w.nextList l j)
      (became : w.Became via j v) (next : v.nextList = w.nextList + 1) :
      Effect w (.fields via id (.ok l)) v
  | forgot {via : Option IntrospectorId} {id : ClassId} {v : World} (known : w.Has via)
      (became : w.Became via ((w.introspector via).forget id) v) (next : v.nextList = w.nextList) :
      Effect w (.forget via id ((w.introspector via).cached? id).isSome) v
  | cleared {via : Option IntrospectorId} {v : World} (known : w.Has via)
      (became : w.Became via (w.introspector via).clear v) (next : v.nextList = w.nextList) :
      Effect w (.clear via) v
  | introspector (settings : Settings) : Effect w .other (w.newIntrospector settings).2
  | quiet {r : Request} {v : World} (leaves : ∀ a k, r.Leaves a k)
      (same : w.SameIntrospectors v) (later : w.nextList ≤ v.nextList)
      (new : ∀ l, r.list? = some l → l.number = w.nextList ∧ w.nextList < v.nextList) :
      Effect w r v

variable {w v : World} {via : Option IntrospectorId} {r : Request}

theorem Effect.of_getFields (known : w.Has via) (c : ClassObject) :
    w.Effect (.fields via c.id (w.getFields via c).1) (w.getFields via c).2 := by
  rcases getFields_became known c with
    ⟨e, herror, hsame, hnext⟩ | ⟨l, j, hok, hgives, hbecame, hnext⟩
  · rw [herror]
    exact .quiet (fun _ _ => trivial) hsame (Nat.le_of_eq hnext.symm) (by simp [Request.list?])
  · rw [hok]
    exact .found known hgives hbecame hnext

theorem extractFields_list (w : World) (c : ClassObject) :
    (∃ e, (w.extractFields c).1 = .error e ∧ (w.extractFields c).2.nextList = w.nextList) ∨
    ∃ l, (w.extractFields c).1 = .ok l ∧ l.number = w.nextList ∧
      (w.extractFields c).2.nextList = w.nextList + 1 := by
  have hnote := w.nextList_noteExtraction c
  unfold World.extractFields
  simp only
  split
  · exact Or.inl ⟨_, rfl, hnote⟩
  · exact Or.inr ⟨_, rfl, hnote, by rw [hnote]⟩

theorem Answers.effect (h : w.Answers r v) : w.Effect r v := by
  cases h with
  | getFields known c => exact .of_getFields known c
  | buildDefinition known c config =>
    rw [buildDefinition_snd]
    exact .of_getFields known c
  | @definition c o capable known strict =>
    rw [definition_of_capability capable]
    exact .of_getFields known c
  | cached known c =>
    exact .quiet (fun _ _ => trivial) ⟨rfl, rfl⟩ (Nat.le_refl _) (by simp [Request.list?])
  | @forget via known c =>
    exact .forgot known (became_setIntrospector known _) (nextList_setIntrospector ..)
  | @clear via known =>
    exact .cleared known (became_setIntrospector known _) (nextList_setIntrospector ..)
  | extractFields c =>
    have hsame := (w.extractFields_same c).1
    rcases w.extractFields_list c with ⟨e, herror, hnext⟩ | ⟨l, hok, hnumber, hnext⟩
    · rw [herror]
      exact .quiet (fun _ _ => trivial) hsame (Nat.le_of_eq hnext.symm) (by simp [Request.list?])
    · rw [hok]
      refine .quiet (fun _ _ => trivial) hsame (by omega) ?_
      rintro m ⟨⟩
      exact ⟨hnumber, by omega⟩
  | introspector settings => exact .introspector settings
  | other same later => exact .quiet (fun _ _ => trivial) same later (by simp [Request.list?])

end World

end FieldAtlas
