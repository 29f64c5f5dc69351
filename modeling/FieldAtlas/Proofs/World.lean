import FieldAtlas.Proofs.Introspector

/-!
# The introspectors of a world

Every operation of a world leaves its introspectors in use, and gives no identity back.
-/

namespace FieldAtlas

namespace World

structure Used (tables : ClassId → Classification) (w : World) : Prop where
  global : w.global.Used tables
  others : ∀ i ∈ w.others, i.Used tables

structure SameIntrospectors (w v : World) : Prop where
  global : v.global = w.global
  others : v.others = w.others

/-- All introspectors of the world satisfy `Q`. -/
structure Each (Q : Introspector → Prop) (w : World) : Prop where
  global : Q w.global
  others : ∀ i ∈ w.others, Q i

variable {tables : ClassId → Classification} {Q : Introspector → Prop} {w v : World}

theorem Each.introspector (h : w.Each Q) (via : Option IntrospectorId) : Q (w.introspector via) := by
  cases via with
  | none => exact h.global
  | some id =>
    rw [World.introspector, List.getD_eq_getElem?_getD]
    cases hi : w.others[id.index]? with
    | none => exact h.global
    | some i => exact h.others i (List.mem_of_getElem? hi)

theorem Used.each (h : w.Used tables) : w.Each (Introspector.Used tables) := ⟨h.global, h.others⟩

theorem Used.of_each (h : w.Each (Introspector.Used tables)) : w.Used tables := ⟨h.global, h.others⟩

theorem Used.introspector (h : w.Used tables) (via : Option IntrospectorId) :
    (w.introspector via).Used tables :=
  h.each.introspector via

/-! ## Changes of one introspector -/

theorem Each.of_same (h : w.Each Q) (hv : w.SameIntrospectors v) : v.Each Q :=
  ⟨hv.global ▸ h.global, hv.others ▸ h.others⟩

theorem Each.setIntrospector (h : w.Each Q) {i : Introspector} (hi : Q i)
    (via : Option IntrospectorId) : (w.setIntrospector via i).Each Q := by
  cases via with
  | none => exact ⟨hi, h.others⟩
  | some id =>
    refine ⟨h.global, ?_⟩
    intro j hj
    rcases List.mem_or_eq_of_mem_set hj with hj | rfl
    · exact h.others j hj
    · exact hi

theorem Each.newIntrospector (h : w.Each Q) {settings : Settings} (hnew : Q (.new settings)) :
    (w.newIntrospector settings).2.Each Q :=
  ⟨h.global, List.forall_mem_append.mpr ⟨h.others, List.forall_mem_singleton.mpr hnew⟩⟩

theorem Used.of_same (h : w.Used tables) (hv : w.SameIntrospectors v) : v.Used tables :=
  .of_each (h.each.of_same hv)

theorem Used.setIntrospector (h : w.Used tables) {i : Introspector} (hi : i.Used tables)
    (via : Option IntrospectorId) : (w.setIntrospector via i).Used tables :=
  .of_each (h.each.setIntrospector hi via)

theorem Used.newIntrospector (h : w.Used tables) (settings : Settings) :
    (w.newIntrospector settings).2.Used tables :=
  .of_each (h.each.newIntrospector (.new settings))

theorem introspector_newIntrospector (w : World) (settings : Settings) :
    (w.newIntrospector settings).2.introspector (some (w.newIntrospector settings).1) =
      .new settings := by
  simp [World.newIntrospector, World.introspector]

@[simp] theorem nextClass_setIntrospector (w : World) (via : Option IntrospectorId)
    (i : Introspector) : (w.setIntrospector via i).nextClass = w.nextClass := by
  cases via <;> rfl

/-! ## Operations -/

theorem buildRecord_same (w : World) (d : RecordDecl) :
    w.SameIntrospectors (w.buildRecord d).2 := by
  unfold World.buildRecord
  split <;> exact ⟨rfl, rfl⟩

theorem buildStruct_same (w : World) (d : StructDecl) :
    w.SameIntrospectors (w.buildStruct d).2 := by
  unfold World.buildStruct
  split <;> exact ⟨rfl, rfl⟩

theorem buildRecord_fst (w : World) (d : RecordDecl) :
    (w.buildRecord d).1 = d.build w.nextClass := by
  unfold World.buildRecord
  cases d.build w.nextClass <;> rfl

theorem buildStruct_fst (w : World) (d : StructDecl) :
    (w.buildStruct d).1 = d.build w.nextClass := by
  unfold World.buildStruct
  cases d.build w.nextClass <;> rfl

theorem buildRecord_refused {d : RecordDecl} {e : RecordError}
    (h : (w.buildRecord d).1 = .error e) : (w.buildRecord d).2 = w := by
  unfold World.buildRecord at h ⊢
  split at h
  · rfl
  · cases h

theorem buildStruct_refused {d : StructDecl} {e : StructError}
    (h : (w.buildStruct d).1 = .error e) : (w.buildStruct d).2 = w := by
  unfold World.buildStruct at h ⊢
  split at h
  · rfl
  · cases h

theorem produce_same (w : World) (f : Factory) :
    w.SameIntrospectors (w.produce f).2 ∧ (w.produce f).2.nextClass = w.nextClass := by
  unfold World.produce
  split <;> exact ⟨⟨rfl, rfl⟩, rfl⟩

theorem noteExtraction_same (w : World) (c : ClassObject) :
    w.SameIntrospectors (w.noteExtraction c) ∧ (w.noteExtraction c).nextClass = w.nextClass := by
  unfold World.noteExtraction
  split <;> exact ⟨⟨rfl, rfl⟩, rfl⟩

theorem extractFields_same (w : World) (c : ClassObject) :
    w.SameIntrospectors (w.extractFields c).2 ∧ (w.extractFields c).2.nextClass = w.nextClass := by
  obtain ⟨hsame, hnext⟩ := w.noteExtraction_same c
  unfold World.extractFields
  simp only
  split
  · exact ⟨hsame, hnext⟩
  · exact ⟨⟨hsame.global, hsame.others⟩, hnext⟩

theorem extractFields_fst (w : World) (c : ClassObject) :
    (w.extractFields c).1.map FieldList.fields = FieldAtlas.extractFields c := by
  unfold World.extractFields
  simp only
  split
  · rename_i h
    rw [h]
    rfl
  · rename_i h
    rw [h]
    rfl

theorem getFields_snd (w : World) (via : Option IntrospectorId) (c : ClassObject) :
    ∃ v, w.SameIntrospectors v ∧ v.nextClass = w.nextClass ∧ ((w.getFields via c).2 = v ∨
      ∃ number list j, (w.introspector via).getFields c number = .ok (list, j) ∧
        (w.getFields via c).2 = v.setIntrospector via j) := by
  unfold World.getFields
  extract_lets i v
  have hv : w.SameIntrospectors v ∧ v.nextClass = w.nextClass := by
    unfold v
    split
    · exact ⟨⟨rfl, rfl⟩, rfl⟩
    · exact w.noteExtraction_same c
  split
  · exact ⟨v, hv.1, hv.2, Or.inl rfl⟩
  · rename_i list j hget
    refine ⟨{ v with nextList := v.nextList + 1 }, ⟨hv.1.global, hv.1.others⟩, hv.2, Or.inr ?_⟩
    exact ⟨_, list, j, hget, rfl⟩

theorem nextClass_getFields (w : World) (via : Option IntrospectorId) (c : ClassObject) :
    (w.getFields via c).2.nextClass = w.nextClass := by
  obtain ⟨v, _, hnext, hv | ⟨_, _, j, _, hv⟩⟩ := w.getFields_snd via c
  · rw [hv, hnext]
  · rw [hv, nextClass_setIntrospector, hnext]

theorem Each.getFields (h : w.Each Q) (via : Option IntrospectorId) {c : ClassObject}
    (hget : ∀ number list j, (w.introspector via).getFields c number = .ok (list, j) → Q j) :
    (w.getFields via c).2.Each Q := by
  obtain ⟨v, hsame, _, hv | ⟨number, list, j, hj, hv⟩⟩ := w.getFields_snd via c
  · rw [hv]
    exact h.of_same hsame
  · rw [hv]
    exact (h.of_same hsame).setIntrospector (hget number list j hj) via

theorem Used.getFields (h : w.Used tables) (via : Option IntrospectorId) {c : ClassObject}
    (hc : c.classify = tables c.id) : (w.getFields via c).2.Used tables :=
  .of_each (h.each.getFields via fun _ _ _ hget => .got (h.introspector via) hc hget)

theorem buildDefinition_snd (w : World) (via : Option IntrospectorId) (c : ClassObject)
    (config : ObjectConfig) : (w.buildDefinition via c config).2 = (w.getFields via c).2 := by
  unfold World.buildDefinition
  split
  · rename_i h
    rw [h]
  · rename_i h
    rw [h]

theorem definition_snd (w : World) (c : ClassObject) (strict : Bool) :
    (w.definition c strict).2 = w ∨ ∃ via, (w.definition c strict).2 = (w.getFields via c).2 := by
  unfold World.definition
  split
  · exact Or.inl rfl
  · rename_i capability _
    refine Or.inr ⟨capability.via, ?_⟩
    rw [← w.buildDefinition_snd capability.via c capability.config]
    split
    · rename_i h
      rw [h]
    · rename_i h
      rw [h]

/-! ## Places and closures -/

/-- No place has been given and no closure made or called. -/
structure SameStore (w v : World) : Prop where
  nextPlace : v.nextPlace = w.nextPlace
  closures : v.closures = w.closures

theorem setIntrospector_store (w : World) (via : Option IntrospectorId) (i : Introspector) :
    w.SameStore (w.setIntrospector via i) := by
  cases via <;> exact ⟨rfl, rfl⟩

theorem noteExtraction_store (w : World) (c : ClassObject) : w.SameStore (w.noteExtraction c) := by
  unfold World.noteExtraction
  split <;> exact ⟨rfl, rfl⟩

theorem getFields_store (w : World) (via : Option IntrospectorId) (c : ClassObject) :
    w.SameStore (w.getFields via c).2 := by
  unfold World.getFields
  extract_lets i v
  have hv : w.SameStore v := by
    unfold v
    split
    · exact ⟨rfl, rfl⟩
    · exact w.noteExtraction_store c
  split
  · exact hv
  · have hset := setIntrospector_store { v with nextList := v.nextList + 1 } via
    exact ⟨(hset _).nextPlace.trans hv.nextPlace, (hset _).closures.trans hv.closures⟩

theorem extractFields_store (w : World) (c : ClassObject) :
    w.SameStore (w.extractFields c).2 := by
  have hnote := w.noteExtraction_store c
  unfold World.extractFields
  simp only
  split
  · exact hnote
  · exact ⟨hnote.nextPlace, hnote.closures⟩

theorem buildDefinition_store (w : World) (via : Option IntrospectorId) (c : ClassObject)
    (config : ObjectConfig) : w.SameStore (w.buildDefinition via c config).2 := by
  rw [w.buildDefinition_snd via c config]
  exact w.getFields_store via c

theorem definition_store (w : World) (c : ClassObject) (strict : Bool) :
    w.SameStore (w.definition c strict).2 := by
  rcases w.definition_snd c strict with h | ⟨via, h⟩
  · rw [h]
    exact ⟨rfl, rfl⟩
  · rw [h]
    exact w.getFields_store via c

theorem buildRecord_store (w : World) (d : RecordDecl) : w.SameStore (w.buildRecord d).2 := by
  unfold World.buildRecord
  split <;> exact ⟨rfl, rfl⟩

theorem buildStruct_store (w : World) (d : StructDecl) : w.SameStore (w.buildStruct d).2 := by
  unfold World.buildStruct
  split <;> exact ⟨rfl, rfl⟩

end World

end FieldAtlas
