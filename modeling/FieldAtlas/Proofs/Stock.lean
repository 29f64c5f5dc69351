import FieldAtlas.World.Basic

/-!
# Classes that a program has built

A program builds classes one after another, each on bases that it has built before. `Stock.Reached`
is every stock of classes that comes about so, in any world and with anything else in between.
-/

namespace FieldAtlas

/-- A world and the classes built in it, the latest first. -/
structure Stock where
  world : World
  records : List RecordClass
  structs : List StructClass

namespace Stock

/-- One more thing that a program does. Whatever is not a build gives no identity back. -/
inductive Step : Stock → Stock → Prop
  | record {s : Stock} {d : RecordDecl} {c : RecordClass} {w : World}
      (bases : ∀ b ∈ d.bases, b ∈ s.records) (built : s.world.buildRecord d = (.ok c, w)) :
      Step s { s with world := w, records := c :: s.records }
  | struct {s : Stock} {d : StructDecl} {c : StructClass} {w : World}
      (bases : ∀ b ∈ d.bases, b ∈ s.structs) (built : s.world.buildStruct d = (.ok c, w)) :
      Step s { s with world := w, structs := c :: s.structs }
  | other {s : Stock} {w : World} (later : s.world.nextClass.number ≤ w.nextClass.number) :
      Step s { s with world := w }

/-- The stocks that programs have. -/
inductive Reached : Stock → Prop
  | start (w : World) : Reached ⟨w, [], []⟩
  | step {s t : Stock} : Reached s → Step s t → Reached t

end Stock

/-! ## What a build gives -/

theorem World.buildRecord_ok {w w' : World} {d : RecordDecl} {c : RecordClass}
    (h : w.buildRecord d = (.ok c, w')) :
    d.build w.nextClass = .ok c ∧ w'.nextClass = w.nextClass.next := by
  unfold World.buildRecord at h
  split at h
  · simp at h
  · rename_i c' hc
    obtain ⟨hc', rfl⟩ := Prod.mk.inj h
    rw [hc, Except.ok.inj hc']
    exact ⟨rfl, rfl⟩

theorem World.buildStruct_ok {w w' : World} {d : StructDecl} {c : StructClass}
    (h : w.buildStruct d = (.ok c, w')) :
    d.build w.nextClass = .ok c ∧ w'.nextClass = w.nextClass.next := by
  unfold World.buildStruct at h
  split at h
  · simp at h
  · rename_i c' hc
    obtain ⟨hc', rfl⟩ := Prod.mk.inj h
    rw [hc, Except.ok.inj hc']
    exact ⟨rfl, rfl⟩

/-- All that a record class has from the declaration it was built from. -/
structure RecordDecl.Built (d : RecordDecl) (id : ClassId) (c : RecordClass) : Prop where
  sound : d.ownError? = none
  ancestors : d.ancestors? = some c.ancestors
  fields : c.fields = d.table c.ancestors
  placed : RecordDecl.misplaced? c.fields = none
  id_eq : c.id = id
  name_eq : c.name = d.name
  bases_eq : c.bases = d.bases
  own_eq : c.own = d.fields

theorem RecordDecl.build_ok {d : RecordDecl} {id : ClassId} {c : RecordClass}
    (h : d.build id = .ok c) : d.Built id c := by
  unfold RecordDecl.build at h
  split at h
  · simp at h
  rename_i hown
  split at h
  · simp at h
  rename_i ancestors hancestors
  simp only at h
  split at h
  · simp at h
  rename_i hplaced
  obtain rfl := Except.ok.inj h
  exact ⟨hown, hancestors, rfl, hplaced, rfl, rfl, rfl, rfl⟩

/-- All that a struct class has from the declaration it was built from. -/
structure StructDecl.Built (d : StructDecl) (c : StructClass) : Prop where
  sound : d.ownError? = none
  placed : Table.misplaced? StructField.hasDefault false (d.declared.filter fun f => !f.kwOnly) = none
  layout : c.layout = .ofFields (d.declared.filter fun f => !f.kwOnly).length
    ((d.declared.filter fun f => !f.kwOnly) ++ d.declared.filter fun f => f.kwOnly)
  overrides : c.overrides = d.mergedOverrides
  name_eq : c.name = d.name
  bases_eq : c.bases = d.bases
  own_eq : c.own = d.fields
  ownOverrides_eq : c.ownOverrides = d.overrides
  ownKwOnly_eq : c.ownKwOnly = d.kwOnly

theorem StructDecl.build_ok {d : StructDecl} {id : ClassId} {c : StructClass}
    (h : d.build id = .ok c) : d.Built c ∧ c.id = id := by
  unfold StructDecl.build at h
  split at h
  · simp at h
  rename_i hown
  simp only at h
  split at h
  · simp at h
  rename_i hplaced
  obtain rfl := Except.ok.inj h
  exact ⟨⟨hown, hplaced, rfl, rfl, rfl, rfl, rfl, rfl, rfl⟩, rfl⟩

namespace Stock

variable {s : Stock}

theorem Reached.record (hs : s.Reached) {d : RecordDecl} {c : RecordClass}
    (bases : ∀ b ∈ d.bases, b ∈ s.records) (build : d.build s.world.nextClass = .ok c) :
    ∃ w, Reached ⟨w, c :: s.records, s.structs⟩ ∧ w.nextClass = s.world.nextClass.next := by
  refine ⟨(s.world.buildRecord d).2, hs.step (.record bases (Prod.ext ?_ rfl)), ?_⟩
  · rw [World.buildRecord, build]
  · rw [World.buildRecord, build]
    rfl

theorem Reached.struct (hs : s.Reached) {d : StructDecl} {c : StructClass}
    (bases : ∀ b ∈ d.bases, b ∈ s.structs) (build : d.build s.world.nextClass = .ok c) :
    ∃ w, Reached ⟨w, s.records, c :: s.structs⟩ ∧ w.nextClass = s.world.nextClass.next := by
  refine ⟨(s.world.buildStruct d).2, hs.step (.struct bases (Prod.ext ?_ rfl)), ?_⟩
  · rw [World.buildStruct, build]
  · rw [World.buildStruct, build]
    rfl

theorem exists_reached_record {d : RecordDecl} {c : RecordClass} {id : ClassId}
    (hbases : d.bases = []) (build : d.build id = .ok c) : ∃ w, Reached ⟨w, [c], []⟩ := by
  obtain ⟨w, h, _⟩ := (Reached.start (.start id 0 [])).record (by simp [hbases]) build
  exact ⟨w, h⟩

theorem exists_reached_struct {d : StructDecl} {c : StructClass} {id : ClassId}
    (hbases : d.bases = []) (build : d.build id = .ok c) : ∃ w, Reached ⟨w, [], [c]⟩ := by
  obtain ⟨w, h, _⟩ := (Reached.start (.start id 0 [])).struct (by simp [hbases]) build
  exact ⟨w, h⟩

theorem Reached.recordAt {w : World} {rs : List RecordClass} {ts : List StructClass}
    (hs : Reached ⟨w, rs, ts⟩) {n : Nat} (next : w.nextClass = ⟨n⟩) (d : RecordDecl)
    (c : RecordClass) (bases : ∀ b ∈ d.bases, b ∈ rs) (build : d.build ⟨n⟩ = .ok c) :
    ∃ w, Reached ⟨w, c :: rs, ts⟩ ∧ w.nextClass = ⟨n + 1⟩ := by
  obtain ⟨w', h, hnext⟩ := hs.record bases (next ▸ build)
  exact ⟨w', h, by rw [hnext, next]; rfl⟩

theorem Reached.structAt {w : World} {rs : List RecordClass} {ts : List StructClass}
    (hs : Reached ⟨w, rs, ts⟩) {n : Nat} (next : w.nextClass = ⟨n⟩) (d : StructDecl)
    (c : StructClass) (bases : ∀ b ∈ d.bases, b ∈ ts) (build : d.build ⟨n⟩ = .ok c) :
    ∃ w, Reached ⟨w, rs, c :: ts⟩ ∧ w.nextClass = ⟨n + 1⟩ := by
  obtain ⟨w', h, hnext⟩ := hs.struct bases (next ▸ build)
  exact ⟨w', h, by rw [hnext, next]; rfl⟩

/-! ## Facts about every stock -/

theorem Reached.id_lt (hs : s.Reached) :
    ∀ c ∈ s.records, c.id.number < s.world.nextClass.number := by
  induction hs with
  | start => simp
  | step _ step ih =>
    cases step with
    | record _ built =>
      obtain ⟨hbuild, hnext⟩ := World.buildRecord_ok built
      intro c hc
      simp only [hnext, ClassId.next]
      rcases List.mem_cons.mp hc with rfl | hc
      · rw [(RecordDecl.build_ok hbuild).id_eq]
        omega
      · have := ih c hc
        omega
    | struct _ built =>
      intro c hc
      have := ih c hc
      simp only [(World.buildStruct_ok built).2, ClassId.next]
      omega
    | other later =>
      intro c hc
      exact Nat.lt_of_lt_of_le (ih c hc) later

/-- A property of record classes holds of a whole stock if each build passes it on from all classes
that were there before. -/
theorem Reached.records_induction {P : RecordClass → Prop} (hs : s.Reached)
    (build : ∀ (t : Stock) (d : RecordDecl) (id : ClassId) (c : RecordClass), t.Reached →
      (∀ b ∈ t.records, P b) → (∀ b ∈ t.records, b.id.number < id.number) →
      (∀ b ∈ d.bases, b ∈ t.records) → d.build id = .ok c → P c) :
    ∀ c ∈ s.records, P c := by
  induction hs with
  | start => simp
  | step ht step ih =>
    cases step with
    | record bases built =>
      intro c hc
      rcases List.mem_cons.mp hc with rfl | hc
      · exact build _ _ _ _ ht ih ht.id_lt bases (World.buildRecord_ok built).1
      · exact ih c hc
    | struct => exact ih
    | other => exact ih

theorem Reached.exists_recordBuilt (hs : s.Reached) :
    ∀ c ∈ s.records, ∃ (d : RecordDecl) (id : ClassId), d.Built id c := by
  apply hs.records_induction (P := fun c => ∃ (d : RecordDecl) (id : ClassId), d.Built id c)
  intro _ d id _ _ _ _ _ h
  exact ⟨d, id, RecordDecl.build_ok h⟩

theorem Reached.exists_structBuilt (hs : s.Reached) :
    ∀ c ∈ s.structs, ∃ d : StructDecl, d.Built c ∧ ∀ b ∈ c.bases, b ∈ s.structs := by
  induction hs with
  | start => simp
  | step _ step ih =>
    cases step with
    | record => exact ih
    | @struct d c _ bases built =>
      obtain ⟨hbuilt, _⟩ := StructDecl.build_ok (World.buildStruct_ok built).1
      intro x hx
      rcases List.mem_cons.mp hx with rfl | hx
      · refine ⟨d, hbuilt, ?_⟩
        intro b hb
        rw [hbuilt.bases_eq] at hb
        exact List.mem_cons_of_mem _ (bases b hb)
      · obtain ⟨d, hd, hb⟩ := ih x hx
        exact ⟨d, hd, fun b hbx => List.mem_cons_of_mem _ (hb b hbx)⟩
    | other => exact ih

theorem Reached.mem_of_mem_structBases (hs : s.Reached) {c b : StructClass} (hc : c ∈ s.structs)
    (hb : b ∈ c.bases) : b ∈ s.structs := by
  obtain ⟨_, _, hbases⟩ := hs.exists_structBuilt c hc
  exact hbases b hb

/-- A property of struct classes goes down the hierarchy, from the bases to a class. -/
theorem Reached.structs_induction {P : StructClass → Prop} (hs : s.Reached)
    (down : ∀ c ∈ s.structs, (∀ b ∈ c.bases, P b) → P c) : ∀ c ∈ s.structs, P c := by
  have hall : ∀ n, ∀ c ∈ s.structs, sizeOf c = n → P c := by
    intro n
    induction n using Nat.strongRecOn with
    | ind n ih =>
      intro c hc hn
      apply down c hc
      intro b hb
      have hlt : sizeOf b < sizeOf c := by
        have := List.sizeOf_lt_of_mem hb
        cases c
        simp only [StructClass.mk.sizeOf_spec] at this ⊢
        omega
      exact ih (sizeOf b) (by omega) b (hs.mem_of_mem_structBases hc hb) rfl
  exact fun c hc => hall _ c hc rfl

theorem Reached.eq_of_id_eq (hs : s.Reached) :
    ∀ a ∈ s.records, ∀ b ∈ s.records, a.id = b.id → a = b := by
  induction hs with
  | start => simp
  | @step t _ ht step ih =>
    cases step with
    | @record _ c _ _ built =>
      have hid := (RecordDecl.build_ok (World.buildRecord_ok built).1).id_eq
      have hne : ∀ b ∈ t.records, b.id ≠ c.id := by
        intro b hb h
        have := ht.id_lt b hb
        rw [h, hid] at this
        omega
      intro a ha b hb heq
      rcases List.mem_cons.mp ha with rfl | ha' <;> rcases List.mem_cons.mp hb with rfl | hb'
      · rfl
      · exact absurd heq.symm (hne b hb')
      · exact absurd heq (hne a ha')
      · exact ih a ha' b hb' heq
    | struct => exact ih
    | other => exact ih

end Stock

end FieldAtlas
