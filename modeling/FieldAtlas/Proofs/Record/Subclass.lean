import FieldAtlas.Proofs.Record.Hierarchy

/-!
# Subclasses

The subclass test looks for an identity in the resolution order. It comes to reachability by bases,
which is a partial order of the classes of a program: every class is younger than all above it.
-/

namespace FieldAtlas

namespace RecordClass

/-- `a` is reached from `c` by following bases one or more times. -/
def DerivesProperly (c a : RecordClass) : Prop :=
  Relation.TransGen (fun x b => b ∈ x.bases) c a

theorem derivesProperly_iff (c a : RecordClass) :
    c.DerivesProperly a ↔ ∃ b ∈ c.bases, b.Derives a :=
  Relation.TransGen.head'_iff

theorem Derives.trans {a b c : RecordClass} (hab : a.Derives b) (hbc : b.Derives c) : a.Derives c :=
  Relation.ReflTransGen.trans hab hbc

/-- Two different classes that are reached from each other lie on a circle of bases. -/
theorem Derives.eq_or_circle {a b : RecordClass} (hab : a.Derives b) (hba : b.Derives a) :
    a = b ∨ a.DerivesProperly a := by
  rcases (a.derives_iff b).mp hab with rfl | ⟨x, hx, hxb⟩
  · exact Or.inl rfl
  · exact Or.inr ((a.derivesProperly_iff a).mpr ⟨x, hx, hxb.trans hba⟩)

end RecordClass

namespace Stock

variable {s : Stock}

/-! ## Identities -/

def ids (s : Stock) : List ClassId := s.records.map RecordClass.id ++ s.structs.map StructClass.id

theorem Reached.struct_id_lt (hs : s.Reached) :
    ∀ t ∈ s.structs, t.id.number < s.world.nextClass.number := by
  induction hs with
  | start => simp
  | step _ step ih =>
    cases step with
    | record _ built =>
      intro t ht
      simp only [(World.buildRecord_ok built).2, ClassId.next]
      exact Nat.lt_succ_of_lt (ih t ht)
    | struct _ built =>
      obtain ⟨hbuild, hnext⟩ := World.buildStruct_ok built
      intro t ht
      simp only [hnext, ClassId.next]
      rcases List.mem_cons.mp ht with rfl | ht
      · rw [(StructDecl.build_ok hbuild).2]
        exact Nat.lt_succ_self _
      · exact Nat.lt_succ_of_lt (ih t ht)
    | other later => exact fun t ht => Nat.lt_of_lt_of_le (ih t ht) later

theorem Reached.ids_lt (hs : s.Reached) : ∀ i ∈ s.ids, i.number < s.world.nextClass.number := by
  intro i hi
  rcases List.mem_append.mp hi with hi | hi
  · obtain ⟨c, hc, rfl⟩ := List.mem_map.mp hi
    exact hs.id_lt c hc
  · obtain ⟨t, ht, rfl⟩ := List.mem_map.mp hi
    exact hs.struct_id_lt t ht

theorem Reached.nodup_ids (hs : s.Reached) : s.ids.Nodup := by
  induction hs with
  | start => exact List.nodup_nil
  | @step t _ ht step ih =>
    have hnew : t.world.nextClass ∉ t.ids := fun h => Nat.lt_irrefl _ (ht.ids_lt _ h)
    cases step with
    | @record _ c _ _ built =>
      have hid : c.id = t.world.nextClass :=
        (RecordDecl.build_ok (World.buildRecord_ok built).1).id_eq
      exact List.nodup_cons.mpr ⟨hid ▸ hnew, ih⟩
    | @struct _ c _ _ built =>
      have hid : c.id = t.world.nextClass := (StructDecl.build_ok (World.buildStruct_ok built).1).2
      rw [ids, List.map_cons, List.nodup_middle]
      exact List.nodup_cons.mpr ⟨hid ▸ hnew, ih⟩
    | other => exact ih

/-! ## The subclass test -/

variable {a b c : RecordClass}

theorem Reached.mem_ancestors_iff (hs : s.Reached) (hc : c ∈ s.records) :
    a ∈ c.ancestors ↔ c.DerivesProperly a := by
  rw [(hs.resolves c hc).mem_iff, RecordClass.derivesProperly_iff]

theorem Reached.id_lt_of_derivesProperly (hs : s.Reached) (hc : c ∈ s.records)
    (h : c.DerivesProperly a) : a.id.number < c.id.number :=
  (hs.ordered c hc).older a ((hs.mem_ancestors_iff hc).mpr h)

theorem Reached.isSubclassOf_iff (hs : s.Reached) (ha : a ∈ s.records) (hb : b ∈ s.records) :
    a.isSubclassOf b = true ↔ a.Derives b := by
  rw [← (hs.ordered a ha).mem_iff, RecordClass.isSubclassOf, List.any_eq_true]
  constructor
  · rintro ⟨x, hx, hid⟩
    -- An identity stands for one class, so that nothing but `b` itself is found.
    have heq : x = b := hs.eq_of_id_eq x (hs.mem_of_mem_mro a ha x hx) b hb (eq_of_beq hid)
    exact heq ▸ hx
  · exact fun h => ⟨b, h, beq_self_eq_true b.id⟩

theorem Reached.derives_antisymm (hs : s.Reached) (ha : a ∈ s.records) (hab : a.Derives b)
    (hba : b.Derives a) : a = b := by
  rcases hab.eq_or_circle hba with heq | hcircle
  · exact heq
  · exact absurd (hs.id_lt_of_derivesProperly ha hcircle) (Nat.lt_irrefl _)

end Stock

/-- A class is a subclass of those that are reached from it by bases, and of no others. This orders
the classes of a program, each of which has an identity of its own and a greater one than all that
are above it. -/
theorem subclass_iff_reached {s : Stock} (hs : s.Reached) :
    (∀ a ∈ s.records, ∀ b ∈ s.records, a.isSubclassOf b = true ↔ a.Derives b) ∧
    (∀ a ∈ s.records, a.isSubclassOf a = true) ∧
    (∀ a ∈ s.records, ∀ b ∈ s.records, ∀ c ∈ s.records, a.isSubclassOf b = true →
      b.isSubclassOf c = true → a.isSubclassOf c = true) ∧
    (∀ a ∈ s.records, ∀ b ∈ s.records, a.isSubclassOf b = true → b.isSubclassOf a = true →
      a.id = b.id) ∧
    (∀ c ∈ s.records, ∀ a, c.DerivesProperly a → a.id.number < c.id.number) ∧
    s.ids.Nodup := by
  have htest : ∀ a ∈ s.records, ∀ b ∈ s.records, a.isSubclassOf b = true ↔ a.Derives b :=
    fun a ha b hb => hs.isSubclassOf_iff ha hb
  refine ⟨htest, ?_, ?_, ?_, fun c hc a h => hs.id_lt_of_derivesProperly hc h, hs.nodup_ids⟩
  · intro a ha
    exact (htest a ha a ha).mpr Relation.ReflTransGen.refl
  · intro a ha b hb c hc hab hbc
    rw [htest a ha b hb] at hab
    rw [htest b hb c hc] at hbc
    exact (htest a ha c hc).mpr (hab.trans hbc)
  · intro a ha b hb hab hba
    rw [htest a ha b hb] at hab
    rw [htest b hb a ha] at hba
    rw [hs.derives_antisymm ha hab hba]

open Diamond in
/-- The root is two steps up, by either side. -/
theorem subclass_iff_reached_bottom : ∃ w, Stock.Reached ⟨w, [bottom, right, left, root], []⟩ ∧
    root ∉ bottom.bases ∧ bottom.Derives root ∧ ¬ root.Derives bottom ∧ ¬ left.Derives right := by
  obtain ⟨w, hw⟩ := reached_bottom
  obtain ⟨htest, -⟩ := subclass_iff_reached hw
  have hbases : root ∉ bottom.bases := by
    intro h
    simp [bottom, left, right, root] at h
  refine ⟨w, hw, hbases, ?_, ?_, ?_⟩
  · exact (htest bottom (by simp) root (by simp)).mp rfl
  · rw [← htest root (by simp) bottom (by simp)]
    decide
  · rw [← htest left (by simp) right (by simp)]
    decide

end FieldAtlas
