import FieldAtlas.Declaration.Declare
import FieldAtlas.Proofs.Declaration.Plan
import FieldAtlas.Proofs.Declaration.Remarks
import FieldAtlas.Proofs.Session.Run

/-!
# Sessions over declared classes

The fields of a declaration have places of their own, at which their defaults stand. So a catalogue
has a memory, and a session over it starts in this memory.
-/

namespace FieldAtlas

open FieldAtlas.Source

/-! ## What is written -/

variable {m : Memory}

theorem Value.kept_numbered {n : Nat} {s : Scalar}
    (h : m[n]? = some (scalar (.numbered n) s)) : (scalar (.numbered n) s).Kept m :=
  ⟨.mk h fun _ hx => (nomatch hx), Or.inl nofun⟩

theorem Remark.kept_of_value? {r : Remark} {v : Value} (h : r.value? = some v) : v.Kept m := by
  unfold value? at h
  split at h
  · cases h
    exact Value.kept_ofScalar (beq_self_eq_true _)
  · cases h
    exact Value.kept_ofScalar (beq_self_eq_true _)
  · split at h
    · cases h
      exact Value.kept_ofScalar (beq_self_eq_true _)
    · cases h
  · rename_i d
    split at h
    · rename_i hfinite
      have hnan := Double.isNaN_of_isFinite hfinite
      cases h
      exact Value.kept_ofScalar ((Double.same_iff d d).mpr ⟨hnan, hnan, Or.inl rfl⟩)
    · cases h

namespace DeclaredField

variable {f : DeclaredField} {M : Meaning} {i : Nat}

theorem default?_plan {kind : DeclaredKind} {d : DefaultCode} (h : f.default = some d) :
    (f.plan kind i).default? = some d := by
  unfold FieldPlan.default? plan calls slotCalls
  rw [h]
  cases kind <;> rfl

variable (f) in
theorem kept_remarks : ∀ e ∈ f.remarks [], e.2.Kept m := by
  intro e he
  rw [f.remarks_nil] at he
  rcases Dict.mem_extend he with he | he
  · obtain ⟨r, _, hr⟩ := List.mem_filterMap.mp he
    obtain ⟨v, hv, rfl⟩ := Option.map_eq_some_iff.mp hr
    exact Remark.kept_of_value? hv
  · cases he

theorem over_spec
    (default : ∀ d ∈ f.default, (M.default (f.plan .record i) d).Kept m) :
    ((f.plan .record i).spec M).Over (Value.Kept m) := by
  rw [f.spec_plan]
  refine FieldSpec.over_iff.mpr ⟨?_, ?_, f.kept_remarks⟩
  · cases hd : f.default with
    | none => exact Value.Added.kept (.marker .noDefault)
    | some d => exact default d hd
  · cases f.factory with
    | none => exact Value.Added.kept (.marker .noDefault)
    | some g => exact Value.Added.kept (.factory _)

theorem kept_structField (default : ∀ d ∈ f.default, (M.default (f.plan .compact i) d).Kept m) :
    ((f.plan .compact i).structField M).default.Kept m := by
  rw [f.structField_plan]
  cases hd : f.default with
  | none => exact Value.Added.kept (.marker .unset)
  | some d => exact default d hd

end DeclaredField

/-! ## Builds -/

namespace DeclaredClass

variable {c : DeclaredClass} {M : Meaning}

/-- The meaning puts the defaults of all fields into the memory. -/
def Places (m : Memory) (M : Meaning) (c : DeclaredClass) : Prop :=
  ∀ (i : Nat) (f : DeclaredField), c.fields[i]? = some f →
    ∀ d ∈ f.default, (M.default (f.plan c.kind i) d).Kept m

variable (places : c.Places m M)
include places

theorem over_build_record (hkind : c.kind = .record) {bases : List RecordClass} {id : ClassId}
    {r : RecordClass} (hbases : ∀ b ∈ bases, b.Over (Value.Kept m))
    (h : (c.plan.recordDecl M bases).build id = .ok r) : r.Over (Value.Kept m) := by
  refine (RecordDecl.build_ok h).over hbases fun s hs => ?_
  obtain ⟨p, hp, rfl⟩ := List.mem_map.mp hs
  obtain ⟨i, f, hf, rfl⟩ := mem_fields_plan.mp hp
  have hdefault := places i f hf
  rw [hkind] at hdefault ⊢
  exact DeclaredField.over_spec hdefault

theorem over_build_struct (hkind : c.kind = .compact) {bases : List StructClass} {id : ClassId}
    {t : StructClass} (hbases : ∀ b ∈ bases, b.Over (Value.Kept m))
    (h : (c.plan.structDecl M bases).build id = .ok t) : t.Over (Value.Kept m) := by
  refine (StructDecl.build_ok h).1.over (fun _ => Value.Added.kept) hbases ?_ ?_
  · intro s hs
    obtain ⟨p, hp, rfl⟩ := List.mem_map.mp hs
    obtain ⟨i, f, hf, rfl⟩ := mem_fields_plan.mp hp
    have hdefault := places i f hf
    rw [hkind] at hdefault ⊢
    exact DeclaredField.kept_structField hdefault
  · intro o ho
    rcases Dict.mem_extend ho with ho | ho
    · obtain ⟨calls, hcalls, rfl⟩ := List.mem_map.mp ho
      rw [overrides_plan, overrides_compact hkind] at hcalls
      obtain ⟨f, hf, rfl⟩ := List.mem_map.mp (List.mem_filter.mp hcalls).1
      simp only [f.ofCalls_overrideCalls]
      exact f.kept_remarks
    · cases ho

end DeclaredClass

namespace Catalogue

/-! ## Bases -/

theorem mem_recordBases {bases : List (Except FieldError ClassObject)} {rs : List RecordClass}
    (h : recordBases bases = .ok rs) :
    ∀ r ∈ rs, ∃ c, .ok c ∈ bases ∧ c.recordTable? = some r := by
  induction bases generalizing rs with
  | nil =>
    cases h
    exact nofun
  | cons b bases ih =>
    rw [recordBases] at h
    obtain ⟨c, hb, h⟩ := bind_ok_iff.mp h
    obtain ⟨rest, hrest, h⟩ := bind_ok_iff.mp h
    obtain rfl := Except.ok.inj h
    intro r hr
    rcases List.mem_append.mp hr with hr | hr
    · exact ⟨c, hb ▸ List.mem_cons_self, Option.mem_toList.mp hr⟩
    · obtain ⟨c', hc', hr⟩ := ih hrest r hr
      exact ⟨c', List.mem_cons_of_mem _ hc', hr⟩

theorem mem_structBases {bases : List (Except FieldError ClassObject)} {ts : List StructClass}
    (h : structBases bases = .ok ts) :
    ∀ t ∈ ts, ∃ c, .ok c ∈ bases ∧ c.structTable? = some t := by
  induction bases generalizing ts with
  | nil =>
    cases h
    exact nofun
  | cons b bases ih =>
    rw [structBases] at h
    obtain ⟨c, hb, h⟩ := bind_ok_iff.mp h
    obtain ⟨rest, hrest, h⟩ := bind_ok_iff.mp h
    obtain rfl := Except.ok.inj h
    intro t ht
    rcases List.mem_append.mp ht with ht | ht
    · exact ⟨c, hb ▸ List.mem_cons_self, Option.mem_toList.mp ht⟩
    · obtain ⟨c', hc', ht⟩ := ih hrest t ht
      exact ⟨c', List.mem_cons_of_mem _ hc', ht⟩

theorem Stands.bases {c : Catalogue} (hc : c.Stands m) {inModule : String}
    {paths : List (List Token)} {bases : List (Except FieldError ClassObject)}
    (h : paths.mapM (c.base? inModule) = some bases) :
    ∀ k, .ok k ∈ bases → k.Over (Value.Kept m) := by
  induction paths generalizing bases with
  | nil =>
    cases h
    exact nofun
  | cons path paths ih =>
    rw [List.mapM_cons] at h
    obtain ⟨b, hb, h⟩ := Option.bind_eq_some_iff.mp h
    obtain ⟨rest, hrest, h⟩ := Option.bind_eq_some_iff.mp h
    cases h
    intro k hk
    rcases List.mem_cons.mp hk with rfl | hk
    · obtain ⟨e, he, hout⟩ := Option.map_eq_some_iff.mp hb
      exact hc.declared e (List.mem_of_find?_eq_some he) k hout
    · exact ih hrest k hk

/-! ## Declarations -/

theorem built?_eq_some_iff {p : ClassPlan} {M : Meaning} {id : ClassId}
    {bases : List (Except FieldError ClassObject)} {k : Except FieldError ClassObject} :
    built? p M id bases = some k ↔ p.compiles = true ∧ outcome p M id bases = k := by
  unfold built?
  split <;> simp_all

theorem over_outcome {d : DeclaredClass} {M : Meaning} {id : ClassId} {k : ClassObject}
    {bases : List (Except FieldError ClassObject)} (places : d.Places m M)
    (hbases : ∀ k, .ok k ∈ bases → k.Over (Value.Kept m))
    (h : outcome d.plan M id bases = .ok k) : k.Over (Value.Kept m) := by
  unfold outcome at h
  split at h
  · rename_i hkind
    obtain ⟨rs, hrs, h⟩ := bind_ok_iff.mp h
    obtain ⟨r, hr, h⟩ := bind_ok_iff.mp h
    obtain rfl := Except.ok.inj h
    have hover := DeclaredClass.over_build_record places hkind (fun b hb => ?_)
      (mapError_ok_iff.mp hr)
    · exact ⟨fun _ h => Option.some.inj h ▸ hover, nofun⟩
    · obtain ⟨k, hk, hb⟩ := mem_recordBases hrs b hb
      exact (hbases k hk).record b hb
  · rename_i hkind
    obtain ⟨ts, hts, h⟩ := bind_ok_iff.mp h
    obtain ⟨t, ht, h⟩ := bind_ok_iff.mp h
    have hover := DeclaredClass.over_build_struct places hkind (fun b hb => ?_)
      (mapError_ok_iff.mp ht)
    · split at h
      · obtain rfl := Except.ok.inj h
        exact ⟨nofun, fun _ h => Option.some.inj h ▸ hover⟩
      · obtain rfl := Except.ok.inj h
        exact ⟨nofun, fun _ h => Option.some.inj h ▸ hover⟩
    · obtain ⟨k, hk, hb⟩ := mem_structBases hts b hb
      exact (hbases k hk).struct b hb

/-- The values that the fields of a plan have places for. -/
def defaults (firstPlace : Nat) (p : ClassPlan) : List Value :=
  p.fields.map fun f =>
    .scalar (.numbered (firstPlace + f.index)) ((f.default?.bind f.constant?).getD .unit)

theorem places_defaults (d : DeclaredClass) (m : Memory) (firstClosure : Nat) :
    d.Places (m ++ defaults m.length d.plan) (meaning m.length firstClosure) := by
  intro i f hf code hcode
  have hdefault : (f.plan d.kind i).default? = some code := DeclaredField.default?_plan hcode
  have hvalue : (meaning m.length firstClosure).default (f.plan d.kind i) code =
    .scalar (.numbered (m.length + i)) (((f.plan d.kind i).constant? code).getD .unit) := rfl
  rw [hvalue]
  apply Value.kept_numbered
  have hfields : d.plan.fields = d.fields.mapIdx (DeclaredField.plan d.kind) := rfl
  rw [List.getElem?_append_right (Nat.le_add_right _ _), Nat.add_sub_cancel_left, defaults,
    List.getElem?_map, hfields, List.getElem?_mapIdx, hf]
  simp only [Option.map_some, hdefault, Option.bind_some]
  rfl

variable {c c' : Catalogue}

theorem Stands.add (hc : c.Stands m) {inModule : String} {d : DeclaredClass}
    (h : c.add inModule d.plan = some c') : c'.Stands (m ++ defaults m.length d.plan) := by
  have hkept := Value.Kept.sub (List.prefix_append m (defaults m.length d.plan))
  unfold Catalogue.add at h
  split at h
  · cases h
  obtain ⟨bases, hbases, h⟩ := Option.bind_eq_some_iff.mp h
  obtain ⟨k, hk, h⟩ := Option.bind_eq_some_iff.mp h
  obtain rfl := Option.some.inj h
  obtain ⟨-, rfl⟩ := built?_eq_some_iff.mp hk
  constructor
  · rw [List.length_append, defaults, List.length_map, ← hc.next]
  · intro e he k hk
    rcases List.mem_append.mp he with he | he
    · exact (hc.declared e he k hk).mono hkept
    · rw [List.mem_singleton.mp he, hc.next] at hk
      exact over_outcome (places_defaults d m _)
        (fun k hk => (hc.bases hbases k hk).mono hkept) hk

theorem Stands.declare (hc : c.Stands m) {inModule : String} {kind : DeclaredKind}
    {source : String} (h : c.declare inModule kind source = some c') :
    ∃ m', m <+: m' ∧ c'.Stands m' := by
  unfold Catalogue.declare at h
  split at h
  · cases h
  · rename_i d hd
    exact ⟨_, List.prefix_append m _, hc.add h⟩

theorem Stands.declareAll (hc : c.Stands m) {inModule : String}
    {sources : List (DeclaredKind × String)}
    (h : sources.foldlM (fun c s => c.declare inModule s.1 s.2) c = some c') :
    ∃ m', m <+: m' ∧ c'.Stands m' := by
  induction sources generalizing c m with
  | nil =>
    obtain rfl := Option.some.inj h
    exact ⟨m, List.prefix_refl m, hc⟩
  | cons s sources ih =>
    rw [List.foldlM_cons] at h
    obtain ⟨c₁, hfirst, h⟩ := Option.bind_eq_some_iff.mp h
    obtain ⟨m₁, hm₁, hc₁⟩ := hc.declare hfirst
    obtain ⟨m₂, hm₂, hc₂⟩ := ih hc₁ h
    exact ⟨m₂, hm₁.trans hm₂, hc₂⟩

end Catalogue

/-! ## Sessions -/

/-- Whatever is declared and whatever is done, there is one memory for all values. -/
theorem Session.exists_stands {inModule : String} {sources : List (DeclaredKind × String)}
    {c : Catalogue} (h : Catalogue.ofTexts? inModule sources = some c) (steps : List Step) :
    ∃ m, ((start c).after steps).Stands m := by
  have hempty : Catalogue.empty.Stands [] := ⟨rfl, nofun⟩
  obtain ⟨m, _, hc⟩ := hempty.declareAll h
  obtain ⟨m', _, hs⟩ := (stands_start hc).after steps
  exact ⟨m', hs⟩

theorem Session.descriptorSet_exact {inModule : String} {sources : List (DeclaredKind × String)}
    {c : Catalogue} (h : Catalogue.ofTexts? inModule sources = some c) (steps : List Step)
    {names : List String} {new : List Bool} {n : Nat}
    (hset : (((start c).after steps).step (.descriptorSet names)).1.1 =
      .ok (.descriptorSet new n)) :
    ∃ ds kept, names.map (((start c).after steps).descriptors.get? ·) = ds.map some ∧
      Descriptor.Inserted ds new kept ∧ n = kept.length := by
  obtain ⟨m, hs⟩ := exists_stands h steps
  exact hs.descriptorSet hset

end FieldAtlas
