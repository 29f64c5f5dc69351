import FieldAtlas.Extract
import FieldAtlas.Proofs.Struct.Layout

/-!
# Extraction, field by field

What a struct class says of a field depends on the settled field alone: extraction sees no markers.
-/

namespace FieldAtlas

@[simp] theorem Value.isMissing_unset : Value.unset.isMissing = true := rfl

@[simp] theorem Value.isMissing_noDefault : Value.noDefault.isMissing = true := rfl

@[simp] theorem Value.isMissing_factory (g : Factory) :
    (Value.ofScalar (.factory g)).isMissing = false := rfl

@[simp] theorem Value.isMissing_defaultFactory (g : Factory) :
    (Value.ofScalar (.defaultFactory g)).isMissing = false := rfl

@[simp] theorem Value.orMissing_orMissing (v : Value) : v.orMissing.orMissing = v.orMissing := by
  by_cases h : v.isMissing = true <;> simp [Value.orMissing, h]

theorem Value.orMissing_getD {α : Type} {o : Option α} {value : α → Value}
    (h : ∀ a ∈ o, (value a).isMissing = false) {absent : Value} (habsent : absent.isMissing = true) :
    ((o.map value).getD absent).orMissing = (o.map value).getD .missing := by
  cases o with
  | none => exact if_pos habsent
  | some a => exact if_neg (by simp [h a rfl])

theorem Value.isMissing_of_factory? {v : Value} {g : Factory} (h : v.factory? = some g) :
    v.isMissing = false := by
  unfold Value.factory? at h
  split at h
  · rfl
  · simp at h

theorem Value.factory?_orMissing (v : Value) : v.orMissing.factory? = v.factory? := by
  unfold Value.orMissing
  split
  · rename_i hmissing
    cases h : v.factory? with
    | none => rfl
    | some g => simp [Value.isMissing_of_factory? h] at hmissing
  · rfl

@[simp] theorem FieldInfo.required_settled (f : FieldInfo) : f.settled.required = f.required := by
  simp [FieldInfo.required, FieldInfo.settled, Value.isMissing_orMissing]

theorem Layout.isMissing_decode (slot : Option Value) :
    ((decode slot).1.isMissing && (decode slot).2.isMissing) =
      (slot.map Value.isMissing).getD true := by
  cases slot with
  | none => rfl
  | some v =>
    cases hv : v.defaultFactory? with
    | none => simp [decode, hv]
    | some g =>
      have hpresent : v.isMissing = false := by
        rw [← Bool.not_eq_true]
        intro h
        rw [Value.defaultFactory?_of_isMissing h] at hv
        cases hv
      simp [decode, hv, hpresent]

theorem StructField.isMissing_entry (f : StructField) : f.entry.isMissing = !f.hasDefault := by
  unfold entry hasDefault
  cases f.factory with
  | some g => simp
  | none => simp

theorem StructField.hasDefault_eq_required (f : StructField) : f.hasDefault = !f.info.required := by
  have hread := Layout.isMissing_decode (some f.entry)
  rw [Option.map_some, Option.getD_some, f.isMissing_entry] at hread
  rw [FieldInfo.required, info, hread, Bool.not_not]

namespace StructClass

variable (c : StructClass)

theorem spec_settled (f : FieldInfo) : c.spec f.settled = c.spec f := by
  unfold spec
  simp only [FieldInfo.settled, Value.orMissing_orMissing]
  rfl

theorem spec_info {x : StructField}
    (hplain : x.default.defaultFactory? = none) (hboth : x.hasBoth = false) {o : FieldOverride}
    (hover : (c.override? x.name).getD .empty = o) : c.spec x.info =
      { name := x.name
        type := x.type
        default := x.default.orMissing
        factory := (x.factory.map fun f => Value.ofScalar (.factory f)).getD .missing
        repr := o.repr.getD true
        hash := o.hash
        compare := o.compare.getD true
        init := o.init.getD true
        kwOnly := x.kwOnly
        metadata :=
          if x.encodeName = x.name then o.metadata
          else o.metadata.insertNew "encode_name" (.ofScalar (.text .owned x.encodeName)) } := by
  have hdefault := StructField.default_info hplain hboth
  have hfactory : x.info.factory.orMissing =
      (x.factory.map fun f => Value.ofScalar (.factory f)).getD .missing := by
    rw [StructField.factory_info hplain]
    exact Value.orMissing_getD (fun _ _ => rfl) Value.isMissing_unset
  subst hover
  rw [spec, hdefault, hfactory]
  rfl

theorem describe_settled (f : FieldInfo) : c.describe f.settled = c.describe f := by
  unfold describe
  rw [spec_settled, FieldInfo.required_settled]
  rfl

theorem unknownOverride?_eq_none_iff :
    c.unknownOverride? = none ↔ ∀ k ∈ c.overrides.keys, k ∈ c.infos.map FieldInfo.name := by
  simp [unknownOverride?, List.find?_eq_none]

theorem extract_eq_settled (h : c.unknownOverride? = none) :
    c.extract = (c.infos.map FieldInfo.settled).mapM c.describe := by
  rw [extract, h, List.mapM_map]
  apply congrArg (fun g => List.mapM g c.infos)
  funext f
  exact (c.describe_settled f).symm

end StructClass

theorem mapM_eq_ok_map {α β ε : Type} {g : α → Except ε β} {h : α → β} {xs : List α}
    (hg : ∀ x ∈ xs, g x = .ok (h x)) : xs.mapM g = .ok (xs.map h) := by
  induction xs with
  | nil => rfl
  | cons x xs ih =>
    rw [List.mapM_cons, hg x List.mem_cons_self, ih fun y hy => hg y (List.mem_cons_of_mem _ hy)]
    rfl

theorem exists_of_mem_mapM {α β ε : Type} {g : α → Except ε β} {xs : List α} {ys : List β}
    (h : xs.mapM g = .ok ys) : ∀ y ∈ ys, ∃ x ∈ xs, g x = .ok y := by
  induction xs generalizing ys with
  | nil =>
    obtain rfl := Except.ok.inj h
    simp
  | cons x xs ih =>
    rw [List.mapM_cons] at h
    cases hx : g x with
    | error e => simp [hx, bind, Except.bind] at h
    | ok z =>
      cases hxs : xs.mapM g with
      | error e => simp [hx, hxs, bind, Except.bind] at h
      | ok zs =>
        rw [hx, hxs] at h
        obtain rfl := Except.ok.inj h
        intro y hy
        rcases List.mem_cons.mp hy with rfl | hy
        · exact ⟨x, List.mem_cons_self, hx⟩
        · obtain ⟨w, hw, hwy⟩ := ih hxs y hy
          exact ⟨w, List.mem_cons_of_mem x hw, hwy⟩

/-! ## The first fault -/

section

variable {α β ε : Type} {g : α → Except ε β} {bad : α → Bool} {err : α → ε} {out : α → β}
  {xs : List α} (hg : ∀ x ∈ xs, g x = if bad x then .error (err x) else .ok (out x))
include hg

theorem mapM_eq_find? :
    xs.mapM g = match xs.find? bad with
      | some x => .error (err x)
      | none => .ok (xs.map out) := by
  induction xs with
  | nil => rfl
  | cons x xs ih =>
    rw [List.forall_mem_cons] at hg
    rw [List.mapM_cons, hg.1, ih hg.2]
    by_cases hx : bad x = true
    · rw [if_pos hx, List.find?_cons_of_pos hx]
      rfl
    · rw [if_neg hx, List.find?_cons_of_neg hx]
      cases xs.find? bad <;> rfl

theorem exists_mapM_ok_iff :
    (∃ ys, xs.mapM g = .ok ys) ↔ ∀ x ∈ xs, bad x = false := by
  rw [mapM_eq_find? hg]
  cases hfirst : xs.find? bad with
  | none => simpa using hfirst
  | some x =>
    simp only [reduceCtorEq, exists_false, false_iff]
    intro h
    have hx := List.find?_some hfirst
    rw [h x (List.mem_of_find?_eq_some hfirst)] at hx
    cases hx

theorem mapM_ok {ys : List β} (h : xs.mapM g = .ok ys) : ys = xs.map out := by
  rw [mapM_eq_find? hg] at h
  split at h
  · cases h
  · exact (Except.ok.inj h).symm

theorem mapM_error {e : ε} (h : xs.mapM g = .error e) : ∃ x, xs.find? bad = some x ∧ e = err x := by
  rw [mapM_eq_find? hg] at h
  split at h
  · rename_i x hfirst
    exact ⟨x, hfirst, (Except.error.inj h).symm⟩
  · cases h

end

/-! ## What an extraction is made of -/

theorem bind_ok_iff {α β ε : Type} {x : Except ε α} {f : α → Except ε β} {b : β} :
    x >>= f = .ok b ↔ ∃ a, x = .ok a ∧ f a = .ok b := by
  cases x <;> simp [bind, Except.bind]

theorem mapError_ok_iff {α ε ε' : Type} {f : ε → ε'} {x : Except ε α} {a : α} :
    x.mapError f = .ok a ↔ x = .ok a := by
  cases x <;> simp [Except.mapError]

theorem map_ok_iff {α β ε : Type} {f : α → β} {x : Except ε α} {b : β} :
    x.map f = .ok b ↔ ∃ a, x = .ok a ∧ b = f a := by
  cases x <;> simp [Except.map, eq_comm]

theorem mapError_error_iff {α ε ε' : Type} {f : ε → ε'} {x : Except ε α} {e : ε'} :
    x.mapError f = .error e ↔ ∃ b, x = .error b ∧ e = f b := by
  cases x <;> simp [Except.mapError, eq_comm]

theorem extractFields_ok {c : ClassObject} {ds : List Descriptor} (h : extractFields c = .ok ds) :
    (∃ t, c.structTable? = some t ∧ t.extract = .ok ds) ∨
      ∃ r, c.recordTable? = some r ∧ r.extract = .ok ds := by
  unfold extractFields ClassObject.classify at h
  cases ht : c.structTable? with
  | some t =>
    rw [ht] at h
    exact Or.inl ⟨t, rfl, mapError_ok_iff.mp h⟩
  | none =>
    cases hr : c.recordTable? with
    | some r =>
      rw [ht, hr] at h
      exact Or.inr ⟨r, rfl, mapError_ok_iff.mp h⟩
    | none => simp [ht, hr] at h

namespace Descriptor

theorem checkFactory_ok {owner name : String} {slot v : Value}
    (h : checkFactory owner name slot = .ok v) : v = slot.orMissing := by
  unfold checkFactory at h
  unfold Value.orMissing
  split at h
  · rename_i hmissing
    rw [if_pos hmissing, Except.ok.inj h]
  · rename_i hpresent
    rw [if_neg hpresent]
    split at h
    · exact (Except.ok.inj h).symm
    · cases h

theorem make_ok {owner : String} {spec : FieldSpec} {d : Descriptor} (h : make owner spec = .ok d) :
    d.spec = { spec with default := spec.default.orMissing, factory := spec.factory.orMissing } := by
  unfold make at h
  cases hslot : checkFactory owner spec.name spec.factory with
  | error e => simp [hslot, bind, Except.bind] at h
  | ok slot =>
    simp only [hslot, bind, Except.bind] at h
    split at h
    · cases h
    · rw [← Except.ok.inj h, checkFactory_ok hslot]
      rfl

end Descriptor

end FieldAtlas
