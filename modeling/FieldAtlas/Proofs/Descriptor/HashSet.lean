import FieldAtlas.Proofs.Descriptor.NormalForm
import FieldAtlas.Proofs.Value.Origin
import Mathlib.Data.List.Induction

/-!
# Sets of descriptors

In one memory the equality of descriptors is an equivalence, and equal descriptors have one hash. So
a hash set keeps one descriptor of each class, the first that comes.
-/

namespace FieldAtlas

namespace Descriptor

/-- All that is compared apart from the values. -/
def frame (d : Descriptor) : HashKey × TypeRef × List String :=
  (d.hashKey, d.type, d.metadata.map Prod.fst)

def StoredIn (m : Memory) (d : Descriptor) : Prop := d.Over (Value.Kept m)

variable {m : Memory} {a b c : Descriptor}

theorem same_iff (a b : Descriptor) : a.same b = true ↔
    a.frame = b.frame ∧ List.Forall₂ (fun v w => v.same w = true) a.values b.values := by
  simp only [same, frame, hashKey, values, FieldSpec.values, spec, Value.sameEntries_iff,
    List.forall₂_cons, Bool.and_eq_true, beq_iff_eq, Prod.mk.injEq, HashKey.mk.injEq]
  constructor
  · rintro ⟨⟨⟨⟨⟨⟨⟨⟨⟨hname, htype⟩, hdefault⟩, hfactory⟩, hrepr⟩, hhash⟩, hcompare⟩, hinit⟩, hkw⟩,
      hkeys, hmetadata⟩
    refine ⟨⟨⟨hname, congrArg TypeRef.name htype, hrepr, hhash, hcompare, hinit, hkw⟩, htype, hkeys⟩,
      hdefault, hfactory, hmetadata⟩
  · rintro ⟨⟨⟨hname, _, hrepr, hhash, hcompare, hinit, hkw⟩, htype, hkeys⟩, hdefault, hfactory,
      hmetadata⟩
    exact ⟨⟨⟨⟨⟨⟨⟨⟨⟨hname, htype⟩, hdefault⟩, hfactory⟩, hrepr⟩, hhash⟩, hcompare⟩, hinit⟩, hkw⟩,
      hkeys, hmetadata⟩

theorem hashKey_eq (h : a.same b = true) : a.hashKey = b.hashKey :=
  congrArg Prod.fst ((same_iff a b).mp h).1

theorem StoredIn.same_self (ha : a.StoredIn m) : a.same a = true :=
  same_self_of_steady fun v hv => (ha v hv).steady

theorem same_symm (h : a.same b = true) : b.same a = true := by
  obtain ⟨hframe, hvalues⟩ := (same_iff a b).mp h
  exact (same_iff b a).mpr ⟨hframe.symm, (hvalues.imp fun _ _ => Value.same_symm).flip⟩

theorem StoredIn.same_trans (ha : a.StoredIn m) (hb : b.StoredIn m) (hc : c.StoredIn m)
    (hab : a.same b = true) (hbc : b.same c = true) : a.same c = true := by
  obtain ⟨hframe, hvalues⟩ := (same_iff a b).mp hab
  obtain ⟨hframe', hvalues'⟩ := (same_iff b c).mp hbc
  refine (same_iff a c).mpr ⟨hframe.trans hframe', Value.forall₂_trans ?_ hvalues hvalues'⟩
  exact fun u hu v hv w hw => (ha u hu).stored.same_trans (hb v hv).stored (hc w hw).stored

theorem equivalence_same (m : Memory) :
    Equivalence fun a b : { d : Descriptor // d.StoredIn m } => a.1.same b.1 = true where
  refl a := a.2.same_self
  symm h := same_symm h
  trans {a b c} hab hbc := a.2.same_trans b.2 c.2 hab hbc

/-! ## Inserting -/

theorem collides_eq_same (a b : Descriptor) : a.collides b = a.same b := by
  unfold collides
  cases h : a.same b with
  | false => simp
  | true => simp [hashKey_eq h]

theorem insertInto_eq (set : List Descriptor) (d : Descriptor) : insertInto set d =
    (!set.any (·.same d), if set.any (·.same d) then set else set ++ [d]) := by
  unfold insertInto
  simp only [collides_eq_same]
  cases set.any (·.same d) <;> rfl

theorem insertAll_cons (set ds : List Descriptor) (d : Descriptor) : insertAll set (d :: ds) =
    ((insertInto set d).1 :: (insertAll (insertInto set d).2 ds).1,
      (insertAll (insertInto set d).2 ds).2) := rfl

theorem insertAll_concat (set ds : List Descriptor) (d : Descriptor) :
    insertAll set (ds ++ [d]) = ((insertAll set ds).1 ++ [(insertInto (insertAll set ds).2 d).1],
      (insertInto (insertAll set ds).2 d).2) := by
  induction ds generalizing set with
  | nil => rfl
  | cons e ds ih =>
    rw [List.cons_append, insertAll_cons, ih, insertAll_cons]
    rfl

/-- What it comes to if `ds` are inserted in turn: `new` says of each whether it was, and `kept` are
those that were. -/
structure Inserted (ds : List Descriptor) (new : List Bool) (kept : List Descriptor) : Prop where
  length : new.length = ds.length
  /-- A descriptor is new if it equals none before it. -/
  new_iff : ∀ i (hi : i < ds.length),
    new[i]? = some true ↔ ∀ x ∈ ds.take i, x.same ds[i] = false
  kept_eq : kept = (ds.zip new).filterMap fun e => if e.2 then some e.1 else none
  /-- Of each class of equal descriptors one is kept. -/
  one : ∀ d ∈ ds, kept.countP (·.same d) = 1

namespace Inserted

variable {ds kept : List Descriptor} {new : List Bool} {d : Descriptor}

theorem nil : Inserted [] [] [] where
  length := rfl
  new_iff := by simp
  kept_eq := rfl
  one := by simp

theorem mem (h : Inserted ds new kept) : ∀ k ∈ kept, k ∈ ds := by
  intro k hk
  rw [h.kept_eq, List.mem_filterMap] at hk
  obtain ⟨e, he, hek⟩ := hk
  split at hek
  · rw [← Option.some.inj hek]
    exact (List.of_mem_zip he).1
  · cases hek

theorem any_same_iff (h : Inserted ds new kept) (hds : ∀ x ∈ ds, x.StoredIn m)
    (hd : d.StoredIn m) : kept.any (·.same d) = true ↔ ∃ x ∈ ds, x.same d = true := by
  rw [List.any_eq_true]
  constructor
  · rintro ⟨k, hk, hkd⟩
    exact ⟨k, h.mem k hk, hkd⟩
  · rintro ⟨x, hx, hxd⟩
    have hpos : 0 < kept.countP (·.same x) := by rw [h.one x hx]; exact Nat.zero_lt_one
    obtain ⟨k, hk, hkx⟩ := List.countP_pos_iff.mp hpos
    exact ⟨k, hk, (hds k (h.mem k hk)).same_trans (hds x hx) hd hkx hxd⟩

theorem countP_eq (h : Inserted ds new kept) (hds : ∀ x ∈ ds, x.StoredIn m) (hd : d.StoredIn m)
    {x : Descriptor} (hx : x ∈ ds) (hxd : x.same d = true) :
    kept.countP (·.same d) = kept.countP (·.same x) := by
  apply List.countP_congr
  intro k hk
  have hks := hds k (h.mem k hk)
  exact ⟨fun hkd => hks.same_trans hd (hds x hx) hkd (same_symm hxd),
    fun hkx => hks.same_trans (hds x hx) hd hkx hxd⟩

theorem concat (h : Inserted ds new kept) (hds : ∀ x ∈ ds, x.StoredIn m) (hd : d.StoredIn m) :
    Inserted (ds ++ [d]) (new ++ [(insertInto kept d).1]) (insertInto kept d).2 := by
  rw [insertInto_eq]
  have hany := h.any_same_iff hds hd
  refine { length := by simp [h.length], new_iff := ?_, kept_eq := ?_, one := ?_ }
  · intro i hi
    rw [List.length_append, List.length_singleton] at hi
    rcases Nat.lt_succ_iff_lt_or_eq.mp hi with hi | rfl
    · rw [List.getElem?_append_left (h.length ▸ hi), List.take_append_of_le_length hi.le,
        List.getElem_append_left hi]
      exact h.new_iff i hi
    · rw [List.getElem?_append_right h.length.le, h.length, List.take_left,
        List.getElem_append_right (le_refl _)]
      simpa using not_congr hany
  · rw [List.zip_append h.length.symm, List.filterMap_append, ← h.kept_eq]
    cases kept.any (·.same d) <;> simp
  · intro y hy
    cases hset : kept.any (·.same d) with
    | true =>
      rw [if_pos rfl]
      rcases List.mem_append.mp hy with hy | hy
      · exact h.one y hy
      · obtain rfl := List.mem_singleton.mp hy
        obtain ⟨x, hx, hxy⟩ := hany.mp hset
        rw [h.countP_eq hds hd hx hxy, h.one x hx]
    | false =>
      rw [if_neg Bool.false_ne_true, List.countP_append, List.countP_singleton]
      have hnone : ∀ x ∈ ds, x.same d = false := by
        intro x hx
        rw [← Bool.not_eq_true]
        intro hxd
        rw [hany.mpr ⟨x, hx, hxd⟩] at hset
        cases hset
      rcases List.mem_append.mp hy with hy | hy
      · have hother : ¬ d.same y = true := by
          intro hdy
          have hyd := hnone y hy
          rw [same_symm hdy] at hyd
          cases hyd
        rw [h.one y hy, if_neg hother]
      · obtain rfl := List.mem_singleton.mp hy
        have hzero : kept.countP (·.same y) = 0 := by
          rw [List.countP_eq_zero]
          intro k hk
          simp [hnone k (h.mem k hk)]
        rw [hzero, if_pos hd.same_self]

end Inserted

theorem inserted_insertAll {ds : List Descriptor} (hds : ∀ d ∈ ds, d.StoredIn m) :
    Inserted ds (insertAll [] ds).1 (insertAll [] ds).2 := by
  induction ds using List.reverseRecOn with
  | nil => exact .nil
  | append_singleton ds d ih =>
    rw [insertAll_concat]
    rw [List.forall_mem_append] at hds
    exact (ih hds.1).concat hds.1 (hds.2 d List.mem_cons_self)

end Descriptor

/-- Equality of values is symmetric, in one memory transitive, and reflexive for every value that can
be met again; equal values are missing alike, by both tests. So equality of descriptors is an
equivalence, equal descriptors have one hash, and a hash set keeps the first of each class. -/
theorem equality_and_hashing (m : Memory) :
    ((∀ v : Value, v.Steady → v.same v = true) ∧
      (∀ v w : Value, v.same w = true → w.same v = true) ∧
      ∀ u v w : Value, u.StoredIn m → v.StoredIn m → w.StoredIn m → u.same v = true →
        v.same w = true → u.same w = true) ∧
    (∀ v w : Value, v.StoredIn m → w.StoredIn m → v.same w = true →
      v.isMissing = w.isMissing ∧ isMissing (.handle v) = isMissing (.handle w)) ∧
    (Equivalence fun a b : { d : Descriptor // d.StoredIn m } => a.1.same b.1 = true) ∧
    (∀ a b : Descriptor, a.same b = true → a.hashKey = b.hashKey) ∧
    ∀ ds : List Descriptor, (∀ d ∈ ds, d.StoredIn m) →
      Descriptor.Inserted ds (Descriptor.insertAll [] ds).1 (Descriptor.insertAll [] ds).2 := by
  refine ⟨⟨fun _ => Value.Steady.same_self, fun _ _ => Value.same_symm, ?_⟩, ?_,
    Descriptor.equivalence_same m, fun _ _ => Descriptor.hashKey_eq, fun _ =>
    Descriptor.inserted_insertAll⟩
  · exact fun _ _ _ hu hv hw => hu.same_trans hv hw
  · exact fun _ _ hv hw h => ⟨hv.isMissing_eq hw h, hv.isMarker_eq hw h⟩

namespace Sharing

def nan (n : Nat) : Value := .scalar (.numbered n) (.double .nan)

/-- The list at `n` whose one item is the number at `k`. -/
def held (n k : Nat) : Value := .list (.numbered n) [nan k]

/-- Three lists of one number, and a list of another. -/
def memory : Memory := [nan 0, held 1 0, held 2 0, held 3 0, nan 4, held 5 4]

def point (n k : Nat) : Descriptor :=
  { FieldSpec.plain .missing "point" (.resolved "f64") with default := held n k }.descriptor

theorem stored_held {n k : Nat} (hn : memory[n]? = some (held n k))
    (hk : memory[k]? = some (nan k)) : (held n k).StoredIn memory := by
  have hitem : (nan k).StoredIn memory := .mk hk fun _ hx => nomatch hx
  exact .mk hn (List.forall_mem_singleton.mpr hitem)

theorem stored_point {n k : Nat} (hn : memory[n]? = some (held n k))
    (hk : memory[k]? = some (nan k)) : (point n k).StoredIn memory := by
  refine List.forall_mem_cons.mpr ⟨⟨stored_held hn hk, ?_⟩, List.forall_mem_singleton.mpr ?_⟩
  · exact Or.inl nofun
  · exact ⟨Value.storedIn_ofMarker .missing, Or.inl (Value.held_ofMarker .missing)⟩

theorem same_point (n k i j : Nat) :
    (point n k).same (point i j) = (held n k).same (held i j) := by
  have hmissing : Value.missing.same Value.missing = true :=
    Value.same_self (Value.held_ofMarker .missing)
  simp [Descriptor.same, point, FieldSpec.descriptor, FieldSpec.plain, hmissing,
    Value.sameEntries]

end Sharing

open Sharing in
/-- No number equals its copy. So the lists of one number are equal to each other, and the list of
the other one is not. -/
theorem equality_and_hashing_nan : (held 1 0).same (held 3 0) = true ∧
    (held 3 0).same (held 5 4) = false ∧
    Descriptor.Inserted [point 1 0, point 5 4, point 3 0] [true, true, false]
      [point 1 0, point 5 4] := by
  obtain ⟨⟨hrefl, _, htrans⟩, _, _, _, hinsert⟩ := equality_and_hashing memory
  have hnan : (nan 0).same (nan 0) = true := hrefl _ (Or.inl nofun)
  have hshared : ∀ n k, (held n 0).same (held k 0) = true := by
    intro n k
    simp [held, Value.same, Value.sameItems, hnan]
  have hother : ∀ n, n ≠ 5 → (held n 0).same (held 5 4) = false := by
    intro n hn
    have hnan : Double.nan.isNaN = true := by decide
    simp [held, nan, Value.same, Value.sameItems, Place.same, Scalar.same, Double.same, hnan, hn]
  refine ⟨?_, hother 3 (by decide), ?_⟩
  · exact htrans (held 1 0) (held 2 0) (held 3 0) (stored_held rfl rfl) (stored_held rfl rfl)
      (stored_held rfl rfl) (hshared 1 2) (hshared 2 3)
  · have hinserted := hinsert [point 1 0, point 5 4, point 3 0] (by
      simp only [List.forall_mem_cons, List.not_mem_nil, false_implies, implies_true, and_true]
      exact ⟨stored_point rfl rfl, stored_point rfl rfl, stored_point rfl rfl⟩)
    have hset : Descriptor.insertAll [] [point 1 0, point 5 4, point 3 0] =
        ([true, true, false], [point 1 0, point 5 4]) := by
      simp [Descriptor.insertAll, Descriptor.insertInto_eq, same_point, hshared, hother 1]
    rwa [hset] at hinserted

end FieldAtlas
