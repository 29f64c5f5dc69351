import FieldAtlas.Proofs.Same
import Mathlib.Data.List.Forall2

/-!
# Equality of values

Values are equal if they stand at one place, or if their contents are equal. This is symmetric for
any values, and transitive for those of one memory, where each place holds one value: a value that
equals no copy of itself is equal to itself there, and to nothing else.
-/

namespace FieldAtlas

/-! ## Places and scalars -/

theorem Place.same_comm (p q : Place) : p.same q = q.same p := by
  cases p with
  | passing => cases q <;> rfl
  | shared m =>
    cases q with
    | passing => rfl
    | shared n => exact BEq.comm
    | numbered n => rfl
  | numbered m =>
    cases q with
    | passing => rfl
    | shared n => rfl
    | numbered n => exact BEq.comm

theorem Place.eq_of_same {p q : Place} (h : p.same q = true) : p = q := by
  cases p with
  | passing => cases h
  | shared m => exact beq_iff_eq.mp h
  | numbered m => exact beq_iff_eq.mp h

namespace Double

theorem eq_of_bits {a b : Double} (h : a.bits = b.bits) : a = b := by
  cases a
  cases b
  exact congrArg Double.mk h

theorem same_iff (a b : Double) : a.same b = true ↔
    a.isNaN = false ∧ b.isNaN = false ∧ (a = b ∨ a.isZero = true ∧ b.isZero = true) := by
  have hbits : a.bits = b.bits ↔ a = b := ⟨eq_of_bits, congrArg Double.bits⟩
  simp [same, hbits, and_assoc]

theorem same_symm {a b : Double} (h : a.same b = true) : b.same a = true := by
  rw [same_iff] at h ⊢
  obtain ⟨ha, hb, heq | ⟨hza, hzb⟩⟩ := h
  · exact ⟨hb, ha, Or.inl heq.symm⟩
  · exact ⟨hb, ha, Or.inr ⟨hzb, hza⟩⟩

theorem same_trans {a b c : Double} (hab : a.same b = true) (hbc : b.same c = true) :
    a.same c = true := by
  obtain ⟨ha, _, rfl | ⟨hza, hzb⟩⟩ := (same_iff a b).mp hab
  · exact hbc
  obtain ⟨_, hc, rfl | ⟨_, hzc⟩⟩ := (same_iff b c).mp hbc
  · exact hab
  · exact (same_iff a c).mpr ⟨ha, hc, Or.inr ⟨hza, hzc⟩⟩

end Double

namespace Scalar

/-- Doubles are compared as numbers and factories by their closures; all other contents are equal if
they are the same. -/
inductive Alike : Scalar → Scalar → Prop
  | double {a b : Double} : a.same b = true → Alike (.double a) (.double b)
  | factory {f g : Factory} : f.closure = g.closure → Alike (.factory f) (.factory g)
  | defaultFactory {f g : Factory} : f.closure = g.closure →
      Alike (.defaultFactory f) (.defaultFactory g)
  | refl {s : Scalar} : s.same s = true → Alike s s

theorem same_iff (s t : Scalar) : s.same t = true ↔ s.Alike t := by
  constructor
  · intro h
    have hst := h
    unfold same at hst
    split at hst
    · exact .double hst
    · exact .factory (beq_iff_eq.mp hst)
    · exact .defaultFactory (beq_iff_eq.mp hst)
    · obtain rfl := beq_iff_eq.mp hst
      exact .refl h
  · intro h
    cases h with
    | double h => exact h
    | factory h => exact beq_iff_eq.mpr h
    | defaultFactory h => exact beq_iff_eq.mpr h
    | refl h => exact h

theorem Alike.symm {s t : Scalar} (h : s.Alike t) : t.Alike s := by
  cases h with
  | double h => exact .double (Double.same_symm h)
  | factory h => exact .factory h.symm
  | defaultFactory h => exact .defaultFactory h.symm
  | refl h => exact .refl h

theorem Alike.trans {s t u : Scalar} (hst : s.Alike t) (htu : t.Alike u) : s.Alike u := by
  cases hst with
  | refl => exact htu
  | double h =>
    cases htu with
    | double h' => exact .double (Double.same_trans h h')
    | refl => exact .double h
  | factory h =>
    cases htu with
    | factory h' => exact .factory (h.trans h')
    | refl => exact .factory h
  | defaultFactory h =>
    cases htu with
    | defaultFactory h' => exact .defaultFactory (h.trans h')
    | refl => exact .defaultFactory h

end Scalar

/-! ## Values and the values inside -/

namespace Value

/-- The values that are held directly inside. -/
def parts : Value → List Value
  | scalar _ _ => []
  | list _ items => items
  | dict _ entries => entries.map Prod.snd
  | wrapped _ inner => [inner]

theorem sizeOf_lt_of_mem_parts {v x : Value} (h : x ∈ v.parts) : sizeOf x < sizeOf v := by
  cases v with
  | scalar p s => cases h
  | list p items =>
    have hlt := List.sizeOf_lt_of_mem (show x ∈ items from h)
    simp only [list.sizeOf_spec]
    omega
  | dict p entries =>
    obtain ⟨⟨k, _⟩, he, rfl⟩ := List.mem_map.mp h
    have hlt := List.sizeOf_lt_of_mem he
    simp only [Prod.mk.sizeOf_spec, dict.sizeOf_spec] at hlt ⊢
    omega
  | wrapped p inner =>
    obtain rfl := List.mem_singleton.mp h
    simp only [wrapped.sizeOf_spec]
    omega

@[elab_as_elim]
theorem parts_induction {P : Value → Prop} (step : ∀ v, (∀ x ∈ v.parts, P x) → P v) (v : Value) :
    P v :=
  step v fun x hx =>
    have := sizeOf_lt_of_mem_parts hx
    parts_induction step x
termination_by sizeOf v

/-- Of one type, with equal contents apart from the values inside. -/
@[mk_iff]
inductive SameShape : Value → Value → Prop
  | scalar {p q : Place} {s t : Scalar} : s.Alike t → SameShape (scalar p s) (scalar q t)
  | list {p q : Place} {vs ws : List Value} : SameShape (list p vs) (list q ws)
  | dict {p q : Place} {es fs : List (String × Value)} : es.map Prod.fst = fs.map Prod.fst →
      SameShape (dict p es) (dict q fs)
  | wrapped {p q : Place} {v w : Value} : SameShape (wrapped p v) (wrapped q w)

theorem SameShape.symm {v w : Value} (h : v.SameShape w) : w.SameShape v := by
  cases h with
  | scalar h => exact .scalar h.symm
  | list => exact .list
  | dict h => exact .dict h.symm
  | wrapped => exact .wrapped

theorem SameShape.trans {u v w : Value} (huv : u.SameShape v) (hvw : v.SameShape w) :
    u.SameShape w := by
  cases huv with
  | scalar h => cases hvw with | scalar h' => exact .scalar (h.trans h')
  | list => cases hvw with | list => exact .list
  | dict h => cases hvw with | dict h' => exact .dict (h.trans h')
  | wrapped => cases hvw with | wrapped => exact .wrapped

theorem sameItems_iff (vs ws : List Value) :
    sameItems vs ws = true ↔ List.Forall₂ (fun v w => v.same w = true) vs ws := by
  induction vs generalizing ws with
  | nil => cases ws <;> simp [sameItems]
  | cons v vs ih => cases ws <;> simp [sameItems, ih]

theorem sameEntries_iff (es fs : List (String × Value)) : sameEntries es fs = true ↔
    es.map Prod.fst = fs.map Prod.fst ∧
      List.Forall₂ (fun v w => v.same w = true) (es.map Prod.snd) (fs.map Prod.snd) := by
  induction es generalizing fs with
  | nil => cases fs <;> simp [sameEntries]
  | cons e es ih =>
    cases fs with
    | nil => simp [sameEntries]
    | cons f fs =>
      simp only [sameEntries, ih, List.map_cons, List.forall₂_cons, List.cons.injEq,
        Bool.and_eq_true, beq_iff_eq]
      tauto

/-- Values are equal by their place, or by their contents. -/
theorem same_iff (v w : Value) : v.same w = true ↔ v.samePlace w = true ∨
    v.SameShape w ∧ List.Forall₂ (fun x y => x.same y = true) v.parts w.parts := by
  cases v <;> cases w <;> simp [same, samePlace, place, sameShape_iff, parts, Scalar.same_iff,
    sameItems_iff, sameEntries_iff]

theorem samePlace_symm {v w : Value} (h : v.samePlace w = true) : w.samePlace v = true :=
  (Place.same_comm _ _).trans h

theorem same_symm {v w : Value} (h : v.same w = true) : w.same v = true := by
  induction v using parts_induction generalizing w with
  | step v ih =>
    rw [same_iff] at h ⊢
    refine h.imp samePlace_symm ?_
    rintro ⟨hshape, hparts⟩
    refine ⟨hshape.symm, (List.Forall₂.imp ?_ ((List.forall₂_and_left _ _).mpr ⟨ih, hparts⟩)).flip⟩
    exact fun x y h => h.1 h.2

end Value

/-! ## One memory -/

/-- What has been made at the numbered places, in order. -/
abbrev Memory := List Value

/-- The value stands at its place, if it has one. -/
def Memory.Holds (m : Memory) (v : Value) : Prop :=
  match v.place with
  | .shared k => v = .ofMarker k
  | .numbered n => m[n]? = some v
  | .passing => True

theorem Memory.Holds.eq_of_samePlace {m : Memory} {v w : Value} (hv : m.Holds v) (hw : m.Holds w)
    (h : v.samePlace w = true) : v = w := by
  have hplace : v.place = w.place := Place.eq_of_same h
  unfold Memory.Holds at hv hw
  rw [← hplace] at hw
  cases hp : v.place with
  | passing => simp [Value.samePlace, hp, Place.same] at h
  | shared k =>
    rw [hp] at hv hw
    exact hv.trans hw.symm
  | numbered n =>
    rw [hp] at hv hw
    exact Option.some.inj (hv.symm.trans hw)

namespace Value

/-- The value stands at its place, and so do all values inside. -/
inductive StoredIn (m : Memory) : Value → Prop
  | mk {v : Value} (here : m.Holds v) (parts : ∀ x ∈ v.parts, StoredIn m x) : StoredIn m v

variable {m : Memory}

theorem StoredIn.here {v : Value} : v.StoredIn m → m.Holds v
  | .mk here _ => here

theorem StoredIn.parts {v : Value} : v.StoredIn m → ∀ x ∈ v.parts, x.StoredIn m
  | .mk _ parts => parts

theorem storedIn_ofMarker (k : Marker) : (ofMarker k).StoredIn m :=
  .mk rfl fun _ hx => nomatch hx

theorem forall₂_trans {R : Value → Value → Prop} {us vs ws : List Value}
    (trans : ∀ u ∈ us, ∀ v ∈ vs, ∀ w ∈ ws, R u v → R v w → R u w) (huv : List.Forall₂ R us vs)
    (hvw : List.Forall₂ R vs ws) : List.Forall₂ R us ws := by
  induction huv generalizing ws with
  | nil => exact hvw
  | cons huv _ ih =>
    cases hvw with
    | cons hvw hrest =>
      refine .cons (trans _ List.mem_cons_self _ List.mem_cons_self _ List.mem_cons_self huv hvw) ?_
      apply ih _ hrest
      intro u hu v hv w hw
      exact trans u (List.mem_cons_of_mem _ hu) v (List.mem_cons_of_mem _ hv) w
        (List.mem_cons_of_mem _ hw)

theorem StoredIn.same_trans {u v w : Value} (hu : u.StoredIn m) (hv : v.StoredIn m)
    (hw : w.StoredIn m) (huv : u.same v = true) (hvw : v.same w = true) : u.same w = true := by
  induction hu generalizing v w with
  | @mk u here _ ih =>
    rcases (same_iff u v).mp huv with hplace | ⟨hshape, hparts⟩
    · rwa [here.eq_of_samePlace hv.here hplace]
    rcases (same_iff v w).mp hvw with hplace | ⟨hshape', hparts'⟩
    · rwa [← hv.here.eq_of_samePlace hw.here hplace]
    refine (same_iff u w).mpr (Or.inr ⟨hshape.trans hshape', forall₂_trans ?_ hparts hparts'⟩)
    exact fun x hx y hy z hz => ih x hx (hv.parts y hy) (hw.parts z hz)

/-! ## Missing values -/

theorem SameShape.isMarker_eq {v w : Value} (h : v.SameShape w) : v.isMarker = w.isMarker := by
  cases h with
  | @scalar p q _ _ h =>
    have hplace : ∀ s, (Value.scalar p s).isMarker = (Value.scalar q s).isMarker := by
      intro s
      cases s <;> rfl
    cases h with
    | refl => exact hplace _
    | double => rfl
    | factory => rfl
    | defaultFactory => rfl
  | list => rfl
  | dict => rfl
  | wrapped => rfl

theorem StoredIn.isMarker_eq {v w : Value} (hv : v.StoredIn m) (hw : w.StoredIn m)
    (h : v.same w = true) : v.isMarker = w.isMarker := by
  rcases (same_iff v w).mp h with hplace | ⟨hshape, _⟩
  · rw [hv.here.eq_of_samePlace hw.here hplace]
  · exact hshape.isMarker_eq

theorem StoredIn.isMissing_eq {v w : Value} (hv : v.StoredIn m) (hw : w.StoredIn m)
    (h : v.same w = true) : v.isMissing = w.isMissing := by
  rcases (same_iff v w).mp h with hplace | ⟨hshape, hparts⟩
  · rw [hv.here.eq_of_samePlace hw.here hplace]
  cases hshape with
  | scalar hst => exact (SameShape.scalar hst).isMarker_eq
  | list => rfl
  | dict => rfl
  | @wrapped _ _ x y =>
    -- The test looks at the value inside.
    have hxy : x.same y = true := (List.forall₂_cons.mp hparts).1
    exact (hv.parts x List.mem_cons_self).isMarker_eq (hw.parts y List.mem_cons_self) hxy

/-! ## Values that equal themselves -/

/-- The value can be met again, or it was made in passing of contents that equal themselves. -/
def Steady (v : Value) : Prop := v.Held ∨ ∃ s : Scalar, v = ofScalar s ∧ s.same s = true

theorem Steady.same_self {v : Value} (h : v.Steady) : v.same v = true := by
  rcases h with h | ⟨s, rfl, hs⟩
  · exact Value.same_self h
  · exact (same_iff _ _).mpr (Or.inr ⟨.scalar ((Scalar.same_iff s s).mp hs), .nil⟩)

/-- The value is one of the memory, and equals itself. -/
structure Kept (m : Memory) (v : Value) : Prop where
  stored : v.StoredIn m
  steady : v.Steady

end Value

end FieldAtlas
