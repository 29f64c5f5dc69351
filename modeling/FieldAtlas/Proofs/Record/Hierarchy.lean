import FieldAtlas.Proofs.Linearization
import FieldAtlas.Proofs.Stock
import Mathlib.Data.List.Nodup
import Mathlib.Data.List.Perm.Subperm
import Mathlib.Logic.Relation

/-!
# The hierarchy of record classes

The resolution order of a built class is an order of exactly the classes above it that repeats none
and keeps the order of each of them. A class has one whenever such an order of its bases exists.
-/

namespace FieldAtlas

namespace RecordClass

/-- `a` is reached from `c` by following bases zero or more times. -/
def Derives (c a : RecordClass) : Prop :=
  Relation.ReflTransGen (fun x b => b ∈ x.bases) c a

theorem derives_iff (c a : RecordClass) : c.Derives a ↔ c = a ∨ ∃ b ∈ c.bases, b.Derives a :=
  Relation.ReflTransGen.cases_head_iff

/-- An order of all classes above some bases that is consistent with these and with theirs. -/
structure Resolves (bases order : List RecordClass) : Prop where
  nodup : (order.map RecordClass.id).Nodup
  mem_iff : ∀ a, a ∈ order ↔ ∃ b ∈ bases, b.Derives a
  keeps_bases : bases.Sublist order
  keeps_orders : ∀ b ∈ bases, b.mro.Sublist order

/-- What the resolution order of a class is. -/
structure Ordered (c : RecordClass) : Prop where
  nodup : (c.mro.map RecordClass.id).Nodup
  mem_iff : ∀ a, a ∈ c.mro ↔ c.Derives a
  keeps : ∀ a ∈ c.mro, a.mro.Sublist c.mro
  older : ∀ a ∈ c.ancestors, a.id.number < c.id.number

/-- The identity tells apart all classes above the bases. -/
def Distinct (bases : List RecordClass) : Prop :=
  ∀ a ∈ bases, ∀ b ∈ bases, ∀ x ∈ a.mro, ∀ y ∈ b.mro, x.id = y.id → x = y

theorem mem_mro_self (c : RecordClass) : c ∈ c.mro := List.mem_cons_self

end RecordClass

open RecordClass

/-! ## The rows that are merged -/

namespace RecordDecl

def rows (d : RecordDecl) : List (List RecordClass) := d.bases.map RecordClass.mro ++ [d.bases]

theorem exists_mem_mro_of_mem_row {d : RecordDecl} {row : List RecordClass} (hrow : row ∈ d.rows)
    {a : RecordClass} (ha : a ∈ row) : ∃ b ∈ d.bases, a ∈ b.mro := by
  rw [rows, List.mem_append, List.mem_map, List.mem_singleton] at hrow
  rcases hrow with ⟨b, hb, rfl⟩ | rfl
  · exact ⟨b, hb, ha⟩
  · exact ⟨a, ha, a.mem_mro_self⟩

theorem exists_mem_mro_of_mem_ancestors {d : RecordDecl} {order : List RecordClass}
    (h : d.ancestors? = some order) {a : RecordClass} (ha : a ∈ order) :
    ∃ b ∈ d.bases, a ∈ b.mro := by
  obtain ⟨row, hrow, ha⟩ := Linearization.mem_of_mem_merge? h ha
  exact exists_mem_mro_of_mem_row hrow ha

/-- The merge gives an order of all classes above the bases, and keeps the order of each. -/
theorem resolves_of_ancestors {d : RecordDecl} {order : List RecordClass}
    (hord : ∀ b ∈ d.bases, b.Ordered) (hdist : Distinct d.bases) (h : d.ancestors? = some order) :
    Resolves d.bases order ∧ ∀ a ∈ order, a.mro.Sublist order := by
  have hinj : ∀ r ∈ d.rows, ∀ s ∈ d.rows, ∀ x ∈ r, ∀ y ∈ s, x.id = y.id → x = y := by
    intro r hr s hs x hx y hy
    obtain ⟨a, ha, hx⟩ := exists_mem_mro_of_mem_row hr hx
    obtain ⟨b, hb, hy⟩ := exists_mem_mro_of_mem_row hs hy
    exact hdist a ha b hb x hx y hy
  have hsub : ∀ row ∈ d.rows, row.Sublist order := Linearization.sublist_merge? h hinj
  have hmro : ∀ b ∈ d.bases, b.mro.Sublist order := by
    intro b hb
    exact hsub _ (List.mem_append_left _ (List.mem_map_of_mem hb))
  refine ⟨⟨Linearization.nodup_merge? h, ?_, hsub _ (by simp [rows]), hmro⟩, ?_⟩
  · intro a
    constructor
    · intro ha
      obtain ⟨b, hb, ha⟩ := exists_mem_mro_of_mem_ancestors h ha
      exact ⟨b, hb, ((hord b hb).mem_iff a).mp ha⟩
    · rintro ⟨b, hb, ha⟩
      exact (hmro b hb).subset (((hord b hb).mem_iff a).mpr ha)
  · intro a ha
    obtain ⟨b, hb, ha⟩ := exists_mem_mro_of_mem_ancestors h ha
    exact ((hord b hb).keeps a ha).trans (hmro b hb)

theorem exists_ancestors {d : RecordDecl} {order : List RecordClass}
    (hnodup : (order.map RecordClass.id).Nodup) (hbases : d.bases.Sublist order)
    (hmro : ∀ b ∈ d.bases, b.mro.Sublist order) : ∃ out, d.ancestors? = some out := by
  apply Linearization.exists_merge? hnodup
  intro row hrow
  rw [List.mem_append, List.mem_map, List.mem_singleton] at hrow
  rcases hrow with ⟨b, hb, rfl⟩ | rfl
  · exact hmro b hb
  · exact hbases

theorem build_eq_inconsistent {d : RecordDecl} (hown : d.ownError? = none) (id : ClassId) :
    d.build id = .error (.inconsistentHierarchy d.name (d.bases.map RecordClass.name)) ↔
      d.ancestors? = none := by
  unfold build
  rw [hown]
  cases h : d.ancestors? with
  | none => simp
  | some order =>
    simp only
    split <;> simp

/-- One build: the order of a class is what it should be if those of its bases are. -/
theorem Built.ordered {d : RecordDecl} {id : ClassId} {c : RecordClass} (h : d.Built id c)
    (hord : ∀ b ∈ d.bases, b.Ordered) (hdist : Distinct d.bases)
    (holder : ∀ b ∈ d.bases, ∀ a ∈ b.mro, a.id.number < id.number) : c.Ordered := by
  obtain ⟨hres, hkeeps⟩ := resolves_of_ancestors hord hdist h.ancestors
  have hlt : ∀ a ∈ c.ancestors, a.id.number < c.id.number := by
    intro a ha
    obtain ⟨b, hb, ha⟩ := exists_mem_mro_of_mem_ancestors h.ancestors ha
    rw [h.id_eq]
    exact holder b hb a ha
  refine ⟨?_, ?_, ?_, hlt⟩
  · rw [mro, List.map_cons, List.nodup_cons]
    refine ⟨?_, hres.nodup⟩
    intro hmem
    obtain ⟨a, ha, heq⟩ := List.mem_map.mp hmem
    have := hlt a ha
    rw [heq] at this
    omega
  · intro a
    rw [mro, List.mem_cons, hres.mem_iff, derives_iff, h.bases_eq, eq_comm]
  · intro a ha
    rcases List.mem_cons.mp ha with rfl | ha
    · exact List.Sublist.refl _
    · exact (hkeeps a ha).cons c

end RecordDecl

/-! ## Every stock -/

namespace Stock

variable {s : Stock}

theorem Reached.mem_of_mem_mro (hs : s.Reached) :
    ∀ c ∈ s.records, ∀ a ∈ c.mro, a ∈ s.records := by
  induction hs with
  | start => simp
  | @step t _ _ step ih =>
    cases step with
    | record bases built =>
      intro c hc a ha
      rcases List.mem_cons.mp hc with rfl | hc
      · have hbuilt := RecordDecl.build_ok (World.buildRecord_ok built).1
        rcases List.mem_cons.mp ha with rfl | ha
        · exact hc
        obtain ⟨b, hb, ha⟩ := RecordDecl.exists_mem_mro_of_mem_ancestors hbuilt.ancestors ha
        exact List.mem_cons_of_mem _ (ih b (bases b hb) a ha)
      · exact List.mem_cons_of_mem _ (ih c hc a ha)
    | struct => exact ih
    | other => exact ih

theorem Reached.distinct (hs : s.Reached) {bases : List RecordClass}
    (hb : ∀ b ∈ bases, b ∈ s.records) : Distinct bases := by
  intro a ha b hb' x hx y hy
  exact hs.eq_of_id_eq x (hs.mem_of_mem_mro a (hb a ha) x hx) y (hs.mem_of_mem_mro b (hb b hb') y hy)

theorem Reached.ordered (hs : s.Reached) : ∀ c ∈ s.records, c.Ordered := by
  apply hs.records_induction (P := RecordClass.Ordered)
  intro t d id c ht ih hlt hb hbuild
  apply (RecordDecl.build_ok hbuild).ordered (fun b hbd => ih b (hb b hbd)) (ht.distinct hb)
  intro b hbd a ha
  exact hlt a (ht.mem_of_mem_mro b (hb b hbd) a ha)

theorem Reached.resolves (hs : s.Reached) : ∀ c ∈ s.records, Resolves c.bases c.ancestors := by
  apply hs.records_induction (P := fun c => Resolves c.bases c.ancestors)
  intro t d id c ht _ _ hb hbuild
  have hbuilt := RecordDecl.build_ok hbuild
  rw [hbuilt.bases_eq]
  exact (RecordDecl.resolves_of_ancestors (fun b hbd => ht.ordered b (hb b hbd)) (ht.distinct hb)
    hbuilt.ancestors).1

theorem Reached.ancestors?_of_single (hs : s.Reached) {b : RecordClass} (hb : b ∈ s.records)
    {d : RecordDecl} (hd : d.bases = [b]) : d.ancestors? = some b.mro := by
  have hmem : ∀ x ∈ d.bases, x ∈ s.records := by
    rw [hd]
    simpa using hb
  obtain ⟨order, horder⟩ := RecordDecl.exists_ancestors (d := d) (hs.ordered b hb).nodup
    (by rw [hd]; exact List.singleton_sublist.mpr b.mem_mro_self) (by simp [hd])
  obtain ⟨hres, _⟩ := RecordDecl.resolves_of_ancestors (fun x hx => hs.ordered x (hmem x hx))
    (hs.distinct hmem) horder
  have hsub : b.mro.Sublist order := hres.keeps_orders b (by simp [hd])
  have hle : order.length ≤ b.mro.length := by
    apply (List.subperm_of_subset (List.Nodup.of_map _ hres.nodup) ?_).length_le
    intro a ha
    obtain ⟨x, hx, hxa⟩ := (hres.mem_iff a).mp ha
    rw [hd, List.mem_singleton] at hx
    exact ((hs.ordered b hb).mem_iff a).mpr (hx ▸ hxa)
  rw [horder, hsub.eq_of_length_le hle]

/-- A property of record classes goes down the hierarchy, from all the classes above to a class. -/
theorem Reached.hierarchy_induction {P : RecordClass → Prop} (hs : s.Reached)
    (down : ∀ c ∈ s.records, (∀ a ∈ c.ancestors, P a) → P c) : ∀ c ∈ s.records, P c := by
  have hall : ∀ n, ∀ c ∈ s.records, c.id.number = n → P c := by
    intro n
    induction n using Nat.strongRecOn with
    | ind n ih =>
      intro c hc hn
      apply down c hc
      intro a ha
      have hlt := (hs.ordered c hc).older a ha
      exact ih a.id.number (by omega) a
        (hs.mem_of_mem_mro c hc a (List.mem_cons_of_mem _ ha)) rfl
  exact fun c hc => hall _ c hc rfl

end Stock

/-! ## The resolution order -/

/-- The order of the classes above any bases is found exactly if there is one. -/
theorem resolution_order_exact {s : Stock} (hs : s.Reached) {d : RecordDecl}
    (hb : ∀ b ∈ d.bases, b ∈ s.records) :
    (∀ order, d.ancestors? = some order →
      Resolves d.bases order ∧ ∀ b ∈ d.bases, ∀ a, b.Derives a → a.mro.Sublist order) ∧
    (d.ancestors? = none ↔ ¬ ∃ order, Resolves d.bases order) ∧
    (¬ d.bases.Nodup → d.ancestors? = none) ∧
    (d.ownError? = none → ∀ id,
      d.build id = .error (.inconsistentHierarchy d.name (d.bases.map RecordClass.name)) ↔
        ¬ ∃ order, Resolves d.bases order) ∧
    ∀ c ∈ s.records, ∀ a, c.Derives a → a.mro.Sublist c.mro := by
  have hord : ∀ b ∈ d.bases, b.Ordered := fun b hbd => hs.ordered b (hb b hbd)
  have hsound : ∀ order, d.ancestors? = some order →
      Resolves d.bases order ∧ ∀ a ∈ order, a.mro.Sublist order :=
    fun order h => RecordDecl.resolves_of_ancestors hord (hs.distinct hb) h
  have hnone : d.ancestors? = none ↔ ¬ ∃ order, Resolves d.bases order := by
    constructor
    · rintro h ⟨order, hres⟩
      obtain ⟨out, hout⟩ :=
        RecordDecl.exists_ancestors hres.nodup hres.keeps_bases hres.keeps_orders
      rw [h] at hout
      simp at hout
    · intro h
      cases hout : d.ancestors? with
      | none => rfl
      | some order => exact absurd ⟨order, (hsound order hout).1⟩ h
  refine ⟨?_, hnone, ?_, ?_, ?_⟩
  · intro order h
    obtain ⟨hres, hkeeps⟩ := hsound order h
    exact ⟨hres, fun b hbd a ha => hkeeps a ((hres.mem_iff a).mpr ⟨b, hbd, ha⟩)⟩
  · intro hdup
    rw [hnone]
    rintro ⟨order, hres⟩
    exact hdup ((List.Nodup.of_map _ hres.nodup).sublist hres.keeps_bases)
  · intro hown id
    rw [← hnone]
    exact RecordDecl.build_eq_inconsistent hown id
  · intro c hc a ha
    have hc := hs.ordered c hc
    exact hc.keeps a ((hc.mem_iff a).mpr ha)

/-! ## A diamond -/

namespace Diamond

def field (default : Int) : FieldSpec :=
  { FieldSpec.plain .noDefault "n" (.resolved "i64") with
    default := .scalar (.numbered default.toNat) (.int .i64 default) }

def root : RecordClass := ⟨⟨1⟩, "Root", [], [], [field 1], [field 1], .named "Root"⟩

/-- Inherits the field. -/
def left : RecordClass := ⟨⟨2⟩, "Left", [root], [root], [], [field 1], .named "Left"⟩

/-- Declares the field anew. -/
def right : RecordClass :=
  ⟨⟨3⟩, "Right", [root], [root], [field 2], [field 2], .named "Right"⟩

def bottom : RecordClass :=
  ⟨⟨4⟩, "Bottom", [left, right], [left, right, root], [], [field 1], .named "Bottom"⟩

/-- What a class is built from. -/
def decl (c : RecordClass) : RecordDecl := ⟨c.name, c.bases, c.own, none⟩

theorem reached_sides : ∃ w, Stock.Reached ⟨w, [right, left, root], []⟩ ∧ w.nextClass = ⟨4⟩ := by
  obtain ⟨w₁, h₁, n₁⟩ := (Stock.Reached.start (.start ⟨1⟩ 0 [])).record (d := decl root) (c := root)
    (by simp [decl, root]) rfl
  obtain ⟨w₂, h₂, n₂⟩ := h₁.record (d := decl left) (c := left) (by simp [decl, left])
    (by rw [n₁]; rfl)
  obtain ⟨w₃, h₃, n₃⟩ := h₂.record (d := decl right) (c := right) (by simp [decl, right])
    (by rw [n₂, n₁]; rfl)
  exact ⟨w₃, h₃, by rw [n₃, n₂, n₁]; rfl⟩

theorem reached_bottom : ∃ w, Stock.Reached ⟨w, [bottom, right, left, root], []⟩ := by
  obtain ⟨w, hw, hnext⟩ := reached_sides
  obtain ⟨w', hw', _⟩ := hw.record (d := decl bottom) (c := bottom) (by simp [decl, bottom])
    (by rw [hnext]; rfl)
  exact ⟨w', hw'⟩

end Diamond

open Diamond in
/-- The two sides have an order, and a side after its own base has none. -/
theorem resolution_order_exact_diamond :
    ∃ w, Stock.Reached ⟨w, [right, left, root], []⟩ ∧
      Resolves [left, right] [left, right, root] ∧ ¬ ∃ order, Resolves [root, left] order := by
  obtain ⟨w, hw, _⟩ := reached_sides
  have hsides : ∀ b ∈ (decl bottom).bases, b ∈ [right, left, root] := by simp [decl, bottom]
  have hwrong : ∀ b ∈ ({ decl bottom with bases := [root, left] } : RecordDecl).bases,
      b ∈ [right, left, root] := by simp
  exact ⟨w, hw, ((resolution_order_exact hw hsides).1 _ rfl).1,
    (resolution_order_exact hw hwrong).2.1.mp rfl⟩

end FieldAtlas
