import FieldAtlas.Proofs.Descriptor.NormalForm
import FieldAtlas.Proofs.Factory.Slots

/-!
# Declared defaults in descriptors

A default that a class declares is the default of the descriptor, for this class and for every class
that the field comes down to. On the way through a struct class it stands in the table of defaults,
and there a default of the type that stands for a factory is read as the factory.
-/

namespace FieldAtlas

/-! ## The slots of a declaration -/

theorem FieldSpec.slots_of_default {f : FieldSpec} (hdefault : f.default.isMissing = false)
    (hboth : f.hasBoth = false) : f.slots = ⟨f.default, none⟩ := by
  have hmissing : f.factory.isMissing = true := by simpa [hasBoth, hdefault] using hboth
  have hfactory : f.factory.factory? = none := by
    cases hg : f.factory.factory? with
    | none => rfl
    | some g => rw [Value.isMissing_of_factory? hg] at hmissing; cases hmissing
  rw [slots, hfactory, Value.orMissing, hdefault, if_neg Bool.false_ne_true]

namespace StructField

variable {f : StructField}

theorem factory_eq_none (hdefault : f.default.isMissing = false) (hboth : f.hasBoth = false) :
    f.factory = none := by
  simpa [hasBoth, hdefault] using hboth

theorem slots_of_default (hdefault : f.default.isMissing = false) (hboth : f.hasBoth = false)
    (hplain : f.default.defaultFactory? = none) : f.slots = ⟨f.default, none⟩ := by
  rw [slots, factory_eq_none hdefault hboth, hplain, Value.orMissing, hdefault,
    if_neg Bool.false_ne_true]
  rfl

theorem slots_of_defaultFactory (hdefault : f.default.isMissing = false) (hboth : f.hasBoth = false)
    {g : Factory} (hg : f.default.defaultFactory? = some g) : f.slots = ⟨.missing, some g⟩ := by
  rw [slots, factory_eq_none hdefault hboth, hg]
  rfl

end StructField

namespace Stock

variable {s : Stock} {n : String}

theorem Reached.mem_declaredSlots_record (hs : s.Reached) {r a : RecordClass} (hr : r ∈ s.records)
    (h : r.Supplies n a) {f : FieldSpec} (hf : f ∈ a.own) (hn : f.name = n) :
    (n, f.slots) ∈ r.declaredSlots := by
  obtain ⟨ha, hfield⟩ := hs.field?_of_supplies h hr
  obtain ⟨d, id, hbuilt⟩ := hs.exists_recordBuilt a ha
  have hnodup : (a.own.map FieldSpec.name).Nodup := hbuilt.own_eq ▸ hbuilt.nodup_own
  have hfind : r.field? n = some f := by
    rw [hfield, RecordClass.declared?, ← hn, Table.find?_of_mem FieldSpec.name hnodup hf]
  exact List.mem_map.mpr ⟨f, List.mem_of_find?_eq_some hfind, by rw [hn]⟩

theorem Reached.mem_declaredSlots_struct (hs : s.Reached) {t a : StructClass} (ht : t ∈ s.structs)
    (h : t.Supplies n a) {f : StructField} (hf : f ∈ a.own) (hn : f.name = n) :
    (n, f.slots) ∈ t.declaredSlots := by
  subst hn
  obtain ⟨ha, hfield⟩ := hs.structField?_of_supplies h ht
  have hfind := hfield.trans (hs.field?_own ha hf)
  rw [← hs.slots_infos ht, ← FieldInfo.map_slots_settled]
  refine List.mem_map.mpr ⟨_, List.mem_of_find?_eq_some hfind, Prod.ext rfl ?_⟩
  exact (FieldInfo.slots_settled _).trans (StructField.slots_info _)

theorem Reached.hasBoth_own_record (hs : s.Reached) {a : RecordClass} (ha : a ∈ s.records) :
    ∀ f ∈ a.own, f.hasBoth = false := by
  obtain ⟨d, id, hbuilt⟩ := hs.exists_recordBuilt a ha
  exact hbuilt.hasBoth_own

theorem Reached.hasBoth_own_struct (hs : s.Reached) {a : StructClass} (ha : a ∈ s.structs) :
    ∀ f ∈ a.own, f.hasBoth = false := by
  obtain ⟨d, hbuilt, _⟩ := hs.exists_structBuilt a ha
  have hown := hbuilt.hasBoth_ownFields
  rwa [StructClass.ownFields, List.forall_mem_map] at hown

end Stock

/-! ## The slots of a descriptor -/

/-- The descriptor shows the value as its default, and no factory. -/
structure Descriptor.Keeps (d : Descriptor) (v : Value) : Prop where
  default : d.default = v
  same : d.default.same v = true
  present : d.default.isMissing = false
  factorySlot : d.factorySlot = .missing
  factory : d.factory? = none

theorem exists_normalizes {c : ClassObject} {ds : List Descriptor} (h : extractFields c = .ok ds) :
    ∀ d ∈ ds, ∃ f, d.Normalizes f := by
  have hmake : ∀ {owner : String} {f : FieldSpec} {d : Descriptor}, Descriptor.make owner f = .ok d →
      ∃ f, d.Normalizes f := by
    intro owner f d h
    obtain ⟨hfilled, hboth, rfl⟩ := Descriptor.make_ok_iff.mp h
    exact ⟨f, FieldSpec.normalizes hfilled hboth⟩
  intro d hd
  rcases extractFields_ok h with ⟨t, _, h⟩ | ⟨r, _, h⟩
  · unfold StructClass.extract at h
    split at h
    · cases h
    obtain ⟨i, _, hi⟩ := exists_of_mem_mapM h d hd
    unfold StructClass.describe at hi
    simp only at hi
    split at hi
    · cases hi
    · exact hmake hi
  · obtain ⟨f, _, hf⟩ := exists_of_mem_mapM h d hd
    exact hmake hf

theorem Descriptor.Normalizes.factorySlot_eq {d : Descriptor} {f : FieldSpec} (h : d.Normalizes f)
    (hdefault : d.default.isMissing = false) : d.factorySlot = .missing := by
  have hmissing : d.factorySlot.isMissing = true := by simpa [hdefault] using h.exclusive
  rw [h.factory] at hmissing ⊢
  split
  · rfl
  · rename_i hpresent
    rw [if_neg hpresent] at hmissing
    exact absurd hmissing hpresent

namespace Program

variable {p : Program} {c : ClassObject} {ds : List Descriptor} {n : String}

theorem Reached.slots_of_declared (hp : p.Reached) (hc : c ∈ p.classes)
    (hds : extractFields c = .ok ds) {e : Slots} (h : (n, e) ∈ c.declaredSlots) :
    n ∈ ds.map Descriptor.name ∧ ∀ d ∈ ds, d.name = n → d.slots = e := by
  rw [← hp.slots_extracted hc hds] at h
  obtain ⟨x, hx, hxe⟩ := List.mem_map.mp h
  obtain ⟨hxn, rfl⟩ := Prod.mk.inj hxe
  refine ⟨List.mem_map.mpr ⟨x, hx, hxn⟩, ?_⟩
  intro d hd hdn
  rw [Table.eq_of_name_eq Descriptor.name (hp.nodup_names hc hds) hd hx (hdn.trans hxn.symm)]

theorem keeps_of_slots (hds : extractFields c = .ok ds) {d : Descriptor} (hd : d ∈ ds) {v : Value}
    (hv : v.isMissing = false) (hlasting : v.Lasting) (h : d.slots = ⟨v, none⟩) : d.Keeps v := by
  have hdefault : d.default = v := congrArg Slots.default h
  obtain ⟨f, hf⟩ := exists_normalizes hds d hd
  exact {
    default := hdefault
    same := hdefault ▸ hlasting.same_self
    present := hdefault ▸ hv
    factorySlot := hf.factorySlot_eq (hdefault ▸ hv)
    factory := congrArg Slots.factory h }

end Program

/-- Whichever class a field comes from, its descriptor has the default that is declared there and no
factory. Only a default of the type that stands for a factory in the table of a struct class is lost,
and the descriptor has the factory instead. -/
theorem declared_default_exact {p : Program} (hp : p.Reached) {c : ClassObject} (hc : c ∈ p.classes)
    {ds : List Descriptor} (hds : extractFields c = .ok ds) :
    (∀ r, c.classify = .record r → ∀ n a, r.Supplies n a → ∀ f ∈ a.own, f.name = n →
      f.default.isMissing = false →
        n ∈ ds.map Descriptor.name ∧ ∀ d ∈ ds, d.name = n → d.Keeps f.default) ∧
    ∀ t, c.classify = .struct t → ∀ n a, t.Supplies n a → ∀ f ∈ a.own, f.name = n →
      f.default.isMissing = false →
        n ∈ ds.map Descriptor.name ∧ ∀ d ∈ ds, d.name = n →
          (f.default.defaultFactory? = none → d.Keeps f.default) ∧
          ∀ g, f.default.defaultFactory? = some g → d.slots = ⟨.missing, some g⟩ := by
  constructor
  · intro r hclass n a hsup f hf hn hpresent
    have hr := hp.mem_records_of_classify hc hclass
    have ha := (hp.stock.field?_of_supplies hsup hr).1
    have hlasting : f.default.Lasting :=
      ((hp.founded _ ((Program.mem_records a).mp ha)).record a rfl).2 f hf |>.default
    have hdeclared : (n, f.slots) ∈ c.declaredSlots := by
      rw [ClassObject.declaredSlots, hclass]
      exact hp.stock.mem_declaredSlots_record hr hsup hf hn
    obtain ⟨hmem, hslots⟩ := hp.slots_of_declared hc hds hdeclared
    refine ⟨hmem, fun d hd hdn => Program.keeps_of_slots hds hd hpresent hlasting ?_⟩
    rw [hslots d hd hdn, FieldSpec.slots_of_default hpresent (hp.stock.hasBoth_own_record ha f hf)]
  · intro t hclass n a hsup f hf hn hpresent
    have ht := hp.mem_structs_of_classify hc hclass
    have ha := (hp.stock.structField?_of_supplies hsup ht).1
    have hlasting : f.default.Lasting :=
      ((hp.founded _ ((Program.mem_structs a).mp ha)).struct a rfl).2.default f hf
    have hdeclared : (n, f.slots) ∈ c.declaredSlots := by
      rw [ClassObject.declaredSlots, hclass]
      exact hp.stock.mem_declaredSlots_struct ht hsup hf hn
    obtain ⟨hmem, hslots⟩ := hp.slots_of_declared hc hds hdeclared
    have hboth := hp.stock.hasBoth_own_struct ha f hf
    refine ⟨hmem, fun d hd hdn => ⟨fun hplain => ?_, fun g hg => ?_⟩⟩
    · apply Program.keeps_of_slots hds hd hpresent hlasting
      rw [hslots d hd hdn, StructField.slots_of_default hpresent hboth hplain]
    · rw [hslots d hd hdn, StructField.slots_of_defaultFactory hpresent hboth hg]

namespace StandIn

def ids : Factory := ⟨"ids", 0⟩

def nan : Value := .scalar (.numbered 0) (.double .nan)

/-- Of the type that stands for a factory in a table of defaults. -/
def marked : Value := .scalar (.numbered 1) (.defaultFactory ids)

def field (name : String) (default : Value) : StructField :=
  { StructField.plain name (.resolved "f64") with default := default }

def base : StructClass :=
  ⟨⟨1⟩, "Base", [], [field "a" marked, field "b" nan], [], false,
    .ofFields 2 [field "a" marked, field "b" nan], [], false⟩

/-- Declares nothing. Its table has a factory where that of its base has a default. -/
def next : StructClass :=
  ⟨⟨2⟩, "Next", [base], [], [], false,
    .ofFields 2 [{ StructField.plain "a" (.resolved "f64") with factory := some ids }, field "b" nan],
    [], false⟩

def slot : FieldSpec := { FieldSpec.plain .noDefault "a" (.resolved "f64") with default := marked }

def root : RecordClass := ⟨⟨3⟩, "Root", [], [], [slot], [slot], .named "Root"⟩

def leaf : RecordClass := ⟨⟨4⟩, "Leaf", [root], [root], [], [slot], .named "Leaf"⟩

def classes : List ClassObject := [.record leaf, .record root, .struct next, .struct base]

theorem lasting_slot : slot.Lasting :=
  ⟨Or.inl nofun, Or.inl (Value.held_ofMarker .noDefault), by simp [slot, FieldSpec.plain]⟩

theorem lasting_default : ∀ f ∈ [field "a" marked, field "b" nan], f.default.Lasting := by
  simp only [List.forall_mem_cons, List.not_mem_nil, false_implies, implies_true, and_true]
  exact ⟨Or.inl nofun, Or.inl nofun⟩

theorem reached : ∃ w, Program.Reached ⟨w, classes⟩ := by
  have h₀ : Program.Reached ⟨.start ⟨1⟩ 2 [.new (.counter 1)], []⟩ := .start rfl rfl
  have h₁ := h₀.step (.made (.struct (d := ⟨"Base", [], [field "a" marked, field "b" nan], [],
    false, false⟩) (c := base) (by simp) lasting_default (by simp) rfl))
  have h₂ := h₁.step (.made (.struct (d := ⟨"Next", [base], [], [], false, false⟩) (c := next)
    (by simp) (by simp) (by simp) rfl))
  have h₃ := h₂.step (.made (.record (d := ⟨"Root", [], [slot], none⟩) (c := root) (by simp)
    (by simpa using lasting_slot) rfl))
  have h₄ := h₃.step (.made (.record (d := ⟨"Leaf", [root], [], none⟩) (c := leaf) (by simp)
    (by simp) rfl))
  exact ⟨_, h₄⟩

theorem supplies_next {n : String} (hn : n ∈ ["a", "b"]) : next.Supplies n base := by
  refine .base (by simp [next]) ?_ (.own hn)
  have hnames : base.layout.names = ["a", "b"] := rfl
  simp [next, hnames, hn]

theorem supplies_leaf : leaf.Supplies "a" root := .base rfl rfl (.own rfl)

end StandIn

open StandIn in
/-- Two fields of a class that declares nothing: one keeps the number that equals no copy of itself,
the other one has a factory instead of the value that the record keeps. -/
theorem declared_default_exact_next : ∃ w, Program.Reached ⟨w, classes⟩ ∧ ∃ a b c,
    extractFields (.struct next) = .ok [a, b] ∧ b.Keeps nan ∧ a.slots = ⟨.missing, some ids⟩ ∧
    extractFields (.record leaf) = .ok [c] ∧ c.Keeps marked := by
  obtain ⟨w, hw⟩ := reached
  refine ⟨w, hw, _, _, _, rfl, ?_, ?_, rfl, ?_⟩
  · have hstruct := (declared_default_exact hw (c := .struct next) (by simp [classes]) rfl).2 next rfl
    have hkeeps := hstruct "b" base (supplies_next (by simp)) (field "b" nan) (by simp [base]) rfl rfl
    exact (hkeeps.2 _ (by simp) rfl).1 rfl
  · have hstruct := (declared_default_exact hw (c := .struct next) (by simp [classes]) rfl).2 next rfl
    have hlost := hstruct "a" base (supplies_next (by simp)) (field "a" marked) (by simp [base]) rfl rfl
    exact (hlost.2 _ (by simp) rfl).2 ids rfl
  · have hrecord := (declared_default_exact hw (c := .record leaf) (by simp [classes]) rfl).1 leaf rfl
    have hkeeps := hrecord "a" root supplies_leaf slot (by simp [root]) rfl rfl
    exact hkeeps.2 _ (by simp) rfl

open StandIn in
/-- The base declares a default that is not missing and no factory, and neither it nor the class
below has a default there. -/
theorem declared_default_lost : ∃ w, Program.Reached ⟨w, classes⟩ ∧ next.Supplies "a" base ∧
    field "a" marked ∈ base.own ∧ marked.isMissing = false ∧ (field "a" marked).factory = none ∧
    ∀ t ∈ [base, next], ∃ d ds, extractFields (.struct t) = .ok (d :: ds) ∧ d.name = "a" ∧
      d.default.isMissing = true ∧ d.default.same marked = false ∧ d.factory? = some ids := by
  obtain ⟨w, hw⟩ := reached
  have hother : Value.missing.same marked = false := by
    simp [Value.missing, Value.ofMarker, marked, Value.same, Place.same, Scalar.same]
  refine ⟨w, hw, supplies_next (by simp), by simp [base], rfl, rfl, ?_⟩
  simp only [List.forall_mem_cons, List.not_mem_nil, false_implies, implies_true, and_true]
  exact ⟨⟨_, _, rfl, rfl, rfl, hother, rfl⟩, ⟨_, _, rfl, rfl, rfl, hother, rfl⟩⟩

end FieldAtlas
