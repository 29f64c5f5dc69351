import FieldAtlas.Proofs.Identities
import FieldAtlas.Proofs.Record.Hierarchy
import FieldAtlas.Proofs.Table.Faults

/-!
# What the builders accept

A declaration is built exactly if its own fields are sound, its bases have a common order, and no
required field comes behind one with a default among those by position. If several of these fail,
the first of them is reported, at the first field where it fails.
-/

namespace FieldAtlas

open RecordClass

/-! ## Records -/

theorem Stock.Reached.exists_ancestors_iff {s : Stock} (hs : s.Reached) {d : RecordDecl}
    (hb : ∀ b ∈ d.bases, b ∈ s.records) :
    (∃ order, d.ancestors? = some order) ↔ ∃ order, Resolves d.bases order := by
  constructor
  · rintro ⟨order, h⟩
    have hord : ∀ b ∈ d.bases, b.Ordered := fun b hbd => hs.ordered b (hb b hbd)
    exact ⟨order, (RecordDecl.resolves_of_ancestors hord (hs.distinct hb) h).1⟩
  · rintro ⟨order, hres⟩
    exact RecordDecl.exists_ancestors hres.nodup hres.keeps_bases hres.keeps_orders

namespace RecordDecl

/-- The names of the own fields are distinct, and none of them has both a default and a factory. -/
def Sound (d : RecordDecl) : Prop := Table.Sound FieldSpec.name FieldSpec.hasBoth d.fields

/-- The fields by position in the table over these ancestors. -/
def positional (d : RecordDecl) (order : List RecordClass) : List FieldSpec :=
  (d.table order).filter isPositional

structure Accepted (d : RecordDecl) : Prop where
  sound : d.Sound
  hierarchy : ∃ order, Resolves d.bases order
  placed : ∀ order, d.ancestors? = some order →
    Table.InOrder FieldSpec.hasDefault (d.positional order)

/-- The error at an own field. -/
def report (d : RecordDecl) : Table.OwnFault → String → RecordError
  | .duplicate, field => .duplicateField d.name field
  | .defaultAndFactory, field => .defaultAndFactory d.name field

/-- What is reported of a declaration: what is wrong with its own fields, then with its bases, then
with its table. -/
inductive Refused (d : RecordDecl) : RecordError → Prop
  | own {fault : Table.OwnFault} {f : FieldSpec}
      (first : Table.FirstUnsound FieldSpec.name FieldSpec.hasBoth d.fields fault f) :
      Refused d (d.report fault f.name)
  | hierarchy (sound : d.Sound) (none : ¬ ∃ order, Resolves d.bases order) :
      Refused d (.inconsistentHierarchy d.name (d.bases.map RecordClass.name))
  | misplaced {order : List RecordClass} {f : FieldSpec} (sound : d.Sound)
      (ancestors : d.ancestors? = some order)
      (first : Table.FirstMisplaced FieldSpec.hasDefault (d.positional order) f) :
      Refused d (.nonDefaultAfterDefault d.name f.name)

theorem ownError?_eq (d : RecordDecl) :
    d.ownError? = (Table.ownFault? FieldSpec.name FieldSpec.hasBoth [] d.fields).map fun found =>
      d.report found.1 found.2 := by
  rw [ownError?]
  split <;> simp [*, report]

theorem ownError?_eq_none_iff (d : RecordDecl) : d.ownError? = none ↔ d.Sound := by
  rw [ownError?_eq, Option.map_eq_none_iff, Table.ownFault?_nil_eq_none_iff, Sound]

theorem exists_build_iff (d : RecordDecl) (id : ClassId) : (∃ c, d.build id = .ok c) ↔
    d.ownError? = none ∧ ∃ order, d.ancestors? = some order ∧ misplaced? (d.table order) = none := by
  constructor
  · rintro ⟨c, h⟩
    have hbuilt := build_ok h
    exact ⟨hbuilt.sound, c.ancestors, hbuilt.ancestors, hbuilt.fields ▸ hbuilt.placed⟩
  · rintro ⟨hown, order, horder, hplaced⟩
    simp [build, hown, horder, hplaced]

theorem build_error_iff (d : RecordDecl) (id : ClassId) (e : RecordError) : d.build id = .error e ↔
    d.ownError? = some e ∨
    d.ownError? = none ∧ d.ancestors? = none ∧
      e = .inconsistentHierarchy d.name (d.bases.map RecordClass.name) ∨
    d.ownError? = none ∧ ∃ order f, d.ancestors? = some order ∧ misplaced? (d.table order) = some f ∧
      e = .nonDefaultAfterDefault d.name f.name := by
  unfold build
  cases hown : d.ownError? with
  | some e' => simp
  | none =>
    cases hanc : d.ancestors? with
    | none => simp [eq_comm]
    | some order => cases hmis : misplaced? (d.table order) <;> simp [hmis, eq_comm]

end RecordDecl

namespace Stock

variable {s : Stock}

theorem Reached.record_accepted_iff (hs : s.Reached) {d : RecordDecl}
    (hb : ∀ b ∈ d.bases, b ∈ s.records) (id : ClassId) :
    (∃ c, d.build id = .ok c) ↔ d.Accepted := by
  rw [d.exists_build_iff, d.ownError?_eq_none_iff]
  constructor
  · rintro ⟨sound, order, ancestors, placed⟩
    refine ⟨sound, (hs.exists_ancestors_iff hb).mp ⟨order, ancestors⟩, ?_⟩
    intro order' ancestors'
    rw [ancestors] at ancestors'
    obtain rfl := Option.some.inj ancestors'
    exact (Table.misplaced?_false_eq_none_iff ..).mp placed
  · rintro ⟨sound, hierarchy, placed⟩
    obtain ⟨order, ancestors⟩ := (hs.exists_ancestors_iff hb).mpr hierarchy
    exact ⟨sound, order, ancestors,
      (Table.misplaced?_false_eq_none_iff ..).mpr (placed order ancestors)⟩

theorem Reached.record_refused_iff (hs : s.Reached) {d : RecordDecl}
    (hb : ∀ b ∈ d.bases, b ∈ s.records) (id : ClassId) (e : RecordError) :
    d.build id = .error e ↔ d.Refused e := by
  have hnone : d.ancestors? = none ↔ ¬ ∃ order, Resolves d.bases order := by
    rw [← hs.exists_ancestors_iff hb, ← Option.isSome_iff_exists, Option.not_isSome_iff_eq_none]
  rw [d.build_error_iff, d.ownError?_eq_none_iff, hnone, d.ownError?_eq,
    Table.map_ownFault?_eq_some_iff]
  constructor
  · rintro (⟨fault, f, first, rfl⟩ | ⟨sound, none, rfl⟩ | ⟨sound, order, f, ancestors, first, rfl⟩)
    · exact .own first
    · exact .hierarchy sound none
    · exact .misplaced sound ancestors ((Table.misplaced?_eq_some_iff ..).mp first)
  · rintro (first | ⟨sound, none⟩ | ⟨sound, ancestors, first⟩)
    · exact Or.inl ⟨_, _, first, rfl⟩
    · exact Or.inr (Or.inl ⟨sound, none, rfl⟩)
    · exact Or.inr (Or.inr ⟨sound, _, _, ancestors, (Table.misplaced?_eq_some_iff ..).mpr first, rfl⟩)

end Stock

/-! ## Structs -/

namespace StructDecl

def Sound (d : StructDecl) : Prop := Table.Sound StructField.name StructField.hasBoth d.fields

/-- The fields by position among all that are declared, here or by the bases. -/
def positional (d : StructDecl) : List StructField := d.declared.filter fun f => !f.kwOnly

structure Accepted (d : StructDecl) : Prop where
  sound : d.Sound
  placed : Table.InOrder StructField.hasDefault d.positional

def report (d : StructDecl) : Table.OwnFault → String → StructError
  | .duplicate, field => .duplicateField d.name field
  | .defaultAndFactory, field => .defaultAndFactory d.name field

/-- What is reported of a declaration: what is wrong with its own fields, then with the merged
ones. -/
inductive Refused (d : StructDecl) : StructError → Prop
  | own {fault : Table.OwnFault} {f : StructField}
      (first : Table.FirstUnsound StructField.name StructField.hasBoth d.fields fault f) :
      Refused d (d.report fault f.name)
  | misplaced {f : StructField} (sound : d.Sound)
      (first : Table.FirstMisplaced StructField.hasDefault d.positional f) :
      Refused d (.requiredAfterOptional d.name f.name)

theorem ownError?_eq (d : StructDecl) :
    d.ownError? = (Table.ownFault? StructField.name StructField.hasBoth [] d.fields).map
      fun found => d.report found.1 found.2 := by
  rw [ownError?]
  split <;> simp [*, report]

theorem ownError?_eq_none_iff (d : StructDecl) : d.ownError? = none ↔ d.Sound := by
  rw [ownError?_eq, Option.map_eq_none_iff, Table.ownFault?_nil_eq_none_iff, Sound]

theorem build_error_iff (d : StructDecl) (id : ClassId) (e : StructError) : d.build id = .error e ↔
    d.ownError? = some e ∨ d.ownError? = none ∧ ∃ f,
      Table.misplaced? StructField.hasDefault false d.positional = some f ∧
        e = .requiredAfterOptional d.name f.name := by
  unfold build positional
  cases hown : d.ownError? with
  | some e' => simp
  | none =>
    simp only
    split <;> simp [*, eq_comm]

theorem accepted_iff (d : StructDecl) (id : ClassId) :
    (∃ c, d.build id = .ok c) ↔ d.Accepted := by
  constructor
  · rintro ⟨c, h⟩
    obtain ⟨hbuilt, _⟩ := build_ok h
    exact ⟨d.ownError?_eq_none_iff.mp hbuilt.sound,
      (Table.misplaced?_false_eq_none_iff ..).mp hbuilt.placed⟩
  · rintro ⟨sound, placed⟩
    have hown := d.ownError?_eq_none_iff.mpr sound
    have hplaced := (Table.misplaced?_false_eq_none_iff ..).mpr placed
    rw [positional] at hplaced
    simp [build, hown, hplaced]

theorem refused_iff (d : StructDecl) (id : ClassId) (e : StructError) :
    d.build id = .error e ↔ d.Refused e := by
  rw [build_error_iff, ownError?_eq_none_iff, ownError?_eq, Table.map_ownFault?_eq_some_iff]
  constructor
  · rintro (⟨fault, f, first, rfl⟩ | ⟨sound, f, first, rfl⟩)
    · exact .own first
    · exact .misplaced sound ((Table.misplaced?_eq_some_iff ..).mp first)
  · rintro (first | ⟨sound, first⟩)
    · exact Or.inl ⟨_, _, first, rfl⟩
    · exact Or.inr ⟨sound, _, (Table.misplaced?_eq_some_iff ..).mpr first, rfl⟩

end StructDecl

/-! ## Both builders -/

/-- A builder accepts exactly the declarations with sound own fields and with the fields by position
in order, where those of a record also need bases with a common order. Of several things that are
wrong, the first one is reported. A build that fails changes nothing, and the identities of a run
are the next ones, without a gap. -/
theorem acceptance_exact {s : Stock} (hs : s.Reached) :
    (∀ d : RecordDecl, (∀ b ∈ d.bases, b ∈ s.records) →
      ((∃ c, (s.world.buildRecord d).1 = .ok c) ↔ d.Accepted) ∧
      ∀ e, (s.world.buildRecord d).1 = .error e ↔ d.Refused e) ∧
    (∀ d : StructDecl, ((∃ c, (s.world.buildStruct d).1 = .ok c) ↔ d.Accepted) ∧
      ∀ e, (s.world.buildStruct d).1 = .error e ↔ d.Refused e) ∧
    (∀ w : World,
      (∀ d e, (w.buildRecord d).1 = .error e → (w.buildRecord d).2 = w) ∧
      (∀ d e, (w.buildStruct d).1 = .error e → (w.buildStruct d).2 = w) ∧
      ∀ run, (w.acts run).1 =
        (List.range' w.nextClass.number (w.acts run).1.length).map ClassId.mk) := by
  refine ⟨?_, ?_, ?_⟩
  · intro d hb
    rw [World.buildRecord_fst]
    exact ⟨hs.record_accepted_iff hb _, hs.record_refused_iff hb _⟩
  · intro d
    rw [World.buildStruct_fst]
    exact ⟨d.accepted_iff _, d.refused_iff _⟩
  · intro w
    exact ⟨fun _ _ => World.buildRecord_refused, fun _ _ => World.buildStruct_refused, w.acts_ids⟩

/-! ## Declarations with several faults -/

namespace Faulty

def given (f : FieldSpec) : FieldSpec := { f with default := .scalar (.numbered 0) (.int .i64 1) }

/-- Has a marker for a default, which is none. -/
def marked (f : FieldSpec) : FieldSpec := { f with default := .unset }

def filled (f : FieldSpec) : FieldSpec :=
  { given f with factory := .ofScalar (.factory ⟨"ids", 0⟩) }

def key : FieldSpec := .plain .noDefault "key" (.resolved "i64")

def size : FieldSpec := .plain .noDefault "size" (.resolved "i64")

def base : RecordClass := ⟨⟨1⟩, "Base", [], [], [key, size], [key, size], .named "Base"⟩

def below : RecordClass := ⟨⟨2⟩, "Below", [base], [base], [], [key, size], .named "Below"⟩

def tag : StructField := .plain "tag" (.resolved "i64")

def byKeyword (f : StructField) : StructField := { f with kwOnly := true }

def note : StructField :=
  { StructField.plain "note" (.resolved "i64") with default := .scalar (.numbered 1) (.int .i64 2) }

def packed : StructClass :=
  ⟨⟨3⟩, "Packed", [], [byKeyword tag, note], [], false, .ofFields 1 [note, byKeyword tag], [], false⟩

/-- Both slots of a field are filled before a name is repeated, over bases in the wrong order. -/
def torn : RecordDecl := ⟨"Torn", [base, below], [filled key, size, size], none⟩

/-- One field repeats a name and has both slots filled. -/
def twice : RecordDecl := ⟨"Twice", [base, below], [key, filled key], none⟩

/-- Wrong bases, under which a field would be misplaced too. -/
def crossed : RecordDecl := ⟨"Crossed", [base, below], [given key], none⟩

/-- A default in the seat of the first inherited field. -/
def late : RecordDecl := ⟨"Late", [below], [given key], none⟩

def fine : RecordDecl := ⟨"Fine", [below], [given size, marked key], none⟩

/-- Takes by position what its base takes by keyword. -/
def loose : StructDecl := ⟨"Loose", [packed], [tag], [], false, false⟩

def slim : StructDecl := ⟨"Slim", [packed], [], [], false, false⟩

def run : List World.Act := [.record late, .struct slim, .plain "Plain", .struct loose, .record fine]

theorem reached : ∃ w, Stock.Reached ⟨w, [below, base], [packed]⟩ ∧ w.nextClass = ⟨4⟩ := by
  have h₀ : Stock.Reached ⟨.start ⟨1⟩ 2 [], [], []⟩ := .start _
  obtain ⟨_, h₁, n₁⟩ := h₀.recordAt rfl ⟨"Base", [], [key, size], none⟩ base (by simp) rfl
  obtain ⟨_, h₂, n₂⟩ := h₁.recordAt n₁ ⟨"Below", [base], [], none⟩ below (by simp) rfl
  obtain ⟨w, h₃, n₃⟩ := h₂.structAt n₂ ⟨"Packed", [], packed.own, [], false, false⟩ packed (by simp)
    rfl
  exact ⟨w, h₃, n₃⟩

end Faulty

open Faulty in
/-- What comes first is reported, be it a field of the base, and two builds that fail leave no gap
between the others. -/
theorem acceptance_exact_faulty : ∃ w, Stock.Reached ⟨w, [below, base], [packed]⟩ ∧
    torn.Refused (.defaultAndFactory "Torn" "key") ∧
    twice.Refused (.duplicateField "Twice" "key") ∧
    crossed.Refused (.inconsistentHierarchy "Crossed" ["Base", "Below"]) ∧
    late.Refused (.nonDefaultAfterDefault "Late" "size") ∧ fine.Accepted ∧
    loose.Refused (.requiredAfterOptional "Loose" "tag") ∧ slim.Accepted ∧
    (w.buildRecord late).2 = w ∧ (w.acts run).1 = [⟨4⟩, ⟨5⟩, ⟨6⟩] := by
  obtain ⟨w, hw, hnext⟩ := reached
  obtain ⟨hrecord, hstruct, hworld⟩ := acceptance_exact hw
  obtain ⟨hfailed, -, hids⟩ := hworld w
  have hbuild (d : RecordDecl) (h : d.bases = [base, below] ∨ d.bases = [below]) :=
    hrecord d (by rcases h with h | h <;> simp [h])
  have hcount : (w.acts run).1.length = 3 := rfl
  refine ⟨w, hw, ((hbuild torn (Or.inl rfl)).2 _).mp rfl, ((hbuild twice (Or.inl rfl)).2 _).mp rfl,
    ((hbuild crossed (Or.inl rfl)).2 _).mp rfl, ((hbuild late (Or.inr rfl)).2 _).mp rfl,
    (hbuild fine (Or.inr rfl)).1.mp ⟨_, rfl⟩, ((hstruct loose).2 _).mp rfl,
    (hstruct slim).1.mp ⟨_, rfl⟩, hfailed late _ rfl, ?_⟩
  rw [hids, hcount, hnext]
  rfl

end FieldAtlas
