import FieldAtlas.Proofs.Domain
import FieldAtlas.Proofs.Program

/-!
# Bare subclasses

A class over a single base that declares nothing has the fields of its base, although its tables are
merged or laid out anew. Only its name may show, as the owner of a field that cannot be described.
-/

namespace FieldAtlas

/-! ## Another owner -/

def ConfigurationError.ownedBy (owner : String) (e : ConfigurationError) : ConfigurationError :=
  { e with owner := owner }

theorem mapM_mapError {α β ε ε' : Type} {g : α → Except ε β} {h : α → Except ε' β} {r : ε → ε'}
    (hgh : ∀ x, h x = (g x).mapError r) (xs : List α) : xs.mapM h = (xs.mapM g).mapError r := by
  induction xs with
  | nil => rfl
  | cons x xs ih =>
    rw [List.mapM_cons, List.mapM_cons, hgh x, ih]
    cases g x with
    | error e => rfl
    | ok y => cases xs.mapM g <;> rfl

theorem Descriptor.make_ownedBy (owner owner' : String) (spec : FieldSpec) :
    make owner' spec = (make owner spec).mapError (.ownedBy owner') := by
  unfold make checkFactory
  cases spec.factory.isMissing with
  | true => simp only [if_true, bind, Except.bind]; split <;> rfl
  | false =>
    cases spec.factory.factory?.isSome with
    | true => simp only [if_true, Bool.false_eq_true, if_false, bind, Except.bind]; split <;> rfl
    | false => rfl

theorem RecordClass.extract_ownedBy {b c : RecordClass} (h : c.fields = b.fields) :
    c.extract = b.extract.mapError (.ownedBy c.name) := by
  rw [extract, h]
  exact mapM_mapError (fun f => Descriptor.make_ownedBy b.name c.name _) b.fields

namespace StructClass

variable {b c : StructClass}

theorem spec_congr (h : c.overrides = b.overrides) (f : FieldInfo) : c.spec f = b.spec f := by
  rw [spec, override?, h]
  rfl

theorem describe_ownedBy (h : c.overrides = b.overrides) (f : FieldInfo) :
    c.describe f = (b.describe f).mapError (.ownedBy c.name) := by
  unfold describe
  rw [spec_congr h]
  simp only
  split
  · rfl
  · exact Descriptor.make_ownedBy b.name c.name (b.spec f)

theorem unknownOverride?_congr (hover : c.overrides = b.overrides)
    (hinfos : c.infos.map FieldInfo.settled = b.infos.map FieldInfo.settled) :
    c.unknownOverride? = b.unknownOverride? := by
  have hany : ∀ (x : StructClass) (k : String), (x.infos.any fun f => f.name == k) =
      (x.infos.map FieldInfo.settled).any fun f => f.name == k := by
    intro x k
    rw [List.any_map]
    rfl
  unfold unknownOverride?
  simp only [hany, hover, hinfos]

theorem extract_ownedBy (hover : c.overrides = b.overrides)
    (hinfos : c.infos.map FieldInfo.settled = b.infos.map FieldInfo.settled) :
    c.extract = b.extract.mapError (.ownedBy c.name) := by
  have hunknown := unknownOverride?_congr hover hinfos
  cases hb : b.unknownOverride? with
  | some k =>
    rw [extract, extract, hunknown, hb]
    rfl
  | none =>
    rw [extract_eq_settled c (hunknown.trans hb), extract_eq_settled b hb, hinfos]
    exact mapM_mapError (describe_ownedBy hover) _

end StructClass

/-- Both classes are extracted, to one list, or both are refused for the same fault of one field. -/
inductive ClassObject.ReadsAlike (b c : ClassObject) : Prop
  | fields {ds : List Descriptor} (base : extractFields b = .ok ds)
      (bare : extractFields c = .ok ds) (same : ∀ d ∈ ds, d.same d = true)
  | refused {field : String} {fault : FieldFault}
      (base : extractFields b = .error (.configuration ⟨b.name, field, fault⟩))
      (bare : extractFields c = .error (.configuration ⟨c.name, field, fault⟩))

theorem ClassObject.readsAlike_of {b c : ClassObject}
    {x : Except ConfigurationError (List Descriptor)}
    (hb : extractFields b = (x.mapError (.ownedBy b.name)).mapError .configuration)
    (hc : extractFields c = (x.mapError (.ownedBy c.name)).mapError .configuration)
    (hsame : ∀ ds, extractFields b = .ok ds → ∀ d ∈ ds, d.same d = true) : b.ReadsAlike c := by
  cases x with
  | error e => exact .refused hb hc
  | ok ds => exact .fields hb hc (hsame ds hb)

/-! ## Records -/

namespace Stock

variable {s : Stock}

theorem Reached.build_bare_record (hs : s.Reached) {c : RecordClass} (hc : c ∈ s.records)
    {d : RecordDecl} (hbases : d.bases = [c]) (hfields : d.fields = []) (id : ClassId) :
    ∃ e, d.build id = .ok e ∧ e.fields = c.fields := by
  obtain ⟨_, _, hbuilt⟩ := hs.exists_recordBuilt c hc
  have hown : d.ownError? = none := by
    rw [RecordDecl.ownError?, hfields]
    rfl
  have htable : d.table c.mro = c.fields := by
    rw [hs.table_of_single hc d, hfields]
    rfl
  unfold RecordDecl.build
  rw [hown, hs.ancestors?_of_single hc hbases]
  simp only [htable, hbuilt.placed]
  exact ⟨_, rfl, rfl⟩

end Stock

/-! ## Structs -/

theorem StructField.split_split (fields : List StructField) :
    split (split fields) = split fields := by
  simp [split, List.filter_append, List.filter_filter]

namespace StructDecl

section

variable {d d' : StructDecl}
  (h : (d.declared.map fun f => f.info.settled) = d'.ordered.map fun f => f.info.settled)
include h

theorem settled_ordered :
    (d.ordered.map fun f => f.info.settled) = d'.ordered.map fun f => f.info.settled := by
  have hsplit := StructField.map_settled_split h
  -- Fields by position are in front already, so that a second split moves nothing.
  have hstays : StructField.split d'.ordered = d'.ordered := StructField.split_split d'.declared
  rwa [hstays] at hsplit

theorem settled_positional :
    ((d.declared.filter fun f => !f.kwOnly).map fun f => f.info.settled) =
      (d'.declared.filter fun f => !f.kwOnly).map fun f => f.info.settled := by
  have hfilter : ∀ l : List StructField,
      ((l.filter fun f => !f.kwOnly).map fun f => f.info.settled) =
        (l.map fun f => f.info.settled).filter fun i => !i.kwOnly := by
    intro l
    rw [List.filter_map]
    rfl
  have hpositional : (d'.ordered.filter fun f => !f.kwOnly) =
      d'.declared.filter fun f => !f.kwOnly := by
    simp [ordered, List.filter_append, List.filter_filter]
  rw [hfilter, h, ← hfilter, hpositional]

end

theorem misplaced?_congr {l m : List StructField}
    (h : (l.map fun f => f.info.settled) = m.map fun f => f.info.settled) :
    Table.misplaced? StructField.hasDefault false l = none ↔
      Table.misplaced? StructField.hasDefault false m = none := by
  -- Whether a field has a default can be told from what is reported of it.
  have hreported : ∀ f : StructField, (!f.info.settled.required) = f.hasDefault := by
    intro f
    rw [FieldInfo.required_settled, f.hasDefault_eq_required]
  have hmap : ∀ l : List StructField,
      Table.misplaced? (fun i : FieldInfo => !i.required) false (l.map fun f => f.info.settled) =
        (Table.misplaced? StructField.hasDefault false l).map fun f => f.info.settled :=
    Table.misplaced?_map (f := fun f : StructField => f.info.settled) hreported false
  have heq := hmap l
  rw [h, hmap m] at heq
  rw [← Option.map_eq_none_iff, ← heq, Option.map_eq_none_iff]

theorem mergedOverrides_of_bare {d : StructDecl} {c : StructClass} (hbases : d.bases = [c])
    (hfields : d.fields = []) (hoverrides : d.overrides = []) (hsorted : Dict.Sorted c.overrides) :
    d.mergedOverrides = c.overrides := by
  rw [mergedOverrides, hbases, hfields, hoverrides]
  exact Dict.ofEntries_eq hsorted

end StructDecl

/-- The tables of both classes report the same. -/
structure StructClass.LaidOutAlike (b c : StructClass) : Prop where
  names : c.layout.names = b.layout.names
  encodeNames : c.layout.encodeNames = b.layout.encodeNames
  positionalCount : c.layout.positionalCount = b.layout.positionalCount
  overrides : c.overrides = b.overrides
  infos : c.infos.map FieldInfo.settled = b.infos.map FieldInfo.settled

namespace Stock

variable {s : Stock} {c : StructClass}

theorem Reached.build_bare_struct (hs : s.Reached) (hc : c ∈ s.structs) {d : StructDecl}
    (hbases : d.bases = [c]) (hfields : d.fields = []) (hoverrides : d.overrides = [])
    (id : ClassId) : ∃ e, d.build id = .ok e ∧ c.LaidOutAlike e := by
  obtain ⟨d₀, hbuilt, _⟩ := hs.exists_structBuilt c hc
  -- What is decoded from the tables reports what was laid out in them.
  have hdeclared : (d.declared.map fun f => f.info.settled) =
      d₀.ordered.map fun f => f.info.settled := by
    rw [hs.declared_of_single hc hbases, hfields, ← hbuilt.settled_infos,
      ← c.map_settled_declarations]
    rfl
  have hordered := StructDecl.settled_ordered hdeclared
  have hpositional := StructDecl.settled_positional hdeclared
  have hown : d.ownError? = none := by
    rw [StructDecl.ownError?, hfields]
    rfl
  have hplaced := (StructDecl.misplaced?_congr hpositional).mpr hbuilt.placed
  have hbuild : ∃ e, d.build id = .ok e := by
    unfold StructDecl.build
    rw [hown]
    simp only [hplaced]
    exact ⟨_, rfl⟩
  obtain ⟨e, he⟩ := hbuild
  obtain ⟨hbare, _⟩ := StructDecl.build_ok he
  refine ⟨e, he, ?_, ?_, ?_, ?_, ?_⟩
  · have hnames := congrArg (List.map FieldInfo.name) hordered
    rw [List.map_map, List.map_map] at hnames
    rw [hbare.names_eq, hbuilt.names_eq]
    exact hnames
  · have hnames := congrArg (List.map FieldInfo.encodeName) hordered
    rw [List.map_map, List.map_map] at hnames
    rw [hbare.layout_eq, hbuilt.layout_eq]
    exact hnames
  · have hlength := congrArg List.length hpositional
    rw [List.length_map, List.length_map] at hlength
    rw [hbare.layout_eq, hbuilt.layout_eq]
    exact hlength
  · rw [hbare.overrides, d.mergedOverrides_of_bare hbases hfields hoverrides]
    rw [hbuilt.overrides]
    exact d₀.sorted_mergedOverrides
  · rw [hbare.settled_infos, hordered, hbuilt.settled_infos]

end Stock

/-! ## Every class of a program -/

theorem World.buildRecord_of_build {w : World} {d : RecordDecl} {c : RecordClass}
    (h : d.build w.nextClass = .ok c) : (w.buildRecord d).1 = .ok c := by
  rw [buildRecord, h]

theorem World.buildStruct_of_build {w : World} {d : StructDecl} {c : StructClass}
    (h : d.build w.nextClass = .ok c) : (w.buildStruct d).1 = .ok c := by
  rw [buildStruct, h]

/-- Over every class alone one can build a class that declares nothing, under any name and at any
time. It reads like its base. -/
theorem bare_subclass_reads_alike {p : Program} (hp : p.Reached) (w : World) (name : String) :
    (∀ c, .record c ∈ p.classes → ∀ object, ∃ e,
      (w.buildRecord ⟨name, [c], [], object⟩).1 = .ok e ∧
        (ClassObject.record c).ReadsAlike (.record e)) ∧
    ∀ c, .struct c ∈ p.classes → ∀ kwOnly frozen, ∃ e,
      (w.buildStruct ⟨name, [c], [], [], kwOnly, frozen⟩).1 = .ok e ∧
        (ClassObject.struct c).ReadsAlike (.struct e) ∧ c.LaidOutAlike e := by
  constructor
  · intro c hc object
    obtain ⟨e, hbuild, hfields⟩ := hp.stock.build_bare_record ((Program.mem_records c).mpr hc)
      (d := ⟨name, [c], [], object⟩) rfl rfl w.nextClass
    refine ⟨e, World.buildRecord_of_build hbuild, ?_⟩
    apply ClassObject.readsAlike_of (x := c.extract) _ _ fun ds => hp.same_of_extractFields hc
    · exact congrArg (Except.mapError FieldError.configuration) (RecordClass.extract_ownedBy rfl)
    · exact congrArg (Except.mapError FieldError.configuration)
        (RecordClass.extract_ownedBy hfields)
  · intro c hc kwOnly frozen
    obtain ⟨e, hbuild, halike⟩ := hp.stock.build_bare_struct ((Program.mem_structs c).mpr hc)
      (d := ⟨name, [c], [], [], kwOnly, frozen⟩) rfl rfl rfl w.nextClass
    refine ⟨e, World.buildStruct_of_build hbuild, ?_, halike⟩
    apply ClassObject.readsAlike_of (x := c.extract) _ _ fun ds => hp.same_of_extractFields hc
    · exact congrArg (Except.mapError FieldError.configuration)
        (StructClass.extract_ownedBy rfl rfl)
    · exact congrArg (Except.mapError FieldError.configuration)
        (StructClass.extract_ownedBy halike.overrides halike.infos)

namespace Bare

open Holes (size key tags)

def overrides : Dict FieldOverride := [("size", TwoBases.unshown)]

def packed : StructClass :=
  ⟨⟨1⟩, "Packed", [], [key, size, tags], overrides, false, .ofFields 2 [size, tags, key], overrides,
    false⟩

def row : RecordClass := { Refused.row with id := ⟨2⟩ }

theorem reached : ∃ w, Program.Reached ⟨w, [.record row, .struct packed]⟩ := by
  have h₀ : Program.Reached ⟨.start ⟨1⟩ 2 [], []⟩ := .start rfl rfl
  have hheld : ∀ v : Value, v.place ≠ .passing → v.Lasting := fun v h => Or.inl h
  have hdefault : ∀ f ∈ packed.own, f.default.Lasting := by
    intro f hf
    apply hheld
    simp only [packed, List.mem_cons, List.not_mem_nil, or_false] at hf
    rcases hf with rfl | rfl | rfl <;> decide
  have hoverride : ∀ e ∈ overrides, e.2.Lasting := by
    simp [overrides, TwoBases.unshown, FieldOverride.empty, FieldOverride.Lasting]
  have hslot : Refused.slot.Lasting :=
    ⟨hheld _ (by decide), hheld _ (by decide), by simp [Refused.slot, FieldSpec.plain]⟩
  have h₁ := h₀.step (.made (.struct
    (d := ⟨"Packed", [], [key, size, tags], overrides, false, false⟩) (c := packed)
    (by simp) hdefault hoverride rfl))
  have h₂ := h₁.step (.made (.record (d := ⟨"Row", [], [Refused.slot], none⟩) (c := row)
    (by simp) (by simpa using hslot) rfl))
  exact ⟨_, h₂⟩

end Bare

open Bare in
/-- A renamed field, a factory, an override and a hole for a field by keyword are passed on, and so
is what is wrong with a record. -/
theorem bare_subclass_reads_alike_packed : ∃ w,
    Program.Reached ⟨w, [.record row, .struct packed]⟩ ∧
    packed.layout.encodeNames = ["n", "tags", "key"] ∧
    packed.layout.defaults.map Value.isMissing = [false, false, true] ∧
    (∃ e, (w.buildStruct ⟨"Bare", [packed], [], [], true, true⟩).1 = .ok e ∧
      (ClassObject.struct packed).ReadsAlike (.struct e) ∧ packed.LaidOutAlike e) ∧
    extractFields (.record row) = .error (.configuration ⟨"Row", "n", .notAFactory "1"⟩) ∧
    ∃ e, (w.buildRecord ⟨"Plain", [row], [], none⟩).1 = .ok e ∧
      (ClassObject.record row).ReadsAlike (.record e) := by
  obtain ⟨w, hw⟩ := reached
  obtain ⟨-, hstruct⟩ := bare_subclass_reads_alike hw w "Bare"
  obtain ⟨hrecord, -⟩ := bare_subclass_reads_alike hw w "Plain"
  exact ⟨w, hw, rfl, rfl, hstruct packed (by simp) true true, rfl, hrecord row (by simp) none⟩

end FieldAtlas
