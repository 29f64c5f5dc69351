import FieldAtlas.Proofs.Object.Definition

/-!
# Private fields down a chain of structs

An override that a class gives of its own stands in for the one it inherits as a whole, remarks
included. So a field stays private below the class that marks it for as long as no class declares it
again or says anything else about it.
-/

namespace FieldAtlas

def FieldOverride.isPrivate (o : FieldOverride) : Bool :=
  ((o.metadata.get? "private").bind Value.bool?).getD false

namespace StructClass

/-- The override that the class itself gives for a field. -/
def ownOverride? (c : StructClass) (n : String) : Option FieldOverride :=
  (Dict.ofEntries c.ownOverrides).get? n

/-- What the class itself settles about the override of a field: its own one, or none at all if it
declares the field again. -/
def ruling? (c : StructClass) (n : String) : Option (Option FieldOverride) :=
  match c.ownOverride? n with
  | some o => some (some o)
  | none => if n ∈ c.own.map StructField.name then some none else none

/-- Down from `a` by single bases. The classes after `a` are listed, the latest first. -/
inductive Chain (a : StructClass) : StructClass → List StructClass → Prop
  | here : Chain a a []
  | next {b c : StructClass} {later : List StructClass} :
      Chain a b later → c.bases = [b] → Chain a c (c :: later)

theorem ruling?_eq_none_iff (c : StructClass) (n : String) :
    c.ruling? n = none ↔ c.ownOverride? n = none ∧ n ∉ c.own.map StructField.name := by
  unfold ruling?
  cases c.ownOverride? n with
  | some o => simp
  | none => simp

theorem ruling?_of_own {c : StructClass} {n : String} {o : FieldOverride}
    (h : c.ownOverride? n = some o) : c.ruling? n = some (some o) := by
  rw [ruling?, h]

end StructClass

/-! ## Overrides down the chain -/

namespace Stock

variable {s : Stock} {a c : StructClass} {later : List StructClass}

/-- A class goes by what it settles itself, else by the first of its bases with an override. -/
theorem Reached.override?_eq_ruling (hs : s.Reached) (hc : c ∈ s.structs) (n : String) :
    c.override? n = (c.ruling? n).getD (c.bases.findSome? fun b => b.override? n) := by
  obtain ⟨d, hbuilt, hbases⟩ := hs.exists_structBuilt c hc
  have hnodup : ∀ b ∈ d.bases, b.overrides.keys.Nodup :=
    fun b hb => hs.nodup_overrides (hbases b (hbuilt.bases_eq ▸ hb))
  rw [StructClass.override?, hbuilt.overrides, StructDecl.mergedOverrides, Dict.get?_extend_eq,
    Dict.get?_foldl_erase, StructDecl.get?_foldl_extend hnodup, StructClass.ruling?,
    StructClass.ownOverride?, hbuilt.ownOverrides_eq, hbuilt.own_eq, hbuilt.bases_eq]
  cases (Dict.ofEntries d.overrides).get? n with
  | some o => rfl
  | none =>
    rw [Option.none_or]
    split <;> rfl

theorem Reached.override?_chain (hs : s.Reached) (chain : StructClass.Chain a c later)
    (hc : c ∈ s.structs) (n : String) :
    c.override? n = (later.findSome? fun x => x.ruling? n).getD (a.override? n) := by
  induction chain with
  | here => rfl
  | @next b c later _ single ih =>
    have hb : b ∈ s.structs := hs.mem_of_mem_structBases hc (by simp [single])
    rw [hs.override?_eq_ruling hc, single, List.findSome?_singleton, ih hb, List.findSome?_cons]
    cases c.ruling? n <;> rfl

theorem Reached.mem_chain_start (hs : s.Reached) (chain : StructClass.Chain a c later)
    (hc : c ∈ s.structs) : a ∈ s.structs := by
  induction chain with
  | here => exact hc
  | next _ single ih => exact ih (hs.mem_of_mem_structBases hc (by simp [single]))

theorem Reached.mem_names_of_base (hs : s.Reached) (hc : c ∈ s.structs) {b : StructClass}
    (single : c.bases = [b]) {n : String} (hn : n ∈ b.layout.names) : n ∈ c.layout.names := by
  have hb : b ∈ s.structs := hs.mem_of_mem_structBases hc (by simp [single])
  rw [hs.mem_names_iff hb] at hn
  rw [hs.mem_names_iff hc, hs.structField?_eq hc, single, List.findSome?_singleton, Option.isSome_or,
    hn, Bool.or_true]

theorem Reached.mem_names_of_own (hs : s.Reached) (hc : c ∈ s.structs) {n : String}
    (hn : n ∈ c.own.map StructField.name) : n ∈ c.layout.names := by
  have hown : (c.ownFields.find? fun f => f.name == n).isSome := by
    obtain ⟨f, hf, rfl⟩ := List.mem_map.mp hn
    rw [List.find?_isSome]
    exact ⟨_, List.mem_map_of_mem hf, by simp⟩
  rw [hs.mem_names_iff hc, hs.structField?_eq hc, Option.isSome_or, Option.isSome_map, hown,
    Bool.true_or]

theorem Reached.mem_names_chain (hs : s.Reached) (chain : StructClass.Chain a c later)
    (hc : c ∈ s.structs) {n : String}
    (said : (later.findSome? fun x => x.ruling? n) = some none) : n ∈ c.layout.names := by
  induction chain with
  | here => cases said
  | @next b c later _ single ih =>
    have hb : b ∈ s.structs := hs.mem_of_mem_structBases hc (by simp [single])
    rw [List.findSome?_cons] at said
    cases hrule : c.ruling? n with
    | none =>
      rw [hrule] at said
      exact hs.mem_names_of_base hc single (ih hb said)
    | some r =>
      rw [hrule] at said
      obtain rfl := Option.some.inj said
      -- Only a declaration settles that there is no override.
      unfold StructClass.ruling? at hrule
      split at hrule
      · cases hrule
      · split at hrule
        · exact hs.mem_names_of_own hc ‹_›
        · cases hrule

end Stock

/-! ## What the definition shows -/

theorem StructClass.isPrivate_of_spec {t : StructClass} {i : FieldInfo} {d : Descriptor}
    (h : d.spec = t.spec i) :
    ObjectField.isPrivate d = (t.override? d.name).any FieldOverride.isPrivate := by
  have hname : d.name = i.name := congrArg FieldSpec.name h
  have hmetadata : d.metadata = (t.spec i).metadata := congrArg FieldSpec.metadata h
  have hget : (t.spec i).metadata.get? "private" =
      ((t.override? i.name).getD .empty).metadata.get? "private" := by
    unfold spec
    simp only
    split
    · rfl
    · exact Dict.get?_insertNew_of_ne (by decide) _ _
  rw [ObjectField.isPrivate, Descriptor.metadataValue?, hmetadata, hget, hname]
  cases t.override? i.name <;> rfl

theorem Program.Reached.field?_eq_none_iff {p : Program} (hp : p.Reached) {c : ClassObject}
    (hc : c ∈ p.classes) {t : StructClass} (hclass : c.classify = .struct t) {strict : Bool}
    {d : ObjectDefinition} (h : (p.world.definition c strict).1 = .ok (some d)) (n : String) :
    (∀ k ∈ t.overrides.keys, k ∈ t.layout.names) ∧ (d.field? n = none ↔
      (n ∈ t.layout.names → (t.override? n).any FieldOverride.isPrivate = true)) := by
  obtain ⟨o, _, hbuild⟩ := World.definition_ok h
  obtain ⟨ds, hds, rfl⟩ := hp.buildDefinition_ok hc hbuild
  obtain ⟨hkeys, hspec⟩ := hp.extracted_struct hc hclass hds
  refine ⟨hkeys, ?_⟩
  have hnames : ds.map Descriptor.name = t.layout.names := by
    rw [map_name_of_spec hspec, List.map_map,
      ← hp.stock.names_infos (hp.mem_structs_of_classify hc hclass)]
    rfl
  have hprivate : ∀ d ∈ ds, ObjectField.isPrivate d =
      (t.override? d.name).any FieldOverride.isPrivate := by
    intro d hd
    have hin : d.spec ∈ t.infos.map t.spec := hspec ▸ List.mem_map_of_mem hd
    obtain ⟨i, _, hi⟩ := List.mem_map.mp hin
    exact StructClass.isPrivate_of_spec hi.symm
  rw [ObjectDefinition.field?_ofFields_eq_none_iff, ← hnames]
  constructor
  · intro hall hn
    obtain ⟨d, hd, rfl⟩ := List.mem_map.mp hn
    rw [← hprivate d hd]
    exact hall d hd rfl
  · rintro hall d hd rfl
    rw [hprivate d hd]
    exact hall (List.mem_map_of_mem hd)

/-- Below a class whose override marks a field private, the object of a class shows it only if a
class on the way has declared it again or has given an override of its own for it. The latest such
class decides: it hides the field exactly if its own override marks it too. -/
theorem private_until_overridden {p : Program} (hp : p.Reached) {a : StructClass} {o : StructObject}
    {later : List StructClass} (chain : StructClass.Chain a o.layout later) {n : String}
    {marked : FieldOverride} (own : a.ownOverride? n = some marked)
    (isPrivate : marked.isPrivate = true) (known : .object o ∈ p.classes) {strict : Bool}
    {d : ObjectDefinition} (built : (p.world.definition (.object o) strict).1 = .ok (some d)) :
    ((∀ c ∈ later, c.ownOverride? n = none ∧ n ∉ c.own.map StructField.name) →
      d.field? n = none) ∧
    ∀ said, (later.findSome? fun c => c.ruling? n) = some said →
      (d.field? n = none ↔ said.any FieldOverride.isPrivate = true) := by
  have hs := hp.stock
  obtain ⟨hkeys, hshown⟩ := hp.field?_eq_none_iff known (t := o.layout) rfl built n
  have hc : o.layout ∈ p.stock.structs := hp.mem_structs_of_classify known rfl
  have hchain := hs.override?_chain chain hc n
  constructor
  · intro silent
    have hnone : (later.findSome? fun c => c.ruling? n) = none := by
      rw [List.findSome?_eq_none_iff]
      exact fun c hc => (c.ruling?_eq_none_iff n).mpr (silent c hc)
    have ha : a ∈ p.stock.structs := hs.mem_chain_start chain hc
    rw [hnone, hs.override?_eq_ruling ha, StructClass.ruling?_of_own own] at hchain
    rw [hshown, hchain]
    exact fun _ => isPrivate
  · intro said hsaid
    rw [hsaid] at hchain
    have hn : n ∈ o.layout.layout.names := by
      cases said with
      | none => exact hs.mem_names_chain chain hc hsaid
      | some _ =>
        apply hkeys
        rw [Dict.mem_keys_iff, ← StructClass.override?, hchain]
        rfl
    rw [hshown, hchain]
    exact ⟨fun h => h hn, fun h _ => h⟩

/-! ## A secret and three classes -/

namespace Secret

def user : StructField := .plain "user" (.resolved "String")

def secret : StructField := .plain "secret" (.resolved "String")

def marked : FieldOverride :=
  { FieldOverride.empty with metadata := [("private", .scalar (.numbered 0) (.bool true))] }

def unshown : FieldOverride := { FieldOverride.empty with repr := some false }

def layout : Layout := .ofFields 2 [user, secret]

def account : StructClass :=
  ⟨⟨1⟩, "Account", [], [user, secret], [("secret", marked)], false, layout, [("secret", marked)], false⟩

/-- Says something about the other field. -/
def session : StructClass :=
  ⟨⟨2⟩, "Session", [account], [], [("user", unshown)], false, layout,
    [("secret", marked), ("user", unshown)], false⟩

/-- Says something about the secret, but not whether it is one. -/
def report : StructClass :=
  ⟨⟨3⟩, "Report", [session], [], [("secret", unshown)], false, layout,
    [("secret", unshown), ("user", unshown)], false⟩

def object (c : StructClass) : ClassObject := .object ⟨c, .named c.name, none⟩

def classes : List ClassObject :=
  [object report, object session, .struct report, .struct session, .struct account]

theorem chain_session : StructClass.Chain account session [session] := .next .here rfl

theorem chain_report : StructClass.Chain account report [report, session] := .next chain_session rfl

theorem lasting_unshown : unshown.Lasting := by simp [FieldOverride.Lasting, unshown, FieldOverride.empty]

theorem lasting_marked : marked.Lasting := by
  simp [FieldOverride.Lasting, marked, Value.Lasting, Value.Held, Value.place]

theorem lasting_default : ∀ f ∈ [user, secret], f.default.Lasting := by
  simp [user, secret, StructField.plain, Value.Lasting, Value.unset, Value.held_ofMarker]

theorem reached : ∃ w, Program.Reached ⟨w, classes⟩ ∧
    (∃ d, (w.definition (object session) true).1 = .ok (some d)) ∧
    ∃ d, (w.definition (object report) true).1 = .ok (some d) ∧ (d.field? "secret").isSome = true := by
  have h₀ : Program.Reached ⟨.start ⟨1⟩ 1 [], []⟩ := .start rfl rfl
  have h₁ := h₀.step (.made (.struct (d := ⟨"Account", [], [user, secret], [("secret", marked)],
    false, false⟩) (c := account) (by simp) lasting_default (by simp [lasting_marked]) rfl))
  have h₂ := h₁.step (.made (.struct (d := ⟨"Session", [account], [], [("user", unshown)], false,
    false⟩) (c := session) (by simp) (by simp) (by simp [lasting_unshown]) rfl))
  have h₃ := h₂.step (.made (.struct (d := ⟨"Report", [session], [], [("secret", unshown)], false,
    false⟩) (c := report) (by simp) (by simp) (by simp [lasting_unshown]) rfl))
  have h₄ := h₃.step (.made (.object (o := ⟨session, .named "Session", none⟩) (by simp)))
  have h₅ := h₄.step (.made (.object (o := ⟨report, .named "Report", none⟩) (by simp)))
  exact ⟨_, h₅, ⟨_, rfl⟩, _, rfl, rfl⟩

end Secret

open Secret in
/-- An override of another field keeps the secret, one of the field itself shows it. -/
theorem private_until_overridden_secret : ∃ w, Program.Reached ⟨w, classes⟩ ∧
    StructClass.Chain account session [session] ∧
    StructClass.Chain account report [report, session] ∧
    account.ownOverride? "secret" = some marked ∧ marked.isPrivate = true ∧
    (∃ d, (w.definition (object session) true).1 = .ok (some d) ∧ d.field? "secret" = none) ∧
    ∃ d, (w.definition (object report) true).1 = .ok (some d) ∧ d.field? "secret" ≠ none := by
  obtain ⟨w, hw, ⟨d, hd⟩, e, he, _⟩ := reached
  have hown : account.ownOverride? "secret" = some marked := rfl
  have hkept := private_until_overridden hw chain_session hown rfl (by simp [classes, object]) hd
  have hlost := private_until_overridden hw chain_report hown rfl (by simp [classes, object]) he
  have hsilent : ∀ c ∈ [session],
      c.ownOverride? "secret" = none ∧ "secret" ∉ c.own.map StructField.name := by
    simp [session, StructClass.ownOverride?, Dict.ofEntries, Dict.extend, Dict.insert, Dict.get?_cons]
  refine ⟨w, hw, chain_session, chain_report, hown, rfl, ⟨d, hd, hkept.1 hsilent⟩, e, he, ?_⟩
  rw [Ne, hlost.2 (some unshown) rfl]
  decide

open Secret in
/-- Below a class that marks the secret, no class declares it again or says under `private` that it
is none, and still it is shown. -/
theorem private_mark_lost : ∃ w, Program.Reached ⟨w, classes⟩ ∧
    StructClass.Chain account report [report, session] ∧
    account.ownOverride? "secret" = some marked ∧ marked.isPrivate = true ∧
    (∀ c ∈ [report, session], "secret" ∉ c.own.map StructField.name ∧
      ∀ o, c.ownOverride? "secret" = some o → o.metadata.get? "private" = none) ∧
    ∃ d, (w.definition (object report) true).1 = .ok (some d) ∧
      (d.field? "secret").isSome = true := by
  obtain ⟨w, hw, _, hshown⟩ := reached
  refine ⟨w, hw, chain_report, rfl, rfl, ?_, hshown⟩
  simp [report, session, unshown, FieldOverride.empty, StructClass.ownOverride?, Dict.ofEntries,
    Dict.extend, Dict.insert, Dict.get?_cons]

end FieldAtlas
