import FieldAtlas.Proofs.Program

/-!
# Answers do not depend on the history

Whatever a program has done before, a list of fields is the one that extraction gives, and a
definition is the one that a new introspector gives.
-/

namespace FieldAtlas

/-- Two outcomes of one kind: one error, or two results that are alike. -/
inductive Agrees {ε α β : Type} (alike : α → β → Prop) : Except ε α → Except ε β → Prop
  | failed (e : ε) : Agrees alike (.error e) (.error e)
  | done {a : α} {b : β} : alike a b → Agrees alike (.ok a) (.ok b)

/-- The two lists hold equal descriptors, one by one. -/
def FieldList.Alike (a b : FieldList) : Prop :=
  List.Forall₂ (fun d e => d.same e = true) a.fields b.fields

/-- The definition that an introspector gives which has seen nothing. -/
def World.freshDefinition (w : World) (settings : Settings) (c : ClassObject)
    (config : ObjectConfig) : Except FieldError ObjectDefinition :=
  let (id, w) := w.newIntrospector settings
  (w.buildDefinition (some id) c config).1

/-! ## Outcomes -/

section

variable {ε α β γ : Type} {alike : α → β → Prop}

theorem Agrees.of_map {x : Except ε α} {y : Except ε β} {f : α → γ} {g : β → γ}
    (h : x.map f = y.map g) (halike : ∀ a b, y = .ok b → f a = g b → alike a b) :
    Agrees alike x y := by
  cases x with
  | error e =>
    cases y with
    | error e' =>
      obtain rfl : e = e' := Except.error.inj h
      exact .failed e
    | ok b => cases h
  | ok a =>
    cases y with
    | error e' => cases h
    | ok b => exact .done (halike a b rfl (Except.ok.inj h))

end

theorem World.freshDefinition_eq (w : World) (settings : Settings) (c : ClassObject)
    (config : ObjectConfig) : w.freshDefinition settings c config =
      (FieldAtlas.extractFields c).map (.ofFields c config settings.autoCamelCase) := by
  have hnew := w.introspector_newIntrospector settings
  have hused : ((w.newIntrospector settings).2.introspector
      (some (w.newIntrospector settings).1)).Used fun _ => c.classify := by
    rw [hnew]
    exact .new settings
  unfold freshDefinition
  simp only
  rw [World.buildDefinition_fst, World.map_getFields hused rfl, hnew]
  rfl

/-! ## Programs -/

/-- The cache may answer, or not: the fields are those that are extracted in any world, and the
definition is the one that any new introspector with the same settings gives. -/
theorem history_independent {p : Program} (hp : p.Reached) {c : ClassObject} (hc : c ∈ p.classes)
    (via : Option IntrospectorId) (config : ObjectConfig) (w : World) :
    Agrees FieldList.Alike (p.world.getFields via c).1 (w.extractFields c).1 ∧
      Agrees (fun d e => d.same e = true) (p.world.buildDefinition via c config).1
        (w.freshDefinition (p.world.introspector via).settings c config) := by
  have hused := (hp.used hp.tables_eq).introspector via
  have hget := World.map_getFields hused (hp.tables_eq c hc)
  have hextract := w.extractFields_fst c
  constructor
  · apply Agrees.of_map (hget.trans hextract.symm)
    intro a b hb hab
    rw [hb] at hextract
    have hsame := hp.same_of_extractFields hc hextract.symm
    rw [FieldList.Alike, hab]
    exact List.forall₂_same.mpr hsame
  · rw [World.buildDefinition_fst, hget, World.freshDefinition_eq]
    cases hfields : extractFields c with
    | error e => exact .failed e
    | ok ds =>
      have hsame := hp.same_of_extractFields hc hfields
      exact .done (ObjectDefinition.same_ofFields c config _ hsame)

/-! ## A default that no copy equals -/

namespace Unequal

def nan : Value := .scalar (.numbered 0) (.double .nan)

def field : StructField := { StructField.plain "value" (.resolved "f64") with default := nan }

def reading : StructClass :=
  ⟨⟨1⟩, "Reading", [], [field], [], false, .ofFields 1 [field], [], false⟩

/-- The same class with a definition. -/
def shown : StructObject := ⟨reading, .named "Reading", none⟩

theorem lasting_nan : nan.Lasting := Or.inl (by simp [nan, Value.Held, Value.place])

/-- The list of the struct is kept. -/
theorem reached : ∃ w, Program.Reached ⟨w, [.object shown, .struct reading]⟩ ∧
    (w.cached? none (.object shown)).isSome := by
  have h₀ : Program.Reached ⟨.start ⟨1⟩ 1 [], []⟩ := .start rfl rfl
  have h₁ := h₀.step (.made (.struct (d := ⟨"Reading", [], [field], [], false, false⟩) (c := reading)
    (by simp) (by simpa [field] using lasting_nan) (by simp) rfl))
  have h₂ := h₁.step (.made (.object (o := shown) List.mem_cons_self))
  have h₃ := h₂.step (.done (.getFields none (c := .struct reading) (by simp)))
  exact ⟨_, h₃, rfl⟩

end Unequal

open Unequal in
/-- The object goes by the list of its struct, which holds a value that equals no copy of itself. -/
theorem history_independent_shown : ∃ w, Program.Reached ⟨w, [.object shown, .struct reading]⟩ ∧
    .object shown ∈ [ClassObject.object shown, .struct reading] ∧
    (w.cached? none (.object shown)).isSome ∧ nan.copied.same nan = false ∧
    Agrees FieldList.Alike (w.getFields none (.object shown)).1
      (w.extractFields (.object shown)).1 ∧
    Agrees (fun d e => d.same e = true) (w.buildDefinition none (.object shown) shown.config).1
      (w.freshDefinition w.global.settings (.object shown) shown.config) := by
  obtain ⟨w, hw, hkept⟩ := reached
  have hc : .object shown ∈ [ClassObject.object shown, .struct reading] := List.mem_cons_self
  have hnan : Double.nan.isNaN = true := by decide
  have hcopy : nan.copied.same nan = false := by
    simp [nan, Value.copied, Value.same, Place.same, Scalar.same, Double.same, hnan]
  exact ⟨w, hw, hc, hkept, hcopy, history_independent hw hc none shown.config w⟩

end FieldAtlas
