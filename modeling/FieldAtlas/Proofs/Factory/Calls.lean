import FieldAtlas.Proofs.Factory.Slots
import Mathlib.Algebra.Group.Int.Defs

/-!
# Calls of factories in a run

Only a call advances a closure: a product that is asked for, or the default of a field that starts
with a factory. A ledger keeps all calls in their order, whichever handle on the factory they went
through.
-/

namespace FieldAtlas

/-! ## Closures -/

/-- What a closure gives at its call of this number, from 0 on. -/
def Product.nth (product : Product) (n : Nat) : Value := (Closure.mk product n).next

theorem Product.wrapped_eq {n : Int} (hlow : -2 ^ 63 ≤ n) (hhigh : n < 2 ^ 63) : wrapped n = n := by
  change n.bmod 18446744073709551616 = n
  exact Int.bmod_eq_of_le (by omega) (by omega)

theorem Product.nth_counter {first : Int} {n : Nat} (hlow : -2 ^ 63 ≤ first + n)
    (hhigh : first + n < 2 ^ 63) :
    (Product.counter first).nth n = .ofScalar (.int .i64 (first + n)) := by
  have hnth : (Product.counter first).nth n =
      .ofScalar (.int .i64 (wrapped (first + n))) := rfl
  rw [hnth, wrapped_eq hlow hhigh]

namespace World

variable (w : World)

theorem produce_eq {f : Factory} {c : Closure} (h : w.closures[f.closure]? = some c) :
    w.produce f = (c.next, { w with closures := w.closures.set f.closure c.called }) := by
  rw [produce, h]

theorem defaultValue_stored {d : Descriptor} (h : d.default.isMissing = false) :
    w.defaultValue d = (some d.default, w) := by
  rw [defaultValue, Descriptor.start?, h]
  rfl

theorem defaultValue_produced {d : Descriptor} {f : Factory} (h : d.start? = some (.produced f)) :
    w.defaultValue d = (w.produce f).map some id := by
  rw [defaultValue, h]
  rfl

end World

namespace Program

/-- All that a program does apart from new factories and calls. -/
inductive Quiet (p : Program) : Program → Prop
  | made {c : ClassObject} {w : World} : p.Made c w → Quiet p ⟨w, c :: p.classes⟩
  | recordRefused {d : RecordDecl} {e : RecordError}
      (refused : (p.world.buildRecord d).1 = .error e) :
      Quiet p ⟨(p.world.buildRecord d).2, p.classes⟩
  | structRefused {d : StructDecl} {e : StructError}
      (refused : (p.world.buildStruct d).1 = .error e) :
      Quiet p ⟨(p.world.buildStruct d).2, p.classes⟩
  | place : Quiet p ⟨p.world.newPlace.2, p.classes⟩
  | introspector (settings : Settings) : Quiet p ⟨(p.world.newIntrospector settings).2, p.classes⟩
  | initGlobal (settings : Settings) : Quiet p ⟨(p.world.initGlobal settings).2, p.classes⟩
  | getFields (via : Option IntrospectorId) {c : ClassObject} (known : c ∈ p.classes) :
      Quiet p ⟨(p.world.getFields via c).2, p.classes⟩
  | extractFields {c : ClassObject} (known : c ∈ p.classes) :
      Quiet p ⟨(p.world.extractFields c).2, p.classes⟩
  | buildDefinition (via : Option IntrospectorId) {c : ClassObject} (known : c ∈ p.classes)
      (config : ObjectConfig) : Quiet p ⟨(p.world.buildDefinition via c config).2, p.classes⟩
  | definition {c : ClassObject} (known : c ∈ p.classes) (strict : Bool) :
      Quiet p ⟨(p.world.definition c strict).2, p.classes⟩
  | forget (via : Option IntrospectorId) {c : ClassObject} (known : c ∈ p.classes) :
      Quiet p ⟨(p.world.forget via c).2, p.classes⟩
  | clear (via : Option IntrospectorId) : Quiet p ⟨p.world.clear via, p.classes⟩
  /-- The default of a field that starts with a value, or with nothing. -/
  | stored {d : Descriptor} (unasked : ∀ f, d.start? ≠ some (.produced f)) :
      Quiet p ⟨(p.world.defaultValue d).2, p.classes⟩

variable {p q : Program}

theorem defaultValue_unasked {d : Descriptor} (unasked : ∀ f, d.start? ≠ some (.produced f))
    (w : World) : (w.defaultValue d).2 = w := by
  unfold World.defaultValue
  split
  · rfl
  · rfl
  · rename_i f h
    exact absurd h (unasked f)

theorem Made.closures {c : ClassObject} {w : World} (h : p.Made c w) :
    w.closures = p.world.closures := by
  cases h with
  | @record d _ _ _ _ built =>
    have hclosures := (p.world.buildRecord_store d).closures
    rwa [built] at hclosures
  | @struct d _ _ _ _ _ built =>
    have hclosures := (p.world.buildStruct_store d).closures
    rwa [built] at hclosures
  | object => rfl
  | plain made =>
    obtain ⟨_, rfl⟩ := Prod.mk.inj made
    rfl
  | foreign _ _ made =>
    obtain ⟨_, rfl⟩ := Prod.mk.inj made
    rfl

theorem Quiet.closures (h : p.Quiet q) : q.world.closures = p.world.closures := by
  cases h with
  | made h => exact h.closures
  | recordRefused => exact (p.world.buildRecord_store _).closures
  | structRefused => exact (p.world.buildStruct_store _).closures
  | place => rfl
  | introspector => rfl
  | initGlobal => rfl
  | getFields via => exact (p.world.getFields_store via _).closures
  | extractFields => exact (p.world.extractFields_store _).closures
  | buildDefinition via _ config => exact (p.world.buildDefinition_store via _ config).closures
  | definition _ strict => exact (p.world.definition_store _ strict).closures
  | forget via => exact (p.world.setIntrospector_store via _).closures
  | clear via => exact (p.world.setIntrospector_store via _).closures
  | stored unasked => rw [defaultValue_unasked unasked]

theorem Quiet.step (h : p.Quiet q) : p.Step q := by
  cases h with
  | made h => exact .made h
  | recordRefused refused =>
    rw [p.world.buildRecord_refused refused]
    exact .done (.other ⟨rfl, rfl⟩ (Nat.le_refl _))
  | structRefused refused =>
    rw [p.world.buildStruct_refused refused]
    exact .done (.other ⟨rfl, rfl⟩ (Nat.le_refl _))
  | place => exact .done (.other ⟨rfl, rfl⟩ (Nat.le_refl _))
  | introspector settings => exact .done (.introspector settings)
  | initGlobal => exact .done (.other ⟨rfl, rfl⟩ (Nat.le_refl _))
  | getFields via known => exact .done (.getFields via known)
  | extractFields known => exact .done (.extractFields known)
  | buildDefinition via known config => exact .done (.buildDefinition via known config)
  | definition known strict => exact .done (.definition known strict)
  | forget via known => exact .done (.forget via known)
  | clear via => exact .done (.clear via)
  | stored unasked =>
    rw [defaultValue_unasked unasked]
    exact .done (.other ⟨rfl, rfl⟩ (Nat.le_refl _))

end Program

/-! ## Ledgers -/

/-- A call of a closure, and the value that it gave. -/
structure Call where
  closure : Nat
  value : Value

/-- A program with all calls made in it, the latest last. -/
structure Ledger where
  program : Program
  calls : List Call

namespace Ledger

/-- What a program does next. It asks only factories whose closures there are. -/
inductive Step (l : Ledger) : Ledger → Prop
  | quiet {q : Program} : l.program.Quiet q → Step l ⟨q, l.calls⟩
  | factory (name : String) (product : Product) :
      Step l ⟨⟨(l.program.world.newFactory name product).2, l.program.classes⟩, l.calls⟩
  | produce {f : Factory} {v : Value} {w : World}
      (known : f.closure < l.program.world.closures.length)
      (produced : l.program.world.produce f = (v, w)) :
      Step l ⟨⟨w, l.program.classes⟩, l.calls ++ [⟨f.closure, v⟩]⟩
  | default {d : Descriptor} {f : Factory} {v : Value} {w : World}
      (starts : d.start? = some (.produced f))
      (known : f.closure < l.program.world.closures.length)
      (taken : l.program.world.defaultValue d = (some v, w)) :
      Step l ⟨⟨w, l.program.classes⟩, l.calls ++ [⟨f.closure, v⟩]⟩

/-- The ledgers that come about, from a world in which nothing has been called. -/
inductive Reached : Ledger → Prop
  | start {w : World} (global : w.global.cache = []) (others : w.others = [])
      (fresh : ∀ c ∈ w.closures, c.calls = 0) : Reached ⟨⟨w, []⟩, []⟩
  | step {l m : Ledger} : Reached l → Step l m → Reached m

/-- What the calls of one closure gave, in their order. -/
def valuesOf (l : Ledger) (k : Nat) : List Value :=
  (l.calls.filter fun call => call.closure == k).map Call.value

/-- The calls of each closure are as many as it counts, and gave what comes next each time. -/
structure Kept (l : Ledger) : Prop where
  known : ∀ call ∈ l.calls, call.closure < l.program.world.closures.length
  values : ∀ k c, l.program.world.closures[k]? = some c →
    l.valuesOf k = (List.range c.calls).map c.product.nth

variable {l m : Ledger}

/-- A default that is taken from a factory is one of its products. -/
theorem called_of_taken {w v : World} {d : Descriptor} {f : Factory} {x : Value}
    (starts : d.start? = some (.produced f)) (taken : w.defaultValue d = (some x, v)) :
    w.produce f = (x, v) := by
  rw [w.defaultValue_produced starts] at taken
  obtain ⟨hx, hv⟩ := Prod.mk.inj taken
  exact Prod.ext (Option.some.inj hx) hv

theorem Kept.of_closures (h : l.Kept) {q : Program}
    (hq : q.world.closures = l.program.world.closures) : Kept ⟨q, l.calls⟩ :=
  ⟨by rw [hq]; exact h.known, by rw [hq]; exact h.values⟩

theorem Kept.factory (h : l.Kept) (name : String) (product : Product) :
    Kept ⟨⟨(l.program.world.newFactory name product).2, l.program.classes⟩, l.calls⟩ := by
  have hclosures : (l.program.world.newFactory name product).2.closures =
      l.program.world.closures ++ [.new product] := rfl
  constructor
  · intro call hcall
    have := h.known call hcall
    simp only [hclosures, List.length_append, List.length_singleton]
    omega
  · intro k c hk
    simp only [hclosures] at hk
    rcases Nat.lt_trichotomy k l.program.world.closures.length with hlt | rfl | hgt
    · rw [List.getElem?_append_left hlt] at hk
      exact h.values k c hk
    · -- The new closure has not been called.
      rw [List.getElem?_concat_length] at hk
      obtain rfl := Option.some.inj hk
      have hnone : (l.calls.filter fun call => call.closure == l.program.world.closures.length) = [] := by
        rw [List.filter_eq_nil_iff]
        intro call hcall
        have := h.known call hcall
        simp only [beq_iff_eq]
        omega
      simp [valuesOf, hnone, Closure.new]
    · rw [List.getElem?_eq_none (by simp; omega)] at hk
      cases hk

theorem Kept.call (h : l.Kept) {f : Factory} {v : Value} {w : World}
    (known : f.closure < l.program.world.closures.length)
    (produced : l.program.world.produce f = (v, w)) :
    Kept ⟨⟨w, l.program.classes⟩, l.calls ++ [⟨f.closure, v⟩]⟩ := by
  have hget : l.program.world.closures[f.closure]? = some l.program.world.closures[f.closure] :=
    List.getElem?_eq_getElem known
  rw [World.produce_eq _ hget] at produced
  obtain ⟨rfl, rfl⟩ := Prod.mk.inj produced
  constructor
  · intro call hcall
    simp only [List.length_set]
    rcases List.mem_append.mp hcall with hcall | hcall
    · exact h.known call hcall
    · obtain rfl := List.mem_singleton.mp hcall
      exact known
  · intro k c hk
    simp only [List.getElem?_set] at hk
    unfold valuesOf
    simp only [List.filter_append, List.map_append]
    by_cases hkf : f.closure = k
    · subst hkf
      rw [if_pos rfl, if_pos known] at hk
      obtain rfl := Option.some.inj hk
      rw [← valuesOf, h.values _ _ hget, Closure.called, List.range_succ, List.map_append]
      simp [Product.nth]
    · rw [if_neg hkf] at hk
      rw [← valuesOf, h.values k c hk]
      simp [hkf]

theorem step_of_produce {p : Program} {f : Factory} {v : Value} {w : World}
    (produced : p.world.produce f = (v, w)) : p.Step ⟨w, p.classes⟩ := by
  obtain ⟨hsame, hnext⟩ := p.world.produce_same f
  rw [produced] at hsame hnext
  exact .done (.other hsame (Nat.le_of_eq (congrArg ClassId.number hnext).symm))

theorem Step.program (h : l.Step m) : l.program.Step m.program := by
  cases h with
  | quiet hq => exact hq.step
  | factory => exact .done (.other ⟨rfl, rfl⟩ (Nat.le_refl _))
  | produce _ produced => exact step_of_produce produced
  | default starts _ taken => exact step_of_produce (called_of_taken starts taken)

theorem Kept.step (h : l.Kept) (hstep : l.Step m) : m.Kept := by
  cases hstep with
  | quiet hq => exact h.of_closures hq.closures
  | factory name product => exact h.factory name product
  | produce known produced => exact h.call known produced
  | default starts known taken => exact h.call known (called_of_taken starts taken)

theorem Reached.kept (hl : l.Reached) : l.Kept := by
  induction hl with
  | start _ _ fresh =>
    refine ⟨by simp, ?_⟩
    intro k c hk
    rw [fresh c (List.mem_of_getElem? hk)]
    rfl
  | step _ hstep ih => exact ih.step hstep

theorem Reached.program (hl : l.Reached) : l.program.Reached := by
  induction hl with
  | start global others => exact .start global others
  | step _ hstep ih => exact ih.step hstep.program

end Ledger

/-! ## The run as a whole -/

/-- Nothing but a call changes a closure. Whatever is seen of a field keeps the factory that its
declaration names, so that all handles go to one closure, and the values that were obtained through
any of them are what this closure gives at its calls in turn: from a counter, one number after the
other. A declared value is given out as it is. -/
theorem factories_shared_and_lazy {l : Ledger} (hl : l.Reached) :
    (∀ q, l.program.Quiet q → q.world.closures = l.program.world.closures) ∧
    (∀ c ∈ l.program.classes, l.program.SharesSlots c) ∧
    (∀ k c, l.program.world.closures[k]? = some c →
      l.valuesOf k = (List.range c.calls).map c.product.nth ∧
      ∀ (first : Int) (i : Nat), c.product = .counter first → i < c.calls → -2 ^ 63 ≤ first + i →
        first + i < 2 ^ 63 → (l.valuesOf k)[i]? = some (.ofScalar (.int .i64 (first + i)))) ∧
    ∀ d : Descriptor,
      (d.default.isMissing = false →
        l.program.world.defaultValue d = (some d.default, l.program.world)) ∧
      ∀ f, d.default.isMissing = true → d.factory? = some f →
        l.program.world.defaultValue d = (l.program.world.produce f).map some id := by
  refine ⟨fun q hq => hq.closures, hl.program.sharesSlots, ?_, ?_⟩
  · intro k c hk
    have hvalues := hl.kept.values k c hk
    refine ⟨hvalues, ?_⟩
    intro first i hproduct hi hlow hhigh
    rw [hvalues, List.getElem?_map, List.getElem?_range hi, hproduct, Option.map_some,
      Product.nth_counter hlow hhigh]
  · intro d
    refine ⟨fun h => l.program.world.defaultValue_stored h, ?_⟩
    intro f hmissing hf
    apply World.defaultValue_produced
    rw [Descriptor.start?, if_pos hmissing, hf]
    rfl

/-! ## One factory on both kinds of class -/

namespace Numbered

def ids : Factory := ⟨"ids", 0⟩

def key : StructField := { StructField.plain "key" (.resolved "i64") with factory := some ids }

def base : StructClass := ⟨⟨1⟩, "Base", [], [key], [], false, .ofFields 1 [key], [], false⟩

/-- Declares nothing. -/
def next : StructClass := ⟨⟨2⟩, "Next", [base], [], [], false, .ofFields 1 [key], [], false⟩

def slot : FieldSpec :=
  { FieldSpec.plain .noDefault "key" (.resolved "i64") with factory := .ofScalar (.factory ids) }

def row : RecordClass := ⟨⟨3⟩, "Row", [], [], [slot], [slot], .named "Row"⟩

/-- What is said of the field, whichever class it is seen on. -/
def described : Descriptor := slot.settled.descriptor

def classes : List ClassObject := [.record row, .struct next, .struct base]

theorem lasting_unset : Value.unset.Lasting := Or.inl (Value.held_ofMarker .unset)

theorem lasting_slot : slot.Lasting :=
  ⟨Or.inl (Value.held_ofMarker .noDefault), Or.inr rfl, by simp [slot, FieldSpec.plain]⟩

/-- The default of the inherited field, a product of the factory itself, and after its list has been
dropped and made anew the default of the record's field. -/
theorem reached : ∃ w values, Ledger.Reached ⟨⟨w, classes⟩, values⟩ ∧
    w.closures = [⟨.counter 5, 3⟩] ∧ extractFields (.record row) = .ok [described] ∧
    ∃ list, w.cached? none (.struct next) = some list ∧ list.fields = [described] := by
  have h₀ : Ledger.Reached ⟨⟨.start ⟨1⟩ 0 [], []⟩, []⟩ := .start rfl rfl (by simp [World.start])
  have h₁ := h₀.step (.factory "ids" (.counter 5))
  have h₂ := h₁.step (.quiet (.made (.struct (d := ⟨"Base", [], [key], [], false, false⟩) (c := base)
    (by simp) (by simpa [key, StructField.plain] using lasting_unset) (by simp) rfl)))
  have h₃ := h₂.step (.quiet (.made (.struct (d := ⟨"Next", [base], [], [], false, false⟩) (c := next)
    (by simp) (by simp) (by simp) rfl)))
  have h₄ := h₃.step (.quiet (.made (.record (d := ⟨"Row", [], [slot], none⟩) (c := row) (by simp)
    (by simpa using lasting_slot) rfl)))
  have h₅ := h₄.step (.quiet (.getFields none (c := .struct next) (by simp)))
  have h₆ := h₅.step (.default (d := described) (f := ids) rfl (by decide) rfl)
  have h₇ := h₆.step (.produce (f := ids) (by decide) rfl)
  have h₈ := h₇.step (.quiet (.forget none (c := .struct next) (by simp)))
  have h₉ := h₈.step (.quiet (.getFields none (c := .struct next) (by simp)))
  have h₁₀ := h₉.step (.default (d := described) (f := ids) rfl (by decide) rfl)
  exact ⟨_, _, h₁₀, rfl, rfl, _, rfl, rfl⟩

end Numbered

open Numbered in
/-- The kept list of the class below holds the factory of the base, and three calls through three
handles gave three numbers in a row. -/
theorem factories_shared_and_lazy_numbered : ∃ l list, Ledger.Reached l ∧
    l.program.classes = classes ∧ extractFields (.record row) = .ok [described] ∧
    l.program.world.cached? none (.struct next) = some list ∧ list.fields = [described] ∧
    (list.fields.map fun d => (d.name, d.slots)) = [("key", ⟨.missing, some ids⟩)] ∧
    (l.valuesOf 0).length = 3 ∧ (l.valuesOf 0)[0]? = some (.ofScalar (.int .i64 5)) ∧
    (l.valuesOf 0)[1]? = some (.ofScalar (.int .i64 6)) ∧
    (l.valuesOf 0)[2]? = some (.ofScalar (.int .i64 7)) := by
  obtain ⟨w, calls, hl, hclosures, hrow, list, hlist, hfields⟩ := reached
  obtain ⟨-, hshares, hvalues, -⟩ := factories_shared_and_lazy hl
  have hshares := hshares (.struct next) (by simp [classes])
  obtain ⟨hall, hcounter⟩ := hvalues 0 ⟨.counter 5, 3⟩ (by simp only [hclosures]; rfl)
  refine ⟨_, list, hl, rfl, hrow, hlist, hfields, hshares.kept none list hlist, by rw [hall]; rfl,
    ?_, ?_, ?_⟩
  · exact hcounter 5 0 rfl (by decide) (by decide) (by decide)
  · exact hcounter 5 1 rfl (by decide) (by decide) (by decide)
  · exact hcounter 5 2 rfl (by decide) (by decide) (by decide)

end FieldAtlas
