import FieldAtlas.Proofs.Declaration.Code
import FieldAtlas.Proofs.Declaration.Plan

/-!
# Written calls, carried out

A plan is written as calls of methods, and it is carried out call by call. Both come to the same:
the builders of fields and overrides, given the methods that are written, end in what the plan says.
-/

namespace FieldAtlas

open FieldAtlas.Source

/-! ## Methods -/

namespace BuilderCall

/-- Fields of records have no other names. -/
def onRecord : BuilderCall → Bool
  | rename _ => false
  | _ => true

/-- Fields of structs have neither flags nor metadata. -/
def onStruct : BuilderCall → Bool
  | default _ | factory _ | rename _ | kwOnly => true
  | _ => false

/-- Overrides have nothing else. -/
def onOverride : BuilderCall → Bool
  | repr _ | compare _ | init _ | hash _ | metadata _ _ => true
  | _ => false

end BuilderCall

/-- What a method is called with. -/
inductive Argument where
  | flag (b : Bool)
  | value (v : Value)
  | factory (f : Factory)
  | text (s : String)
  | entry (key : String) (v : Value)

/-- The methods of the builder for a field of a record. -/
def FieldSpec.method? (s : FieldSpec) : String → Argument → Option FieldSpec
  | "with_default_value", .value v => some { s with default := v }
  | "with_factory", .factory f => some { s with factory := .ofScalar (.factory f) }
  | "repr", .flag b => some { s with repr := b }
  | "compare", .flag b => some { s with compare := b }
  | "init", .flag b => some { s with init := b }
  | "hash", .flag b => some { s with hash := some b }
  | "kw_only", .flag b => some { s with kwOnly := b }
  | "metadata", .entry key v => some { s with metadata := s.metadata.insert key v }
  | _, _ => none

/-- The methods of the builder for a field of a struct. -/
def StructField.method? (f : StructField) : String → Argument → Option StructField
  | "with_default_value", .value v => some { f with default := v }
  | "with_factory", .factory g => some { f with factory := some g }
  | "rename", .text name => some { f with rename := some name }
  | "kw_only", .flag b => some { f with kwOnly := b }
  | _, _ => none

/-- The methods of the builder for an override. -/
def FieldOverride.method? (o : FieldOverride) : String → Argument → Option FieldOverride
  | "repr", .flag b => some { o with repr := some b }
  | "compare", .flag b => some { o with compare := some b }
  | "init", .flag b => some { o with init := some b }
  | "hash", .flag b => some { o with hash := some b }
  | "metadata", .entry key v => some { o with metadata := o.metadata.insert key v }
  | _, _ => none

namespace Code

section

variable (m : Meaning) (p : FieldPlan)

/-- What the code of an argument stands for. -/
inductive Means (type : List String) : List String → Argument → Prop
  | flag (b : Bool) : Means type (truth b) (.flag b)
  | default (d : DefaultCode) : Means type (Code.default type d) (.value (m.default p d))
  | factory (f : FactoryCode) : Means type (Code.factory type f) (.factory (m.factory p f))
  | text (s : String) : Means type (quoted s) (.text s)
  | entry (key : String) {r : Remark} {code : List String} {v : Value}
      (written : remark r = some code) (value : r.value? = some v) :
      Means type (quoted key ++ [","] ++ code) (.entry key v)

variable {σ : Type} (method? : σ → String → Argument → Option σ)

/-- The written calls take a builder from one state to another. -/
inductive Runs (type : List String) : List String → σ → σ → Prop
  | nil {s : σ} : Runs type [] s s
  | call {name : String} {code rest : List String} {argument : Argument} {s t u : σ} :
      Means m p type code argument → method? s name argument = some t → Runs type rest t u →
      Runs type (Code.call name code ++ rest) s u

/-- What is written for a call does what the call does. -/
def Carries (type : List String) (call : BuilderCall) (s t : σ) : Prop :=
  ∃ name code argument, builderCall type call = some (Code.call name code) ∧
    Means m p type code argument ∧ method? s name argument = some t

variable {m p method?}

theorem runs_of_carries {type : List String} {step : σ → BuilderCall → σ}
    {calls : List BuilderCall}
    (h : ∀ s, ∀ c ∈ calls, Carries m p method? type c s (step s c)) (s : σ) :
    ∃ code, each (builderCall type) calls = some code ∧
      Runs m p method? type code s (calls.foldl step s) := by
  induction calls generalizing s with
  | nil => exact ⟨[], rfl, .nil⟩
  | cons c calls ih =>
    obtain ⟨name, code, argument, hwritten, hmeans, hcalled⟩ := h s c List.mem_cons_self
    obtain ⟨rest, hrest, hruns⟩ := ih (fun s d hd => h s d (List.mem_cons_of_mem c hd)) (step s c)
    refine ⟨Code.call name code ++ rest, ?_, .call hmeans hcalled hruns⟩
    rw [each_cons, hwritten, hrest]
    rfl

/-! ## Single calls -/

variable {type : List String}

variable (m p type) in
theorem means_entry {r : Remark} (hvalue : r.value?.isSome = true) (key : String) (d : Metadata) :
    ∃ code v, builderCall type (.metadata key r) = some (Code.call "metadata" code) ∧
      Means m p type code (.entry key v) ∧ r.addTo key d = d.insert key v := by
  obtain ⟨v, hv⟩ := Option.isSome_iff_exists.mp hvalue
  obtain ⟨content, hwritten⟩ := remark_of_value? hv
  refine ⟨_, v, ?_, .entry key hwritten hv, ?_⟩
  · rw [builderCall, hwritten]
    rfl
  · rw [Remark.addTo, hv]

theorem carries_onSpec {c : BuilderCall} (hc : c.onRecord = true)
    (hvalue : ∀ r ∈ c.remark?, r.value?.isSome = true) (s : FieldSpec) :
    Carries m p FieldSpec.method? type c s (p.onSpec m s c) := by
  cases c with
  | default d => exact ⟨_, _, _, rfl, .default d, rfl⟩
  | factory f => exact ⟨_, _, _, rfl, .factory f, rfl⟩
  | rename n => cases hc
  | repr b => exact ⟨_, _, _, rfl, .flag b, rfl⟩
  | compare b => exact ⟨_, _, _, rfl, .flag b, rfl⟩
  | init b => exact ⟨_, _, _, rfl, .flag b, rfl⟩
  | hash b => exact ⟨_, _, _, rfl, .flag b, rfl⟩
  | kwOnly => exact ⟨_, _, _, rfl, .flag true, rfl⟩
  | metadata key r =>
    obtain ⟨code, v, hwritten, hmeans, hadd⟩ :=
      means_entry m p type (hvalue r rfl) key s.metadata
    refine ⟨_, _, _, hwritten, hmeans, ?_⟩
    rw [FieldPlan.onSpec, hadd]
    rfl

theorem carries_onStructField {c : BuilderCall} (hc : c.onStruct = true) (f : StructField) :
    Carries m p StructField.method? type c f (p.onStructField m f c) := by
  cases c with
  | default d => exact ⟨_, _, _, rfl, .default d, rfl⟩
  | factory f => exact ⟨_, _, _, rfl, .factory f, rfl⟩
  | rename n => exact ⟨_, _, _, rfl, .text n, rfl⟩
  | kwOnly => exact ⟨_, _, _, rfl, .flag true, rfl⟩
  | _ => cases hc

theorem carries_after {c : BuilderCall} (hc : c.onOverride = true)
    (hvalue : ∀ r ∈ c.remark?, r.value?.isSome = true) (o : FieldOverride) :
    Carries m p FieldOverride.method? type c o (o.after c) := by
  cases c with
  | repr b => exact ⟨_, _, _, rfl, .flag b, rfl⟩
  | compare b => exact ⟨_, _, _, rfl, .flag b, rfl⟩
  | init b => exact ⟨_, _, _, rfl, .flag b, rfl⟩
  | hash b => exact ⟨_, _, _, rfl, .flag b, rfl⟩
  | metadata key r =>
    obtain ⟨code, v, hwritten, hmeans, hadd⟩ :=
      means_entry m p type (hvalue r rfl) key o.metadata
    refine ⟨_, _, _, hwritten, hmeans, ?_⟩
    rw [FieldOverride.after, hadd]
    rfl
  | _ => cases hc

end

end Code

/-! ## Whole fields -/

namespace DeclaredField

variable {f : DeclaredField} {c : BuilderCall}

theorem onRecord_of_mem_calls (h : c ∈ f.calls .record) : c.onRecord = true := by
  simp only [calls, slotCalls, flagCalls, keywordCalls, metadataCalls, List.mem_append,
    Option.mem_toList, Option.map_eq_some_iff, List.mem_map, List.mem_ite_nil_right,
    List.mem_singleton] at h
  rcases h with (((⟨_, _, rfl⟩ | ⟨_, _, rfl⟩) |
    ((⟨_, _, rfl⟩ | ⟨_, _, rfl⟩) | ⟨_, _, rfl⟩) | ⟨_, _, rfl⟩) | ⟨_, rfl⟩) | ⟨_, _, rfl⟩ <;> rfl

theorem onStruct_of_mem_calls (h : c ∈ f.calls .compact) : c.onStruct = true := by
  simp only [calls, slotCalls, keywordCalls, List.mem_append, Option.mem_toList,
    Option.map_eq_some_iff, List.mem_ite_nil_right, List.mem_singleton] at h
  rcases h with ((⟨_, _, rfl⟩ | ⟨_, _, rfl⟩) | ⟨_, _, rfl⟩) | ⟨_, rfl⟩ <;> rfl

theorem onOverride_of_mem_overrideCalls (h : c ∈ f.overrideCalls) : c.onOverride = true := by
  simp only [overrideCalls, flagCalls, metadataCalls, List.mem_append, Option.mem_toList,
    Option.map_eq_some_iff, List.mem_map] at h
  rcases h with (((⟨_, _, rfl⟩ | ⟨_, _, rfl⟩) | ⟨_, _, rfl⟩) | ⟨_, _, rfl⟩) | ⟨_, _, rfl⟩ <;> rfl

theorem isSome_value?_of_mem {calls : List BuilderCall}
    (hcalls : calls.filterMap BuilderCall.remark? = f.metadata.map Prod.snd)
    (hvalues : ∀ e ∈ f.metadata, e.2.value?.isSome = true) (hc : c ∈ calls) :
    ∀ r ∈ c.remark?, r.value?.isSome = true := by
  intro r hr
  have hmem : r ∈ f.metadata.map Prod.snd := hcalls ▸ List.mem_filterMap.mpr ⟨c, hc, hr⟩
  obtain ⟨e, he, rfl⟩ := List.mem_map.mp hmem
  exact hvalues e he

variable (m : Meaning) (i : Nat)

theorem runs_spec (hvalues : ∀ e ∈ f.metadata, e.2.value?.isSome = true) (builder : String) :
    ∃ calls, Code.field builder (f.plan .record i) =
        some (Code.plainField builder (f.plan .record i) ++ calls) ∧
      Code.Runs m (f.plan .record i) FieldSpec.method? (Token.textsOf f.type) calls
        (.plain .noDefault f.name ((f.plan .record i).typeRef m)) ((f.plan .record i).spec m) := by
  obtain ⟨calls, hcalls, hruns⟩ := Code.runs_of_carries (fun s _ hc => Code.carries_onSpec
    (onRecord_of_mem_calls hc) (isSome_value?_of_mem f.remarks_record hvalues hc) s) _
  refine ⟨calls, ?_, hruns⟩
  rw [Code.field]
  exact congrArg (Option.bind · _) hcalls

theorem runs_structField (builder : String) :
    ∃ calls, Code.field builder (f.plan .compact i) =
        some (Code.plainField builder (f.plan .compact i) ++ calls) ∧
      Code.Runs m (f.plan .compact i) StructField.method? (Token.textsOf f.type) calls
        (.plain f.name ((f.plan .compact i).typeRef m)) ((f.plan .compact i).structField m) := by
  obtain ⟨calls, hcalls, hruns⟩ := Code.runs_of_carries
    (fun g _ hc => Code.carries_onStructField (onStruct_of_mem_calls hc) g) _
  refine ⟨calls, ?_, hruns⟩
  rw [Code.field]
  exact congrArg (Option.bind · _) hcalls

theorem runs_ofCalls (hvalues : ∀ e ∈ f.metadata, e.2.value?.isSome = true) :
    ∃ calls, Code.override (f.name, f.overrideCalls) =
        some (Code.call "override_field" (Code.plainOverride f.name ++ calls)) ∧
      Code.Runs m (f.plan .compact i) FieldOverride.method? [] calls .empty
        (.ofCalls f.overrideCalls) := by
  obtain ⟨calls, hcalls, hruns⟩ := Code.runs_of_carries (fun o _ hc => Code.carries_after
    (onOverride_of_mem_overrideCalls hc) (isSome_value?_of_mem f.remarks_overrideCalls hvalues hc)
    o) _
  refine ⟨calls, ?_, hruns⟩
  rw [Code.override]
  exact congrArg (Option.bind · _) hcalls

end DeclaredField

/-! ## The code of a class -/

namespace DeclaredClass

variable {c : DeclaredClass} (hvalues : ∀ f ∈ c.fields, ∀ e ∈ f.metadata, e.2.value?.isSome = true)
  {code : List String} (hcode : c.code? = some code) (m : Meaning) {i : Nat} {f : DeclaredField}
  (hf : c.fields[i]? = some f)
include hvalues hcode hf

/-- In the code of a record stand calls that make each field what the plan says. -/
theorem code_runs_record (hkind : c.kind = .record) :
    ∃ calls, Code.call "field"
        (Code.plainField (Code.spelling .record).field (f.plan .record i) ++ calls) <:+: code ∧
      Code.Runs m (f.plan .record i) FieldSpec.method? (Token.textsOf f.type) calls
        (.plain .noDefault f.name ((f.plan .record i).typeRef m)) ((f.plan .record i).spec m) := by
  have hplan : c.plan.kind = .record := hkind
  obtain ⟨written, hwritten, hinfix⟩ :=
    Code.exists_infix_fieldCall hcode (mem_fields_plan.mpr ⟨i, f, hf, rfl⟩)
  rw [hplan, hkind] at hwritten
  obtain ⟨calls, hcalls, hruns⟩ := DeclaredField.runs_spec m i (hvalues f (List.mem_of_getElem? hf))
    (Code.spelling .record).field
  rw [Code.fieldCall, hcalls] at hwritten
  obtain rfl := Option.some.inj hwritten
  exact ⟨calls, hinfix, hruns⟩

/-- In the code of a struct, calls on each field and on its override, which is left out if it says
nothing. -/
theorem code_runs_struct (hkind : c.kind = .compact) :
    (∃ calls, Code.call "field"
        (Code.plainField (Code.spelling .compact).field (f.plan .compact i) ++ calls) <:+: code ∧
      Code.Runs m (f.plan .compact i) StructField.method? (Token.textsOf f.type) calls
        (.plain f.name ((f.plan .compact i).typeRef m)) ((f.plan .compact i).structField m)) ∧
    (f.overrideCalls ≠ [] → ∃ calls,
      Code.call "override_field" (Code.plainOverride f.name ++ calls) <:+: code ∧
      Code.Runs m (f.plan .compact i) FieldOverride.method? [] calls .empty
        (.ofCalls f.overrideCalls)) := by
  have hplan : c.plan.kind = .compact := hkind
  constructor
  · obtain ⟨written, hwritten, hinfix⟩ :=
      Code.exists_infix_fieldCall hcode (mem_fields_plan.mpr ⟨i, f, hf, rfl⟩)
    rw [hplan, hkind] at hwritten
    obtain ⟨calls, hcalls, hruns⟩ :=
      DeclaredField.runs_structField m i (Code.spelling .compact).field
    rw [Code.fieldCall, hcalls] at hwritten
    obtain rfl := Option.some.inj hwritten
    exact ⟨calls, hinfix, hruns⟩
  · intro hsays
    have hmem : (f.name, f.overrideCalls) ∈ c.plan.overrides := by
      rw [overrides_plan, overrides_compact hkind]
      refine List.mem_filter.mpr ⟨List.mem_map_of_mem (List.mem_of_getElem? hf), ?_⟩
      simpa using hsays
    obtain ⟨written, hwritten, hinfix⟩ := Code.exists_infix_override hcode hplan hmem
    obtain ⟨calls, hcalls, hruns⟩ :=
      DeclaredField.runs_ofCalls m i (hvalues f (List.mem_of_getElem? hf))
    rw [hcalls] at hwritten
    obtain rfl := Option.some.inj hwritten
    exact ⟨calls, hinfix, hruns⟩

end DeclaredClass

end FieldAtlas
