import FieldAtlas.Proofs.Same
import FieldAtlas.Proofs.Struct.Reference
import FieldAtlas.Proofs.Value.Origin

/-!
# Descriptors that equal themselves

Wherever a field comes from, its descriptor equals a second one that is made of it, if the values
that the classes of the hierarchy declare are lasting. What extraction itself puts in, be it a
wrapped factory or an encoded name, is new each time and equal by its contents.
-/

namespace FieldAtlas

/-! ## Declared values -/

structure FieldSpec.Lasting (f : FieldSpec) : Prop where
  default : f.default.Lasting
  factory : f.factory.Lasting
  metadata : ∀ e ∈ f.metadata, e.2.Lasting

def FieldOverride.Lasting (o : FieldOverride) : Prop := ∀ e ∈ o.metadata, e.2.Lasting

def RecordClass.Lasting (c : RecordClass) : Prop := ∀ f ∈ c.own, f.Lasting

structure StructClass.Lasting (c : StructClass) : Prop where
  default : ∀ f ∈ c.own, f.default.Lasting
  override : ∀ e ∈ c.ownOverrides, e.2.Lasting

theorem FieldSpec.Lasting.over {f : FieldSpec} (h : f.Lasting) :
    f.Over fun v => v.same v = true :=
  FieldSpec.over_iff.mpr
    ⟨h.default.same_self, h.factory.same_self, fun e he => (h.metadata e he).same_self⟩

theorem Value.Added.same_self {v : Value} (h : v.Added) : v.same v = true := by
  cases h with
  | marker m => exact Value.same_self (held_ofMarker m)
  | factory f => simp [ofScalar, same, Scalar.same, Factory.same]
  | defaultFactory f => simp [ofScalar, same, Scalar.same, Factory.same]
  | name s => simp [ofScalar, same, Scalar.same]

theorem Descriptor.Over.same_self {d : Descriptor} (h : d.Over fun v => v.same v = true) :
    d.same d = true := by
  obtain ⟨hdefault, hfactory, hmetadata⟩ := FieldSpec.over_iff.mp h
  exact Descriptor.same_self hdefault hfactory hmetadata

/-! ## Every stock -/

namespace Stock

variable {s : Stock} {P : Value → Prop}

theorem Reached.over_records (hs : s.Reached) (hown : ∀ a ∈ s.records, ∀ f ∈ a.own, f.Over P) :
    ∀ c ∈ s.records, c.Over P := by
  intro c hc a ha f hf
  obtain ⟨b, hb, hfb⟩ := hs.exists_own (hs.mem_of_mem_mro c hc a ha) hf
  exact hown b hb f hfb

theorem Reached.over_structs (hs : s.Reached) (added : ∀ v : Value, v.Added → P v)
    (hdefault : ∀ a ∈ s.structs, ∀ f ∈ a.own, P f.default)
    (hoverride : ∀ a ∈ s.structs, ∀ e ∈ a.ownOverrides, e.2.Over P) :
    ∀ c ∈ s.structs, c.Over P := by
  apply hs.structs_induction (P := fun c => c.Over P)
  intro c hc ih
  obtain ⟨d, hbuilt, _⟩ := hs.exists_structBuilt c hc
  refine hbuilt.over added ?_ ?_ ?_
  · exact hbuilt.bases_eq ▸ ih
  · exact hbuilt.own_eq ▸ hdefault c hc
  · exact hbuilt.ownOverrides_eq ▸ hoverride c hc

theorem Reached.same_over_records (hs : s.Reached) (hlasting : ∀ a ∈ s.records, a.Lasting) :
    ∀ c ∈ s.records, c.Over fun v => v.same v = true :=
  hs.over_records fun a ha f hf => (hlasting a ha f hf).over

theorem Reached.same_over_structs (hs : s.Reached) (hlasting : ∀ a ∈ s.structs, a.Lasting) :
    ∀ c ∈ s.structs, c.Over fun v => v.same v = true := by
  refine hs.over_structs (fun _ => Value.Added.same_self) ?_ ?_
  · exact fun a ha f hf => ((hlasting a ha).default f hf).same_self
  · exact fun a ha e he x hx => ((hlasting a ha).override e he x hx).same_self

end Stock

end FieldAtlas
