import FieldAtlas.Proofs.Dict
import FieldAtlas.Proofs.First
import FieldAtlas.Proofs.Stock
import FieldAtlas.Proofs.Struct.Layout
import FieldAtlas.Proofs.Table

/-!
# What a struct class inherits

A struct class takes the declaration of an inherited field from the first of its bases that has the
field, and the override from the first that has an override for it. These need not be one base.
-/

namespace FieldAtlas

namespace StructClass

/-- What the class reports of a field, whichever markers it uses. -/
def field? (c : StructClass) (n : String) : Option FieldInfo :=
  (c.infos.map FieldInfo.settled).find? fun f => f.name == n

/-- The fields that the class declares itself, by keyword only if the whole class says so. -/
def ownFields (c : StructClass) : List StructField :=
  c.own.map fun f => { f with kwOnly := f.kwOnly || c.ownKwOnly }

/-- The walk that ends at the class which a field comes from: at each class that does not declare
the field it goes to the first base that has it. -/
inductive Supplies : StructClass → String → StructClass → Prop
  | own {c : StructClass} {n : String} : n ∈ c.own.map StructField.name → Supplies c n c
  | base {c b p : StructClass} {n : String} : n ∉ c.own.map StructField.name →
      (c.bases.find? fun b => n ∈ b.layout.names) = some b → Supplies b n p → Supplies c n p

theorem map_settled_declarations (c : StructClass) :
    (c.layout.declarations.map fun f => f.info.settled) = c.infos.map FieldInfo.settled := by
  rw [infos, ← Layout.map_info_declarations, List.map_map]
  rfl

end StructClass

/-! ## One build -/

namespace StructDecl

theorem nodup_declared (d : StructDecl) : (d.declared.map StructField.name).Nodup :=
  Table.nodup_putAll _ (Table.nodup_foldl_putAll _ _ (by simp)) _

def ordered (d : StructDecl) : List StructField :=
  (d.declared.filter fun f => !f.kwOnly) ++ d.declared.filter fun f => f.kwOnly

theorem declared_perm_ordered (d : StructDecl) : d.declared.Perm d.ordered := by
  have h := List.filter_append_perm (fun f : StructField => !f.kwOnly) d.declared
  simp only [Bool.not_not] at h
  exact h.symm

theorem ordered_eq_declared {d : StructDecl} (h : ∀ f ∈ d.declared, f.kwOnly = false) :
    d.ordered = d.declared := by
  have hpos : (d.declared.filter fun f => !f.kwOnly) = d.declared := by
    rw [List.filter_eq_self]
    intro f hf
    simp [h f hf]
  have hkey : (d.declared.filter fun f => f.kwOnly) = [] := by
    rw [List.filter_eq_nil_iff]
    intro f hf
    simp [h f hf]
  rw [ordered, hpos, hkey, List.append_nil]

def layout (d : StructDecl) : Layout :=
  .ofFields (d.declared.filter fun f => !f.kwOnly).length d.ordered

theorem settled_infos_layout (d : StructDecl) :
    d.layout.infos.map FieldInfo.settled = d.ordered.map fun f => f.info.settled := by
  apply Layout.settled_infos_ofFields_append
  · intro f hf
    simpa using (List.mem_filter.mp hf).2
  · intro f hf
    simpa using (List.mem_filter.mp hf).2

variable {d : StructDecl} {c : StructClass}

theorem Built.layout_eq (h : d.Built c) : c.layout = d.layout := h.layout

theorem Built.names_eq (h : d.Built c) : c.layout.names = d.ordered.map StructField.name := by
  rw [h.layout_eq]
  rfl

theorem Built.settled_infos (h : d.Built c) :
    c.infos.map FieldInfo.settled = d.ordered.map fun f => f.info.settled := by
  rw [StructClass.infos, h.layout_eq, d.settled_infos_layout]

theorem Built.names_declarations (h : d.Built c) :
    c.layout.declarations.map StructField.name = c.layout.names := by
  have hinfo : c.infos.map FieldInfo.name = (c.infos.map FieldInfo.settled).map FieldInfo.name := by
    rw [List.map_map]
    rfl
  rw [h.names_eq, Layout.declarations, List.map_map]
  change c.infos.map FieldInfo.name = _
  rw [hinfo, h.settled_infos, List.map_map]
  rfl

theorem Built.nodup_declarations (h : d.Built c) :
    (c.layout.declarations.map StructField.name).Nodup := by
  rw [h.names_declarations, h.names_eq]
  exact (d.declared_perm_ordered.map StructField.name).nodup_iff.mp d.nodup_declared

theorem Built.field?_eq_declared (h : d.Built c) (n : String) :
    c.field? n = (d.declared.find? fun f => f.name == n).map fun f => f.info.settled := by
  rw [Table.find?_of_perm StructField.name d.nodup_declared d.declared_perm_ordered,
    StructClass.field?, h.settled_infos, List.find?_map]
  rfl

theorem Built.mem_names_iff (h : d.Built c) (n : String) :
    n ∈ c.layout.names ↔ (c.field? n).isSome := by
  rw [h.names_eq, ← Table.isSome_find?_iff, StructClass.field?, h.settled_infos, List.find?_map,
    Option.isSome_map]
  rfl

theorem ownFault?_eq_none (h : d.ownError? = none) :
    Table.ownFault? StructField.name StructField.hasBoth [] d.fields = none := by
  unfold ownError? at h
  split at h
  · assumption
  · simp at h
  · simp at h

theorem nodup_own (h : d.ownError? = none) : (d.fields.map StructField.name).Nodup :=
  ((Table.ownFault?_eq_none_iff _ _ _ _).mp (ownFault?_eq_none h)).2.1

theorem Built.ownFields_eq (h : d.Built c) : c.ownFields = d.fields.map d.ownField := by
  rw [StructClass.ownFields, h.own_eq, h.ownKwOnly_eq]
  rfl

theorem Built.nodup_ownFields (h : d.Built c) : (c.ownFields.map StructField.name).Nodup := by
  rw [h.ownFields_eq, List.map_map]
  exact nodup_own h.sound

theorem Built.hasBoth_ownFields (h : d.Built c) : ∀ f ∈ c.ownFields, f.hasBoth = false := by
  rw [h.ownFields_eq, List.forall_mem_map]
  exact ((Table.ownFault?_eq_none_iff _ _ _ _).mp (ownFault?_eq_none h.sound)).2.2

theorem field?_eq_declarations (b : StructClass) (n : String) :
    (b.layout.declarations.find? fun f => f.name == n).map (fun f => f.info.settled) =
      b.field? n := by
  rw [StructClass.field?, ← b.map_settled_declarations, List.find?_map]
  rfl

theorem Built.field?_eq (h : d.Built c)
    (hbases : ∀ b ∈ c.bases, (b.layout.declarations.map StructField.name).Nodup) (n : String) :
    c.field? n = ((c.ownFields.find? fun f => f.name == n).map
      fun f => f.info.settled).or (c.bases.findSome? fun b => b.field? n) := by
  have hown := h.nodup_ownFields
  rw [h.bases_eq] at hbases ⊢
  rw [h.ownFields_eq] at hown ⊢
  rw [h.field?_eq_declared, declared, Table.find?_putAll StructField.name hown,
    Table.find?_foldl_putAll StructField.name hbases, Option.map_or, List.map_findSome?]
  simp only [Function.comp_def, field?_eq_declarations]

/-! ## Overrides -/

theorem sorted_mergedOverrides (d : StructDecl) : Dict.Sorted d.mergedOverrides := by
  have hbases : ∀ (bs : List StructClass) (o : Dict FieldOverride), Dict.Sorted o →
      Dict.Sorted (bs.foldl (fun o b => Dict.extend o b.overrides) o) := by
    intro bs
    induction bs with
    | nil => exact fun _ ho => ho
    | cons b bs ih => exact fun o ho => ih _ (Dict.sorted_extend ho b.overrides)
  exact Dict.sorted_extend (Dict.sorted_foldl_erase _ _ (hbases _ [] Dict.sorted_nil)) d.overrides

theorem mem_mergedOverrides {d : StructDecl} {e : String × FieldOverride}
    (h : e ∈ d.mergedOverrides) : e ∈ d.overrides ∨ ∃ b ∈ d.bases, e ∈ b.overrides := by
  have hbases : ∀ (bs : List StructClass) (o : Dict FieldOverride),
      e ∈ bs.foldl (fun o b => Dict.extend o b.overrides) o → e ∈ o ∨ ∃ b ∈ bs, e ∈ b.overrides := by
    intro bs
    induction bs with
    | nil => exact fun _ he => Or.inl he
    | cons b bs ih =>
      intro o he
      rcases ih _ he with he | ⟨x, hx, hex⟩
      · exact (Dict.mem_extend he).symm.imp_right fun he => ⟨b, List.mem_cons_self, he⟩
      · exact Or.inr ⟨x, List.mem_cons_of_mem b hx, hex⟩
  rcases Dict.mem_extend h with h | h
  · exact Or.inl h
  · rcases hbases _ _ (Dict.mem_foldl_erase StructField.name h) with h | ⟨b, hb, he⟩
    · cases h
    · exact Or.inr ⟨b, List.mem_reverse.mp hb, he⟩

theorem get?_foldl_extend {bs : List StructClass} (hbs : ∀ b ∈ bs, b.overrides.keys.Nodup)
    (n : String) :
    (bs.reverse.foldl (fun o b => Dict.extend o b.overrides) []).get? n =
      bs.findSome? fun b => b.override? n := by
  induction bs with
  | nil => rfl
  | cons b bs ih =>
    rw [List.reverse_cons, List.foldl_append, List.foldl_cons, List.foldl_nil,
      Dict.get?_extend (hbs b List.mem_cons_self), ih fun x hx => hbs x (List.mem_cons_of_mem _ hx),
      List.findSome?_cons]
    change (b.override? n).or _ = _
    cases b.override? n <;> rfl

theorem Built.override?_eq (h : d.Built c) (hbases : ∀ b ∈ c.bases, b.overrides.keys.Nodup)
    {n : String} (hn : n ∉ c.ownOverrides.keys) :
    c.override? n = if n ∈ c.own.map StructField.name then none
      else c.bases.findSome? fun b => b.override? n := by
  rw [h.ownOverrides_eq] at hn
  rw [h.bases_eq] at hbases ⊢
  rw [StructClass.override?, h.overrides, mergedOverrides, Dict.get?_extend_of_not_mem hn,
    Dict.get?_foldl_erase, get?_foldl_extend hbases, h.own_eq]

end StructDecl

/-! ## Every stock -/

namespace Stock

variable {s : Stock} {c : StructClass}

theorem Reached.nodup_declarations (hs : s.Reached) (hc : c ∈ s.structs) :
    (c.layout.declarations.map StructField.name).Nodup := by
  obtain ⟨d, hbuilt, _⟩ := hs.exists_structBuilt c hc
  exact hbuilt.nodup_declarations

theorem Reached.nodup_infos (hs : s.Reached) (hc : c ∈ s.structs) :
    ((c.infos.map FieldInfo.settled).map FieldInfo.name).Nodup := by
  rw [← c.map_settled_declarations, List.map_map]
  exact hs.nodup_declarations hc

theorem Reached.declared_of_single (hs : s.Reached) (hc : c ∈ s.structs) {d : StructDecl}
    (hd : d.bases = [c]) : d.declared =
      Table.putAll StructField.name c.layout.declarations (d.fields.map d.ownField) := by
  rw [StructDecl.declared, hd, List.reverse_singleton, List.foldl_cons, List.foldl_nil,
    Table.putAll_nil_eq StructField.name (hs.nodup_declarations hc)]

theorem Reached.nodup_overrides (hs : s.Reached) (hc : c ∈ s.structs) :
    c.overrides.keys.Nodup := by
  obtain ⟨d, hbuilt, _⟩ := hs.exists_structBuilt c hc
  rw [hbuilt.overrides]
  exact Dict.nodup_keys d.sorted_mergedOverrides

theorem Reached.mem_names_iff (hs : s.Reached) (hc : c ∈ s.structs) (n : String) :
    n ∈ c.layout.names ↔ (c.field? n).isSome := by
  obtain ⟨d, hbuilt, _⟩ := hs.exists_structBuilt c hc
  exact hbuilt.mem_names_iff n

/-- The field as the class declares it itself, else as the first base that has it supplies it. -/
theorem Reached.structField?_eq (hs : s.Reached) (hc : c ∈ s.structs) (n : String) :
    c.field? n = ((c.ownFields.find? fun f => f.name == n).map
      fun f => f.info.settled).or (c.bases.findSome? fun b => b.field? n) := by
  obtain ⟨d, hbuilt, hbases⟩ := hs.exists_structBuilt c hc
  exact hbuilt.field?_eq (fun b hb => hs.nodup_declarations (hbases b hb)) n

theorem Reached.inherited_field?_eq (hs : s.Reached) (hc : c ∈ s.structs) {n : String}
    (hown : n ∉ c.own.map StructField.name) :
    c.field? n = c.bases.findSome? fun b => b.field? n := by
  have hnone : (c.ownFields.find? fun f => f.name == n) = none := by
    rw [List.find?_eq_none, StructClass.ownFields, List.forall_mem_map]
    intro f hf hfn
    exact hown (List.mem_map.mpr ⟨f, hf, by simpa using hfn⟩)
  rw [hs.structField?_eq hc, hnone]
  rfl

theorem Reached.field?_own (hs : s.Reached) (hc : c ∈ s.structs) {f : StructField}
    (hf : f ∈ c.own) :
    c.field? f.name = some { f with kwOnly := f.kwOnly || c.ownKwOnly }.info.settled := by
  obtain ⟨d, hbuilt, _⟩ := hs.exists_structBuilt c hc
  have hmem : { f with kwOnly := f.kwOnly || c.ownKwOnly } ∈ c.ownFields := List.mem_map_of_mem hf
  have hfind := Table.find?_of_mem StructField.name hbuilt.nodup_ownFields hmem
  rw [hs.structField?_eq hc, hfind]
  rfl

theorem Reached.find?_base (hs : s.Reached) (hc : c ∈ s.structs) (n : String) :
    (c.bases.find? fun b => n ∈ b.layout.names) = c.bases.find? fun b => (b.field? n).isSome := by
  apply List.find?_congr
  intro b hb
  simp [hs.mem_names_iff (hs.mem_of_mem_structBases hc hb)]

theorem Reached.structField?_of_supplies (hs : s.Reached) {p : StructClass} {n : String}
    (h : c.Supplies n p) (hc : c ∈ s.structs) : p ∈ s.structs ∧ c.field? n = p.field? n := by
  induction h with
  | own => exact ⟨hc, rfl⟩
  | base hown hfirst _ ih =>
    obtain ⟨hp, heq⟩ := ih (hs.mem_of_mem_structBases hc (List.mem_of_find?_eq_some hfirst))
    refine ⟨hp, ?_⟩
    rw [hs.find?_base hc] at hfirst
    rw [hs.inherited_field?_eq hc hown, First.findSome?_eq_bind, hfirst, ← heq]
    rfl

theorem Reached.inherited_override?_eq (hs : s.Reached) (hc : c ∈ s.structs) {n : String}
    (hown : n ∉ c.own.map StructField.name) (hover : n ∉ c.ownOverrides.keys) :
    c.override? n = c.bases.findSome? fun b => b.override? n := by
  obtain ⟨d, hbuilt, hbases⟩ := hs.exists_structBuilt c hc
  rw [hbuilt.override?_eq (fun b hb => hs.nodup_overrides (hbases b hb)) hover, if_neg hown]

end Stock

/-! ## The field and its override -/

/-- An inherited field is that of the first base which has it, and comes with the override of this
base exactly if no base at all has another one that is found first. -/
theorem inherited_override_exact {s : Stock} (hs : s.Reached) {c : StructClass}
    (hc : c ∈ s.structs) {n : String} (hn : n ∈ c.layout.names)
    (hown : n ∉ c.own.map StructField.name) (hover : n ∉ c.ownOverrides.keys) :
    ∃ b, (c.bases.find? fun b => n ∈ b.layout.names) = some b ∧ c.field? n = b.field? n ∧
      c.override? n = (c.bases.findSome? fun b => b.override? n) ∧
      (c.override? n = b.override? n ↔
        ∀ a, (c.bases.find? fun a => (a.override? n).isSome) = some a →
          a.override? n = b.override? n) := by
  have hfield := hs.inherited_field?_eq hc hown
  have hoverride := hs.inherited_override?_eq hc hown hover
  have hfirst := hs.find?_base hc n
  rw [hs.mem_names_iff hc, hfield, First.findSome?_eq_bind] at hn
  rw [First.findSome?_eq_bind] at hfield
  cases hsup : c.bases.find? fun b => (b.field? n).isSome with
  | none => simp [hsup] at hn
  | some b =>
    refine ⟨b, hfirst.trans hsup, by rw [hfield, hsup]; rfl, hoverride, ?_⟩
    rw [hoverride, First.findSome?_eq_bind]
    cases hover : c.bases.find? fun a => (a.override? n).isSome with
    | none =>
      have hb : b.override? n = none := by
        simpa using List.find?_eq_none.mp hover b (List.mem_of_find?_eq_some hsup)
      simp [hb]
    | some a => simp

/-! ## Two bases with one field -/

namespace TwoBases

def field : StructField := .plain "n" (.resolved "i64")

/-- The declaration of `field`, with an override or without. -/
def decl (name : String) (overrides : Dict FieldOverride) : StructDecl :=
  ⟨name, [], [field], overrides, false, false⟩

def unshown : FieldOverride := { FieldOverride.empty with repr := some false }

def bare : StructClass :=
  ⟨⟨1⟩, "Bare", [], [field], [], false, .ofFields 1 [field], [], false⟩

def marked : StructClass :=
  ⟨⟨2⟩, "Marked", [], [field], [("n", unshown)], false, .ofFields 1 [field], [("n", unshown)], false⟩

/-- Declares nothing. -/
def both : StructClass :=
  ⟨⟨3⟩, "Both", [bare, marked], [], [], false, .ofFields 1 [field], [("n", unshown)], false⟩

theorem reached : ∃ w, Stock.Reached ⟨w, [], [both, marked, bare]⟩ := by
  obtain ⟨w₁, h₁, n₁⟩ := (Stock.Reached.start (.start ⟨1⟩ 0 [])).struct (d := decl "Bare" [])
    (c := bare) (by simp [decl]) rfl
  obtain ⟨w₂, h₂, n₂⟩ := h₁.struct (d := decl "Marked" [("n", unshown)]) (c := marked)
    (by simp [decl]) (by rw [n₁]; rfl)
  obtain ⟨w₃, h₃, _⟩ := h₂.struct (d := ⟨"Both", [bare, marked], [], [], false, false⟩) (c := both)
    (by simp) (by rw [n₂, n₁]; rfl)
  exact ⟨w₃, h₃⟩

end TwoBases

open TwoBases in
/-- The field of one base comes with the override of the other. -/
theorem inherited_override_exact_both :
    ∃ w, Stock.Reached ⟨w, [], [both, marked, bare]⟩ ∧ both ∈ [both, marked, bare] ∧
      "n" ∈ both.layout.names ∧ "n" ∉ both.own.map StructField.name ∧
      "n" ∉ both.ownOverrides.keys ∧
      ∃ b, (both.bases.find? fun b => "n" ∈ b.layout.names) = some b ∧
        both.override? "n" ≠ b.override? "n" := by
  obtain ⟨w, hw⟩ := reached
  have hc : both ∈ [both, marked, bare] := List.mem_cons_self
  have hn : "n" ∈ both.layout.names := by decide
  have hown : "n" ∉ both.own.map StructField.name := by decide
  have hover : "n" ∉ both.ownOverrides.keys := by decide
  obtain ⟨b, hb, _, _, hiff⟩ := inherited_override_exact hw hc hn hown hover
  refine ⟨w, hw, hc, hn, hown, hover, b, hb, ?_⟩
  obtain rfl : bare = b := Option.some.inj hb
  intro h
  have := hiff.mp h marked rfl
  simp [StructClass.override?, marked, bare, Dict.get?_cons] at this

open TwoBases in
/-- The base that supplies the field may have no override where the class has one. -/
theorem override_of_another_base :
    ∃ w, Stock.Reached ⟨w, [], [both, marked, bare]⟩ ∧
      (both.bases.find? fun b => "n" ∈ b.layout.names) = some bare ∧
      bare.override? "n" = none ∧ both.override? "n" = some unshown := by
  obtain ⟨w, hw⟩ := reached
  exact ⟨w, hw, rfl, rfl, rfl⟩

end FieldAtlas
