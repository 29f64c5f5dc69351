import FieldAtlas.Declaration.Read
import FieldAtlas.Proofs.Extract

/-!
# What is known of a declaration that was read

What each item of an attribute keeps, all attributes together keep. So a record is never by keyword
only as a whole, and no field has both a default and a factory.
-/

namespace FieldAtlas

open FieldAtlas.Source FieldAtlas.Source.Reading

/-! ## Readings -/

namespace Source.Reading

variable {α β : Type} {P : α → Prop} {Q : β → Prop}

/-- Whatever is read satisfies `P`. -/
def Ensures (r : Reading α) (P : α → Prop) : Prop := ∀ c a c', r.run c = .ok (a, c') → P a

theorem ensures_pure {a : α} (h : P a) : Ensures (pure a) P := by
  intro c b c' hrun
  obtain ⟨rfl, _⟩ := Prod.mk.inj (Except.ok.inj hrun)
  exact h

theorem ensures_failAt (pos : Pos) (message : String) : Ensures (failAt pos message) P := by
  intro c a c' hrun
  cases hrun

theorem ensures_bind {r : Reading α} {f : α → Reading β} (hr : Ensures r P)
    (hf : ∀ a, P a → Ensures (f a) Q) : Ensures (r >>= f) Q := by
  intro c b c' hrun
  obtain ⟨⟨a, c₁⟩, hfirst, hrun⟩ := bind_ok_iff.mp hrun
  exact hf a (hr c a c₁ hfirst) c₁ b c' hrun

theorem ensures_of_rest {r : Reading α} {f : α → Reading β} (hf : ∀ a, Ensures (f a) Q) :
    Ensures (r >>= f) Q :=
  ensures_bind (P := fun _ => True) (fun _ _ _ _ => trivial) fun a _ => hf a

theorem runAll_ok {r : Reading α} (hr : Ensures r P) {tokens : List Token} {stop : Pos} {a : α}
    (h : runAll r tokens stop = .ok a) : P a := by
  obtain ⟨⟨b, c⟩, hrun, h⟩ := bind_ok_iff.mp h
  have hb : P b := hr _ b c hrun
  simp only at h
  split at h
  · cases h
  · exact Except.ok.inj h ▸ hb
  · cases h

end Source.Reading

/-! ## Attributes -/

namespace Helper

variable {σ : Type} {item : NamePath → σ → Reading σ} {P : σ → Prop}
  (hitem : ∀ path s, P s → Ensures (item path s) P)
include hitem

theorem ensures_itemsWithin (limit : Nat) {s : σ} (hs : P s) :
    Ensures (itemsWithin item limit s) P := by
  induction limit generalizing s with
  | zero => exact ensures_pure hs
  | succ limit ih =>
    unfold itemsWithin
    refine ensures_of_rest fun path => ensures_bind (hitem path s hs) fun t ht => ?_
    refine ensures_of_rest fun c => ?_
    split
    · exact ensures_pure ht
    refine ensures_of_rest fun _ => ensures_of_rest fun c => ?_
    split
    · exact ensures_pure ht
    · exact ih ht

theorem follow_ok {kind : DeclaredKind} {a : Attribute} {s t : σ} (hs : P s)
    (h : follow kind item a s = .ok t) : P t := by
  unfold follow at h
  split at h
  · cases h
  · cases h
  · split at h
    · exact Except.ok.inj h ▸ hs
    · exact runAll_ok (ensures_of_rest fun c => ensures_itemsWithin hitem _ hs) h

theorem followAll_ok {kind : DeclaredKind} {attributes : List Attribute} {s t : σ} (hs : P s)
    (h : followAll kind item attributes s = .ok t) : P t := by
  unfold followAll at h
  generalize attributes.filter _ = as at h
  induction as generalizing s with
  | nil => exact Except.ok.inj h ▸ hs
  | cons a as ih =>
    rw [List.foldlM_cons] at h
    obtain ⟨s', hfollow, h⟩ := bind_ok_iff.mp h
    exact ih (follow_ok hitem hs hfollow) h

end Helper

theorem Helper.ensures_classItem (rules : Grammar.Rules) (path : NamePath) {o : ClassOptions}
    (h : o.kwOnly = false) :
    Ensures (classItem rules .record path o) fun o => o.kwOnly = false := by
  unfold classItem
  split
  · exact ensures_of_rest fun _ => ensures_pure h
  · exact ensures_of_rest fun _ => ensures_pure h
  · exact ensures_of_rest fun _ => ensures_pure h
  · exact ensures_pure h
  · exact ensures_pure h
  -- The other keys are for structs.
  · contradiction
  · contradiction
  · contradiction
  · exact ensures_failAt _ _

/-! ## Fields and classes -/

theorem DeclaredField.ofItem_ok {rules : Grammar.Rules} {kind : DeclaredKind} {i : FieldItem}
    {f : DeclaredField} (h : ofItem rules kind i = .ok f) :
    Helper.followAll kind (Helper.fieldItem rules kind) i.attributes
      (.plain i.pos i.name i.type) = .ok f ∧ (f.default.isSome && f.factory.isSome) = false := by
  obtain ⟨g, hfollow, h⟩ := bind_ok_iff.mp h
  split at h
  · cases h
  · rename_i hboth
    obtain rfl := Except.ok.inj h
    exact ⟨hfollow, by simpa using hboth⟩

namespace DeclaredClass

/-- What the definition of a type declares, whatever the order of its fields. -/
def parsed (rules : Grammar.Rules) (kind : DeclaredKind) (i : Item) :
    Except Fault DeclaredClass := do
  if i.parameters ≠ 0 then throw (DeclarationProblem.fault (.generic kind) i.pos)
  let options ← Helper.followAll kind (Helper.classItem rules kind) i.attributes .plain
  checkObject kind i.pos options
  let fields ← (← fieldItems kind i).mapM (DeclaredField.ofItem rules kind)
  return ⟨kind, i.pos, i.name, options, fields⟩

theorem ofItem_eq (rules : Grammar.Rules) (kind : DeclaredKind) (i : Item) :
    ofItem rules kind i = (do
      let c ← parsed rules kind i
      c.checkOrder
      return c) := by
  unfold ofItem parsed
  split
  · rfl
  · simp only [bind_assoc, pure_bind]

theorem ofItem_ok_iff {rules : Grammar.Rules} {kind : DeclaredKind} {i : Item} {c : DeclaredClass} :
    ofItem rules kind i = .ok c ↔ parsed rules kind i = .ok c ∧ c.checkOrder = .ok () := by
  rw [ofItem_eq, bind_ok_iff]
  constructor
  · rintro ⟨d, hd, h⟩
    obtain ⟨_, horder, h⟩ := bind_ok_iff.mp h
    obtain rfl := Except.ok.inj h
    exact ⟨hd, horder⟩
  · rintro ⟨hc, horder⟩
    exact ⟨c, hc, bind_ok_iff.mpr ⟨(), horder, rfl⟩⟩

/-- What holds of a class whichever items its attributes have. -/
structure Sound (c : DeclaredClass) : Prop where
  keyword : c.kind = .record → c.options.kwOnly = false
  slots : ∀ f ∈ c.fields, (f.default.isSome && f.factory.isSome) = false

theorem parsed_inv {rules : Grammar.Rules} {kind : DeclaredKind} {i : Item} {c : DeclaredClass}
    (h : parsed rules kind i = .ok c) :
    c.kind = kind ∧
    Helper.followAll kind (Helper.classItem rules kind) i.attributes .plain = .ok c.options ∧
    ∃ items, fieldItems kind i = .ok items ∧
      items.mapM (DeclaredField.ofItem rules kind) = .ok c.fields := by
  unfold parsed at h
  split at h
  · cases h
  obtain ⟨options, hoptions, h⟩ := bind_ok_iff.mp h
  obtain ⟨_, _, h⟩ := bind_ok_iff.mp h
  obtain ⟨items, hitems, h⟩ := bind_ok_iff.mp h
  obtain ⟨fields, hfields, h⟩ := bind_ok_iff.mp h
  obtain rfl := Except.ok.inj h
  exact ⟨rfl, hoptions, items, hitems, hfields⟩

theorem parsed_ok {rules : Grammar.Rules} {kind : DeclaredKind} {i : Item} {c : DeclaredClass}
    (h : parsed rules kind i = .ok c) : c.kind = kind ∧ c.Sound := by
  obtain ⟨rfl, hoptions, items, _, hfields⟩ := parsed_inv h
  refine ⟨rfl, ?_, ?_⟩
  · intro hkind
    rw [hkind] at hoptions
    exact Helper.followAll_ok (P := fun o => o.kwOnly = false)
      (fun path o ho => Helper.ensures_classItem rules path ho) rfl hoptions
  · intro f hf
    obtain ⟨i, _, hi⟩ := exists_of_mem_mapM hfields f hf
    exact (DeclaredField.ofItem_ok hi).2

end DeclaredClass

end FieldAtlas
