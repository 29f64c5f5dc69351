import FieldAtlas.Proofs.Value.Equality
import FieldAtlas.Proofs.Value.Origin
import FieldAtlas.Session.Form

/-!
# The memory of a session

Whatever a session writes down gets the next place, and no place is given twice. So all values that
a session can come back to are those of one memory, which only grows.
-/

namespace FieldAtlas

/-! ## A memory that grows -/

theorem Memory.Holds.mono {m m' : Memory} (hm : m <+: m') {v : Value} (h : m.Holds v) :
    m'.Holds v := by
  unfold Memory.Holds at h ⊢
  cases hp : v.place with
  | shared k => simpa only [hp] using h
  | passing => trivial
  | numbered n =>
    simp only [hp] at h ⊢
    obtain ⟨l, rfl⟩ := hm
    rw [List.getElem?_append_left (List.getElem?_eq_some_iff.mp h).1, h]

namespace Value

variable {m m' : Memory} {v : Value}

theorem StoredIn.mono (hm : m <+: m') (h : v.StoredIn m) : v.StoredIn m' := by
  induction h with
  | mk here _ ih => exact .mk (here.mono hm) ih

theorem Kept.mono (hm : m <+: m') (h : v.Kept m) : v.Kept m' := ⟨h.stored.mono hm, h.steady⟩

theorem Kept.sub (hm : m <+: m') : ∀ v : Value, v.Kept m → v.Kept m' := fun _ h => h.mono hm

theorem kept_ofScalar {s : Scalar} (h : s.same s = true) : (ofScalar s).Kept m :=
  ⟨.mk trivial (fun _ hx => nomatch hx), Or.inr ⟨s, rfl, h⟩⟩

theorem Added.kept (h : v.Added) : v.Kept m := by
  cases h with
  | marker k => exact ⟨storedIn_ofMarker k, Or.inl (held_ofMarker k)⟩
  | factory f => exact kept_ofScalar (beq_self_eq_true f.closure)
  | defaultFactory f => exact kept_ofScalar (beq_self_eq_true f.closure)
  | name s => exact kept_ofScalar (beq_self_eq_true (Scalar.text .owned s))

theorem kept_concat (hplace : v.place = .numbered m.length) (hparts : ∀ x ∈ v.parts, x.Kept m) :
    v.Kept (m ++ [v]) := by
  refine ⟨.mk ?_ fun x hx => (hparts x hx).stored.mono (List.prefix_append m [v]), Or.inl ?_⟩
  · rw [Memory.Holds, hplace]
    exact List.getElem?_concat_length
  · rw [Held, hplace]
    exact nofun

end Value

/-! ## Sessions in a memory -/

/-- The memory has the values of all declared classes. -/
structure Catalogue.Stands (m : Memory) (c : Catalogue) : Prop where
  next : c.nextPlace = m.length
  declared : ∀ e ∈ c.entries, ∀ k, e.outcome = .ok k → k.Over (Value.Kept m)

/-- The memory has all values that the session can come back to. -/
structure Session.Stands (m : Memory) (s : Session) : Prop where
  next : s.world.nextPlace = m.length
  world : s.world.Over (Value.Kept m)
  values : ∀ e ∈ s.values, e.2.Kept m
  classes : ∀ e ∈ s.classes, e.2.Over (Value.Kept m)
  descriptors : ∀ e ∈ s.descriptors, e.2.Over (Value.Kept m)
  declared : ∀ e ∈ s.catalogue.entries, ∀ c, e.outcome = .ok c → c.Over (Value.Kept m)

theorem Session.Stands.newPlace {m : Memory} {s : Session} (hs : s.Stands m) (v : Value) :
    { s with world := s.world.newPlace.2 }.Stands (m ++ [v]) := by
  have hkept := Value.Kept.sub (List.prefix_append m [v])
  have hworld : s.world.newPlace.2.Over (Value.Kept m) := hs.world.of_same ⟨rfl, rfl⟩
  exact {
    next := by rw [List.length_append, ← hs.next]; rfl
    world := hworld.mono hkept
    values := fun e he => hkept e.2 (hs.values e he)
    classes := fun e he => (hs.classes e he).mono hkept
    descriptors := fun e he => (hs.descriptors e he).mono hkept
    declared := fun e he c hc => (hs.declared e he c hc).mono hkept }

namespace SessionM

variable {α β : Type} {m : Memory} {Q : Memory → α → Prop} {R : Memory → β → Prop}

/-- From a session in the memory `m`, the operation leads to one in a memory that has grown from it,
where `Q` holds of the result. -/
def Keeps (m : Memory) (x : SessionM α) (Q : Memory → α → Prop) : Prop :=
  ∀ s : Session, s.Stands m → ∃ m', m <+: m' ∧ (x.run.run s).2.Stands m' ∧
    ∀ a, (x.run.run s).1 = .ok a → Q m' a

theorem keeps_pure {a : α} (h : Q m a) : Keeps m (pure a) Q := by
  intro s hs
  refine ⟨m, List.prefix_refl m, hs, ?_⟩
  rintro b ⟨⟩
  exact h

theorem keeps_throw {e : Failure} : Keeps m (throw e : SessionM α) Q :=
  fun _ hs => ⟨m, List.prefix_refl m, hs, fun _ h => nomatch h⟩

theorem run_bind (x : SessionM α) (f : α → SessionM β) (s : Session) :
    (x >>= f).run.run s = match x.run.run s with
      | (.ok a, s₁) => (f a).run.run s₁
      | (.error e, s₁) => (.error e, s₁) := by
  rw [ExceptT.run_bind, StateT.run_bind]
  rcases x.run.run s with ⟨_ | _, _⟩ <;> rfl

theorem keeps_bind {x : SessionM α} {f : α → SessionM β} (hx : Keeps m x Q)
    (hf : ∀ a m', m <+: m' → Q m' a → Keeps m' (f a) R) : Keeps m (x >>= f) R := by
  intro s hs
  obtain ⟨m₁, hm₁, hs₁, hq⟩ := hx s hs
  rw [run_bind]
  generalize x.run.run s = r at hs₁ hq
  rcases r with ⟨e | a, s₁⟩
  · exact ⟨m₁, hm₁, hs₁, fun _ h => nomatch h⟩
  · obtain ⟨m₂, hm₂, hs₂, hr⟩ := hf a m₁ hm₁ (hq a rfl) s₁ hs₁
    exact ⟨m₂, hm₁.trans hm₂, hs₂, hr⟩

theorem keeps_of_stands {x : SessionM α} (h : ∀ s : Session, s.Stands m →
    (x.run.run s).2.Stands m ∧ ∀ a, (x.run.run s).1 = .ok a → Q m a) : Keeps m x Q :=
  fun s hs => ⟨m, List.prefix_refl m, h s hs⟩

theorem keeps_get : Keeps m (get : SessionM Session) fun m' s => s.Stands m' := by
  apply keeps_of_stands
  intro s hs
  refine ⟨hs, ?_⟩
  rintro _ ⟨⟩
  exact hs

theorem keeps_set {s : Session} (h : s.Stands m) : Keeps m (set s) fun _ _ => True :=
  keeps_of_stands fun _ _ => ⟨h, fun _ _ => trivial⟩

theorem keeps_modify {f : Session → Session} (h : ∀ s : Session, s.Stands m → (f s).Stands m) :
    Keeps m (modify f) fun _ _ => True :=
  keeps_of_stands fun s hs => ⟨h s hs, fun _ _ => trivial⟩

theorem keeps_mapM {f : α → SessionM β} {xs : List α}
    (mono : ∀ m m' b, m <+: m' → R m b → R m' b)
    (hf : ∀ x ∈ xs, ∀ m', m <+: m' → Keeps m' (f x) R) :
    Keeps m (xs.mapM f) fun m' ys => ∀ y ∈ ys, R m' y := by
  induction xs generalizing m with
  | nil => exact keeps_pure (by simp)
  | cons x xs ih =>
    rw [List.forall_mem_cons] at hf
    rw [List.mapM_cons]
    refine keeps_bind (hf.1 m (List.prefix_refl m)) fun y m₁ hm₁ hy => ?_
    refine keeps_bind (ih fun z hz m' hm' => hf.2 z hz m' (hm₁.trans hm')) fun ys m₂ hm₂ hys => ?_
    exact keeps_pure (List.forall_mem_cons.mpr ⟨mono _ _ y hm₂ hy, hys⟩)

/-! ## Operations of the world -/

theorem keeps_world {f : World → α × World} (h : ∀ w : World, w.Over (Value.Kept m) →
    (f w).2.nextPlace = w.nextPlace ∧ (f w).2.Over (Value.Kept m) ∧ Q m (f w).1) :
    Keeps m (world f) Q := by
  apply keeps_of_stands
  intro s hs
  obtain ⟨hnext, hworld, hq⟩ := h s.world hs.world
  refine ⟨⟨hnext.trans hs.next, hworld, hs.values, hs.classes, hs.descriptors, hs.declared⟩, ?_⟩
  rintro _ ⟨⟩
  exact hq

theorem keeps_tryWorld {ε : Type} {failure : ε → Failure} {f : World → Except ε α × World}
    (h : ∀ w : World, w.Over (Value.Kept m) → (f w).2.nextPlace = w.nextPlace ∧
      (f w).2.Over (Value.Kept m) ∧ ∀ a, (f w).1 = .ok a → Q m a) :
    Keeps m (tryWorld failure f) Q := by
  refine keeps_bind (Q := fun m' r => ∀ a, r = .ok a → Q m' a) (keeps_world h) ?_
  intro r m' _ hr
  cases r with
  | ok a => exact keeps_pure (hr a rfl)
  | error e => exact keeps_throw

theorem keeps_place {f : Place → Value} (hplace : ∀ p, (f p).place = p)
    (hparts : ∀ p, ∀ x ∈ (f p).parts, x.Kept m) :
    Keeps m (newPlace >>= fun p => pure (f p)) fun m' v => v.Kept m' := by
  intro s hs
  have hnext : f (.numbered s.world.nextPlace) = f (.numbered m.length) := by rw [hs.next]
  refine ⟨m ++ [f (.numbered m.length)], List.prefix_append _ _, hs.newPlace _, ?_⟩
  rintro _ ⟨⟩
  rw [hnext]
  exact Value.kept_concat (hplace _) (hparts _)

theorem keeps_named {table : Session → Dict α} (name : String)
    (h : ∀ m' s, s.Stands m' → ∀ e ∈ table s, Q m' e.2) : Keeps m (named table name) Q := by
  refine keeps_bind keeps_get fun s m' _ hs => ?_
  cases hget : (table s).get? name with
  | some a => exact keeps_pure (h m' s hs _ (Dict.mem_of_get? hget))
  | none => exact keeps_throw

theorem keeps_newFactory (name : String) (product : Product) :
    Keeps m (newFactory name product) fun _ _ => True :=
  keeps_world fun _ hw => ⟨rfl, hw.of_same ⟨rfl, rfl⟩, trivial⟩

end SessionM

/-! ## Written values -/

open SessionM

theorem Value.mem_parts_dict {p : Place} {entries : List (String × Value)} {x : Value}
    (hx : x ∈ (dict p (Dict.ofEntries entries)).parts) : x ∈ entries.map Prod.snd := by
  obtain ⟨e, he, rfl⟩ := List.mem_map.mp hx
  rcases Dict.mem_extend he with he | he
  · exact List.mem_map_of_mem he
  · cases he

mutual

theorem ValueForm.keeps_eval (m : Memory) :
    ∀ form : ValueForm, Keeps m form.eval fun m' v => v.Kept m'
  | .scalar s => by
    rw [ValueForm.eval]
    exact keeps_place (fun _ => rfl) fun _ _ hx => nomatch hx
  | .list items => by
    rw [ValueForm.eval]
    exact keeps_bind (keeps_evalItems m items) fun vs m' _ hvs =>
      keeps_place (fun _ => rfl) fun _ => hvs
  | .dict entries => by
    rw [ValueForm.eval]
    refine keeps_bind (keeps_evalEntries m entries) fun es m' _ hes =>
      keeps_place (fun _ => rfl) fun _ x hx => hes x (Value.mem_parts_dict hx)
  | .wrapped inner => by
    rw [ValueForm.eval]
    exact keeps_bind (inner.keeps_eval m) fun v m' _ hv =>
      keeps_place (fun _ => rfl) fun _ => List.forall_mem_singleton.mpr hv
  | .shared k => by
    rw [ValueForm.eval]
    exact keeps_pure (Value.Added.kept (.marker k))
  | .factory name product => by
    rw [ValueForm.eval]
    refine keeps_bind (product.keeps_eval m) fun p m₁ _ _ => ?_
    refine keeps_bind (keeps_newFactory name p) fun f m₂ _ _ => ?_
    exact keeps_place (fun _ => rfl) fun _ _ hx => nomatch hx
  | .defaultFactory name product => by
    rw [ValueForm.eval]
    refine keeps_bind (product.keeps_eval m) fun p m₁ _ _ => ?_
    refine keeps_bind (keeps_newFactory name p) fun f m₂ _ _ => ?_
    exact keeps_place (fun _ => rfl) fun _ _ hx => nomatch hx
  | .named name => by
    rw [ValueForm.eval]
    exact keeps_named name fun _ _ hs => hs.values

theorem ProductForm.keeps_eval (m : Memory) :
    ∀ form : ProductForm, Keeps m form.eval fun _ _ => True
  | .constant v => by
    rw [ProductForm.eval]
    exact keeps_bind (v.keeps_eval m) fun _ _ _ _ => keeps_pure trivial
  | .counter first => by
    rw [ProductForm.eval]
    exact keeps_pure trivial

theorem keeps_evalItems (m : Memory) :
    ∀ items : List ValueForm, Keeps m (evalItems items) fun m' vs => ∀ v ∈ vs, v.Kept m'
  | [] => by
    rw [evalItems]
    exact keeps_pure fun _ hv => nomatch hv
  | item :: items => by
    rw [evalItems]
    refine keeps_bind (item.keeps_eval m) fun v m₁ _ hv => ?_
    refine keeps_bind (keeps_evalItems m₁ items) fun vs m₂ hm₂ hvs => ?_
    exact keeps_pure (List.forall_mem_cons.mpr ⟨hv.mono hm₂, hvs⟩)

theorem keeps_evalEntries (m : Memory) : ∀ entries : List (String × ValueForm),
    Keeps m (evalEntries entries) fun m' es => ∀ v ∈ es.map Prod.snd, v.Kept m'
  | [] => by
    rw [evalEntries]
    exact keeps_pure fun _ hv => nomatch hv
  | (k, item) :: entries => by
    rw [evalEntries]
    refine keeps_bind (item.keeps_eval m) fun v m₁ _ hv => ?_
    refine keeps_bind (keeps_evalEntries m₁ entries) fun es m₂ hm₂ hes => ?_
    exact keeps_pure (List.forall_mem_cons.mpr ⟨hv.mono hm₂, hes⟩)

end

/-! ## Written fields -/

section

variable {m : Memory}

theorem keeps_evalOption : ∀ form : Option ValueForm,
    Keeps m (evalOption form) fun m' o => ∀ v ∈ o, v.Kept m'
  | none => keeps_pure nofun
  | some form => keeps_bind (form.keeps_eval m) fun _ _ _ hv =>
      keeps_pure fun _ hw => Option.some.inj hw ▸ hv

theorem keeps_evalFactory (form : ValueForm) : Keeps m (evalFactory form) fun _ _ => True := by
  refine keeps_bind (form.keeps_eval m) fun v m' _ _ => ?_
  split
  · exact keeps_pure trivial
  · exact keeps_throw

theorem keeps_evalFactoryOption : ∀ form : Option ValueForm,
    Keeps m (evalFactoryOption form) fun _ _ => True
  | none => keeps_pure trivial
  | some form => keeps_bind (keeps_evalFactory form) fun _ _ _ _ => keeps_pure trivial

theorem keeps_evalMetadata (entries : List (String × ValueForm)) :
    Keeps m (evalMetadata entries) fun m' d => ∀ e ∈ d, e.2.Kept m' := by
  refine keeps_bind (keeps_evalEntries m entries) fun es m' _ hes => keeps_pure fun e he => ?_
  rcases Dict.mem_extend he with he | he
  · exact hes e.2 (List.mem_map_of_mem he)
  · cases he

theorem FieldForm.keeps_spec (f : FieldForm) (absent : Marker) :
    Keeps m (f.spec (.ofMarker absent)) fun m' spec => spec.Over (Value.Kept m') := by
  refine keeps_bind (keeps_evalOption f.default) fun default m₁ _ hdefault => ?_
  refine keeps_bind (keeps_evalFactoryOption f.factory) fun factory m₂ hm₂ _ => ?_
  refine keeps_bind (keeps_evalOption f.factorySlot) fun slot m₃ hm₃ hslot => ?_
  refine keeps_bind (keeps_evalMetadata f.metadata) fun metadata m₄ hm₄ hmetadata => ?_
  have habsent : (Value.ofMarker absent).Kept m₄ := Value.Added.kept (.marker absent)
  refine keeps_pure (FieldSpec.over_iff.mpr ⟨?_, ?_, hmetadata⟩)
  · cases default with
    | none => exact habsent
    | some v => exact (hdefault v rfl).mono (hm₂.trans (hm₃.trans hm₄))
  · cases slot with
    | some v => exact (hslot v rfl).mono hm₄
    | none =>
      cases factory with
      | none => exact habsent
      | some g => exact Value.Added.kept (.factory g)

theorem FieldForm.keeps_structField (f : FieldForm) :
    Keeps m f.structField fun m' field => field.default.Kept m' := by
  refine keeps_bind (keeps_evalOption f.default) fun default m₁ _ hdefault => ?_
  refine keeps_bind (keeps_evalFactoryOption f.factory) fun factory m₂ hm₂ _ => keeps_pure ?_
  cases default with
  | none => exact Value.Added.kept (.marker .unset)
  | some v => exact (hdefault v rfl).mono hm₂

theorem OverrideForm.keeps_entry (o : OverrideForm) :
    Keeps m o.entry fun m' e => e.2.Over (Value.Kept m') :=
  keeps_bind (keeps_evalMetadata o.metadata) fun _ _ _ h => keeps_pure h

end

end FieldAtlas
