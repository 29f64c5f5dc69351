import FieldAtlas.Proofs.Descriptor.HashSet
import FieldAtlas.Proofs.Session.Memory
import FieldAtlas.Session.Run

/-!
# One memory for a whole run

No step of a session loses a value or moves one. So what a run can come back to at its end are
values of one memory, whichever steps it has made.
-/

namespace FieldAtlas

open SessionM

variable {α : Type} {m : Memory} {Q : Memory → α → Prop}

/-! ## Names -/

theorem keeps_classNamed (name : String) :
    Keeps m (classNamed name) fun m' c => c.Over (Value.Kept m') :=
  keeps_named name fun _ _ hs => hs.classes

theorem keeps_descriptor (name : String) :
    Keeps m (descriptor name) fun m' d => d.Over (Value.Kept m') :=
  keeps_named name fun _ _ hs => hs.descriptors

theorem keeps_via : ∀ name : Option String, Keeps m (via name) fun _ _ => True
  | none => keeps_pure trivial
  | some name => keeps_bind (keeps_named (Q := fun _ _ => True) name fun _ _ _ _ _ => trivial)
      fun _ _ _ _ => keeps_pure trivial

theorem keeps_bindClass (var : String) {c : ClassObject} (hc : c.Over (Value.Kept m)) :
    Keeps m (bindClass var c) fun _ _ => True := by
  refine keeps_modify fun s hs => { hs with classes := fun e he => ?_ }
  rcases Dict.mem_insert he with rfl | he
  · exact hc
  · exact hs.classes e he

theorem keeps_bindDescriptor (var : String) {d : Descriptor} (hd : d.Over (Value.Kept m)) :
    Keeps m (bindDescriptor var d) fun _ _ => True := by
  refine keeps_modify fun s hs => { hs with descriptors := fun e he => ?_ }
  rcases Dict.mem_insert he with rfl | he
  · exact hd
  · exact hs.descriptors e he

theorem keeps_made (var : String) {c : ClassObject} (hc : c.Over (Value.Kept m)) :
    Keeps m (made var c) fun _ _ => True :=
  keeps_bind (keeps_bindClass var hc) fun _ _ _ _ => keeps_pure trivial

theorem keeps_recordBase (name : String) :
    Keeps m (recordBase name) fun m' c => c.Over (Value.Kept m') := by
  refine keeps_bind (keeps_classNamed name) fun c m' _ hc => ?_
  cases hr : c.recordTable? with
  | some r => exact keeps_pure (hc.record r hr)
  | none => exact keeps_throw

theorem keeps_structBase (name : String) :
    Keeps m (structBase name) fun m' c => c.Over (Value.Kept m') := by
  refine keeps_bind (keeps_classNamed name) fun c m' _ hc => ?_
  cases ht : c.structTable? with
  | some t => exact keeps_pure (hc.struct t ht)
  | none => exact keeps_throw

theorem keeps_optional {f : String → SessionM α} (hf : ∀ name, Keeps m (f name) Q) :
    ∀ name : Option String, Keeps m (optional f name) fun m' o => ∀ a ∈ o, Q m' a
  | none => keeps_pure nofun
  | some name => keeps_bind (hf name) fun _ _ _ ha => keeps_pure fun _ hb => Option.some.inj hb ▸ ha

/-! ## Lists that are shown -/

theorem keeps_sight (list : FieldList) : Keeps m (sight list) fun _ _ => True := by
  refine keeps_bind keeps_get fun s m' _ hs => ?_
  cases s.sighted.idxOf? list.number with
  | some n => exact keeps_pure trivial
  | none =>
    have hseen : { s with sighted := s.sighted ++ [list.number] }.Stands m' := { hs with }
    exact keeps_bind (keeps_set hseen) fun _ _ _ _ => keeps_pure trivial

theorem keeps_forM {f : α → SessionM Unit} {xs : List α}
    (hf : ∀ x ∈ xs, ∀ m', m <+: m' → Keeps m' (f x) fun _ _ => True) :
    Keeps m (xs.forM f) fun _ _ => True := by
  induction xs generalizing m with
  | nil => exact keeps_pure trivial
  | cons x xs ih =>
    rw [List.forall_mem_cons] at hf
    refine keeps_bind (hf.1 m (List.prefix_refl m)) fun _ m₁ hm₁ _ => ?_
    exact ih fun y hy m' hm' => hf.2 y hy m' (hm₁.trans hm')

theorem keeps_showFields (keep : Option String) {list : FieldList}
    (hlist : list.Over (Value.Kept m)) : Keeps m (showFields keep list) fun _ _ => True := by
  refine keeps_bind (keeps_sight list) fun number m₁ hm₁ _ => ?_
  cases keep with
  | none => exact keeps_pure trivial
  | some keep =>
    refine keeps_bind (keeps_forM fun d hd m₂ hm₂ => ?_) fun _ _ _ _ => keeps_pure trivial
    exact keeps_bindDescriptor _ ((hlist d hd).mono (Value.Kept.sub (hm₁.trans hm₂)))

/-! ## Operations of the world -/

theorem keeps_getFields {e : FieldError → Failure} (i : Option IntrospectorId) {c : ClassObject}
    (hc : c.Over (Value.Kept m)) :
    Keeps m (tryWorld e fun w => w.getFields i c) fun m' l => l.Over (Value.Kept m') := by
  refine keeps_tryWorld fun w hw => ?_
  obtain ⟨hlist, hworld⟩ := hw.getFields (fun _ => Value.Added.kept) i hc
  exact ⟨(w.getFields_store i c).nextPlace, hworld, hlist⟩

theorem keeps_extractFields {e : FieldError → Failure} {c : ClassObject}
    (hc : c.Over (Value.Kept m)) :
    Keeps m (tryWorld e fun w => w.extractFields c) fun m' l => l.Over (Value.Kept m') := by
  refine keeps_tryWorld fun w hw => ⟨(w.extractFields_store c).nextPlace, ?_, ?_⟩
  · exact hw.of_same (w.extractFields_same c).1
  · exact fun l => World.over_extractFields (fun _ => Value.Added.kept) w hc

theorem keeps_buildDefinition {e : FieldError → Failure} (i : Option IntrospectorId)
    {c : ClassObject} (hc : c.Over (Value.Kept m)) (config : ObjectConfig) :
    Keeps m (tryWorld e fun w => w.buildDefinition i c config) fun _ _ => True := by
  refine keeps_tryWorld fun w hw => ⟨(w.buildDefinition_store i c config).nextPlace, ?_, ?_⟩
  · rw [w.buildDefinition_snd i c config]
    exact (hw.getFields (fun _ => Value.Added.kept) i hc).2
  · exact fun _ _ => trivial

theorem keeps_definition {e : FieldError → Failure} {c : ClassObject} (hc : c.Over (Value.Kept m))
    (strict : Bool) : Keeps m (tryWorld e fun w => w.definition c strict) fun _ _ => True := by
  refine keeps_tryWorld fun w hw => ⟨(w.definition_store c strict).nextPlace, ?_, fun _ _ => trivial⟩
  rcases w.definition_snd c strict with h | ⟨i, h⟩
  · rwa [h]
  · rw [h]
    exact (hw.getFields (fun _ => Value.Added.kept) i hc).2

theorem keeps_produce (f : Factory) : Keeps m (world fun w => w.produce f) fun _ _ => True := by
  refine keeps_world fun w hw => ?_
  unfold World.produce
  split <;> exact ⟨rfl, hw.of_same ⟨rfl, rfl⟩, trivial⟩

theorem keeps_defaultValue (d : Descriptor) :
    Keeps m (world fun w => w.defaultValue d) fun _ _ => True := by
  refine keeps_world fun w hw => ?_
  unfold World.defaultValue
  split
  · exact ⟨rfl, hw, trivial⟩
  · exact ⟨rfl, hw, trivial⟩
  · simp only
    unfold World.produce
    split <;> exact ⟨rfl, hw.of_same ⟨rfl, rfl⟩, trivial⟩

theorem keeps_buildRecord {e : RecordError → Failure} {d : RecordDecl}
    (bases : ∀ b ∈ d.bases, b.Over (Value.Kept m)) (fields : ∀ f ∈ d.fields, f.Over (Value.Kept m)) :
    Keeps m (tryWorld e fun w => w.buildRecord d) fun m' c => c.Over (Value.Kept m') := by
  refine keeps_tryWorld fun w hw => ⟨(w.buildRecord_store d).nextPlace, ?_, ?_⟩
  · exact hw.of_same (w.buildRecord_same d)
  · intro c hc
    exact (RecordDecl.build_ok (World.buildRecord_ok (Prod.ext hc rfl)).1).over bases fields

theorem keeps_buildStruct {e : StructError → Failure} {d : StructDecl}
    (bases : ∀ b ∈ d.bases, b.Over (Value.Kept m)) (fields : ∀ f ∈ d.fields, f.default.Kept m)
    (overrides : ∀ o ∈ d.overrides, o.2.Over (Value.Kept m)) :
    Keeps m (tryWorld e fun w => w.buildStruct d) fun m' c => c.Over (Value.Kept m') := by
  refine keeps_tryWorld fun w hw => ⟨(w.buildStruct_store d).nextPlace, ?_, ?_⟩
  · exact hw.of_same (w.buildStruct_same d)
  · intro c hc
    obtain ⟨hbuilt, _⟩ := StructDecl.build_ok (World.buildStruct_ok (Prod.ext hc rfl)).1
    exact hbuilt.over (fun _ => Value.Added.kept) bases fields overrides

theorem keeps_settings (toml : Option String) (cacheFields autoCamelCase : Option Bool) :
    Keeps m (settings toml cacheFields autoCamelCase) fun _ _ => True := by
  unfold settings
  split
  · split
    · exact keeps_pure trivial
    · exact keeps_throw
  · exact keeps_pure trivial

/-! ## Steps -/

theorem keeps_ofStep (m : Memory) (step : Step) : Keeps m (ofStep step) fun _ _ => True := by
  cases step with
  | bind var form =>
    refine keeps_bind (form.keeps_eval m) fun v m' _ hv => ?_
    refine keeps_bind (keeps_modify fun s hs => { hs with values := fun e he => ?_ })
      fun _ _ _ _ => keeps_pure trivial
    rcases Dict.mem_insert he with rfl | he
    · exact hv
    · exact hs.values e he
  | inspect form => exact keeps_bind (form.keeps_eval m) fun _ _ _ _ => keeps_pure trivial
  | compare a b =>
    exact keeps_bind (a.keeps_eval m) fun _ m' _ _ => keeps_bind (b.keeps_eval m') fun _ _ _ _ =>
      keeps_pure trivial
  | produce form =>
    exact keeps_bind (keeps_evalFactory form) fun f _ _ _ => keeps_bind (keeps_produce f)
      fun _ _ _ _ => keeps_pure trivial
  | descriptor var owner field =>
    refine keeps_bind (field.keeps_spec .missing) fun spec m' _ hspec => ?_
    cases hmake : Descriptor.make owner spec with
    | error e => exact keeps_throw
    | ok d =>
      have hd := Descriptor.over_make (fun _ => Value.Added.kept) hmake hspec
      cases var with
      | none => exact keeps_pure trivial
      | some var => exact keeps_bind (keeps_bindDescriptor var hd) fun _ _ _ _ => keeps_pure trivial
  | «show» name => exact keeps_bind (keeps_descriptor name) fun _ _ _ _ => keeps_pure trivial
  | defaultValue name =>
    exact keeps_bind (keeps_descriptor name) fun d _ _ _ => keeps_bind (keeps_defaultValue d)
      fun _ _ _ _ => keeps_pure trivial
  | metadataValue name key =>
    exact keeps_bind (keeps_descriptor name) fun _ _ _ _ => keeps_pure trivial
  | compareDescriptors a b =>
    exact keeps_bind (keeps_descriptor a) fun _ _ _ _ => keeps_bind (keeps_descriptor b)
      fun _ _ _ _ => keeps_pure trivial
  | descriptorSet names =>
    refine keeps_bind (keeps_mapM (fun _ _ _ hm hd => hd.mono (Value.Kept.sub hm))
      fun name _ _ _ => keeps_descriptor name) fun _ _ _ _ => keeps_pure trivial
  | record var name bases fields object =>
    refine keeps_bind (keeps_mapM (fun _ _ _ hm hb => hb.mono (Value.Kept.sub hm))
      fun base _ _ _ => keeps_recordBase base) fun bases m₁ _ hbases => ?_
    refine keeps_bind (keeps_mapM (fun _ _ _ hm hf => hf.mono (Value.Kept.sub hm))
      fun f _ _ _ => f.keeps_spec .noDefault) fun fields m₂ hm₂ hfields => ?_
    have hbases : ∀ b ∈ bases, b.Over (Value.Kept m₂) :=
      fun b hb => (hbases b hb).mono (Value.Kept.sub hm₂)
    exact keeps_bind (keeps_buildRecord hbases hfields) fun c _ _ hc =>
      keeps_made var ⟨fun r hr => Option.some.inj hr ▸ hc, nofun⟩
  | struct var name bases fields overrides kwOnly frozen =>
    refine keeps_bind (keeps_mapM (fun _ _ _ hm hb => hb.mono (Value.Kept.sub hm))
      fun base _ _ _ => keeps_structBase base) fun bases m₁ _ hbases => ?_
    refine keeps_bind (keeps_mapM (fun _ _ _ hm hf => hf.mono hm)
      fun f _ _ _ => f.keeps_structField) fun fields m₂ hm₂ hfields => ?_
    refine keeps_bind (keeps_mapM (fun _ _ _ hm ho => ho.mono (Value.Kept.sub hm))
      fun o _ _ _ => o.keeps_entry) fun overrides m₃ hm₃ hoverrides => ?_
    refine keeps_bind (keeps_buildStruct ?_ ?_ ?_) fun c _ _ hc =>
      keeps_made var ⟨nofun, fun t ht => Option.some.inj ht ▸ hc⟩
    · exact fun b hb => (hbases b hb).mono (Value.Kept.sub (hm₂.trans hm₃))
    · exact fun f hf => (hfields f hf).mono hm₃
    · intro o ho
      rcases Dict.mem_extend ho with ho | ho
      · exact hoverrides o ho
      · cases ho
  | plain var name =>
    refine keeps_bind (Q := fun m' c => c.Over (Value.Kept m')) (keeps_world fun w hw => ?_)
      fun c _ _ hc => keeps_made var hc
    exact ⟨rfl, hw.of_same ⟨rfl, rfl⟩, nofun, nofun⟩
  | object var struct config viaName =>
    refine keeps_bind (keeps_structBase struct) fun layout m₁ _ hlayout => ?_
    refine keeps_bind (keeps_via viaName) fun i m₂ hm₂ _ => keeps_made var ⟨nofun, fun t ht => ?_⟩
    exact Option.some.inj ht ▸ hlayout.mono (Value.Kept.sub hm₂)
  | foreign var name record struct mixin =>
    refine keeps_bind (keeps_optional keeps_recordBase record) fun record m₁ _ hrecord => ?_
    refine keeps_bind (keeps_optional keeps_structBase struct) fun struct m₂ hm₂ hstruct => ?_
    refine keeps_bind (Q := fun m' c => c.Over (Value.Kept m')) (keeps_world fun w hw => ?_)
      fun c _ _ hc => keeps_made var hc
    exact ⟨rfl, hw.of_same ⟨rfl, rfl⟩, fun r hr => (hrecord r hr).mono (Value.Kept.sub hm₂), hstruct⟩
  | classify c => exact keeps_bind (keeps_classNamed c) fun _ _ _ _ => keeps_pure trivial
  | recordInfo c => exact keeps_bind (keeps_classNamed c) fun _ _ _ _ => keeps_pure trivial
  | structInfo c => exact keeps_bind (keeps_classNamed c) fun _ _ _ _ => keeps_pure trivial
  | isSubclass c of =>
    exact keeps_bind (keeps_recordBase c) fun _ _ _ _ => keeps_bind (keeps_recordBase of)
      fun _ _ _ _ => keeps_pure trivial
  | initGlobal settings =>
    exact keeps_bind (Q := fun _ _ => True) (keeps_tryWorld fun _ hw => ⟨rfl, hw, fun _ _ => trivial⟩)
      fun _ _ _ _ => keeps_pure trivial
  | introspector var toml cacheFields autoCamelCase =>
    refine keeps_bind (keeps_settings toml cacheFields autoCamelCase) fun s _ _ _ => ?_
    refine keeps_bind (Q := fun _ _ => True) (keeps_world fun w hw => ?_) fun id _ _ _ => ?_
    · exact ⟨rfl, hw.newIntrospector (Introspector.over_new s), trivial⟩
    · exact keeps_bind (keeps_modify fun _ hs => { hs with }) fun _ _ _ _ => keeps_pure trivial
  | getFields c viaName keep =>
    refine keeps_bind (keeps_classNamed c) fun c m₁ _ hc => ?_
    refine keeps_bind (keeps_via viaName) fun i m₂ hm₂ _ => ?_
    have hc := hc.mono (Value.Kept.sub hm₂)
    exact keeps_bind (keeps_getFields i hc) fun list _ _ hlist => keeps_showFields keep hlist
  | extractFields c keep =>
    refine keeps_bind (keeps_classNamed c) fun c m' _ hc => ?_
    exact keeps_bind (keeps_extractFields hc) fun list _ _ hlist => keeps_showFields keep hlist
  | getFieldsOf typeName keep =>
    refine keeps_bind keeps_get fun s m' _ hs => ?_
    cases hentry : s.catalogue.ofType? typeName with
    | none => exact keeps_throw
    | some entry =>
      have hdeclared := hs.declared entry (List.mem_of_find?_eq_some hentry)
      rcases entry with ⟨_, _, e | c⟩
      · exact keeps_throw
      · exact keeps_bind (keeps_getFields none (hdeclared c rfl)) fun _ _ _ hlist =>
          keeps_showFields keep hlist
  | cached c viaName =>
    refine keeps_bind (keeps_classNamed c) fun c _ _ _ => ?_
    refine keeps_bind (keeps_via viaName) fun i _ _ _ => keeps_bind keeps_get fun s _ _ _ => ?_
    cases s.world.cached? i c with
    | none => exact keeps_pure trivial
    | some list => exact keeps_bind (keeps_sight list) fun _ _ _ _ => keeps_pure trivial
  | forget c viaName =>
    refine keeps_bind (keeps_classNamed c) fun c _ _ _ => ?_
    refine keeps_bind (keeps_via viaName) fun i _ _ _ => ?_
    refine keeps_bind (Q := fun _ _ => True) (keeps_world fun w hw => ?_)
      fun _ _ _ _ => keeps_pure trivial
    exact ⟨(w.setIntrospector_store i _).nextPlace,
      hw.setIntrospector ((hw.introspector i).forget c.id) i, trivial⟩
  | clear viaName =>
    refine keeps_bind (keeps_via viaName) fun i _ _ _ => ?_
    refine keeps_bind (Q := fun _ _ => True) (keeps_world fun w hw => ?_)
      fun _ _ _ _ => keeps_pure trivial
    exact ⟨(w.setIntrospector_store i _).nextPlace,
      hw.setIntrospector (Introspector.over_clear _) i, trivial⟩
  | definition c strict lookups =>
    exact keeps_bind (keeps_classNamed c) fun c _ _ hc => keeps_bind (keeps_definition hc strict)
      fun _ _ _ _ => keeps_pure trivial
  | buildDefinition c config viaName lookups =>
    refine keeps_bind (keeps_classNamed c) fun c m₁ _ hc => ?_
    refine keeps_bind (keeps_via viaName) fun i m₂ hm₂ _ => ?_
    have hc := hc.mono (Value.Kept.sub hm₂)
    exact keeps_bind (keeps_buildDefinition i hc config) fun _ _ _ _ => keeps_pure trivial
  | compareDefinitions a b =>
    refine keeps_bind (keeps_classNamed a) fun a m₁ _ ha => ?_
    refine keeps_bind (keeps_classNamed b) fun b m₂ hm₂ hb => ?_
    refine keeps_bind (keeps_definition (ha.mono (Value.Kept.sub hm₂)) false) fun _ m₃ hm₃ _ => ?_
    exact keeps_bind (keeps_definition (hb.mono (Value.Kept.sub hm₃)) false) fun _ _ _ _ =>
      keeps_pure trivial
  | classOf typeName var =>
    refine keeps_bind keeps_get fun s m' _ hs => ?_
    cases hentry : s.catalogue.ofType? typeName with
    | none => exact keeps_pure trivial
    | some entry =>
      have hdeclared := hs.declared entry (List.mem_of_find?_eq_some hentry)
      rcases entry with ⟨_, _, e | c⟩
      · exact keeps_throw
      cases var with
      | none => exact keeps_pure trivial
      | some var =>
        exact keeps_bind (keeps_bindClass var (hdeclared c rfl)) fun _ _ _ _ => keeps_pure trivial
  | classByName name var =>
    refine keeps_bind keeps_get fun s m' _ hs => ?_
    cases hentry : s.catalogue.ofName? name with
    | none => exact keeps_pure trivial
    | some entry =>
      have hdeclared := hs.declared entry (List.mem_of_find?_eq_some hentry)
      rcases entry with ⟨_, _, e | c⟩
      · exact keeps_throw
      cases var with
      | none => exact keeps_pure trivial
      | some var =>
        exact keeps_bind (keeps_bindClass var (hdeclared c rfl)) fun _ _ _ _ => keeps_pure trivial
  | listing => exact keeps_bind keeps_get fun _ _ _ _ => keeps_pure trivial

/-! ## Runs -/

namespace Session

variable {s : Session}

theorem Stands.step (hs : s.Stands m) (step : Step) :
    ∃ m', m <+: m' ∧ (s.step step).2.Stands m' := by
  have hquiet : { s with world := { s.world with events := [] } }.Stands m :=
    { hs with world := hs.world.of_same ⟨rfl, rfl⟩ }
  obtain ⟨m', hm', hs', _⟩ := keeps_ofStep m step _ hquiet
  exact ⟨m', hm', hs'⟩

/-- The session after these steps, whatever they answer. -/
def after (s : Session) (steps : List Step) : Session :=
  steps.foldl (fun s step => (s.step step).2) s

theorem Stands.after (hs : s.Stands m) (steps : List Step) :
    ∃ m', m <+: m' ∧ (s.after steps).Stands m' := by
  induction steps generalizing s m with
  | nil => exact ⟨m, List.prefix_refl m, hs⟩
  | cons step steps ih =>
    obtain ⟨m₁, hm₁, hs₁⟩ := hs.step step
    obtain ⟨m₂, hm₂, hs₂⟩ := ih hs₁
    exact ⟨m₂, hm₁.trans hm₂, hs₂⟩

theorem stands_start {c : Catalogue} (hc : c.Stands m) : (start c).Stands m where
  next := hc.next
  world := ⟨Introspector.over_new .standard, nofun⟩
  values := nofun
  classes := nofun
  descriptors := nofun
  declared := hc.declared

/-! ## Sets of named descriptors -/

theorem run_descriptor (s : Session) (name : String) : (descriptor name).run.run s =
    (match s.descriptors.get? name with
      | some d => .ok d
      | none => .error (.unbound name), s) := by
  have hget : (get : SessionM Session).run.run s = (.ok s, s) := rfl
  unfold descriptor named
  rw [run_bind, hget]
  simp only
  cases s.descriptors.get? name <;> rfl

theorem run_descriptors (s : Session) (names : List String) :
    ((names.mapM descriptor).run.run s).2 = s ∧
      ∀ ds, ((names.mapM descriptor).run.run s).1 = .ok ds →
        names.map (s.descriptors.get? ·) = ds.map some := by
  induction names with
  | nil => exact ⟨rfl, fun _ h => Except.ok.inj h ▸ rfl⟩
  | cons name names ih =>
    rw [List.mapM_cons, run_bind, run_descriptor]
    cases hd : s.descriptors.get? name with
    | none => exact ⟨rfl, nofun⟩
    | some d =>
      simp only
      rw [run_bind]
      generalize (names.mapM descriptor).run.run s = r at ih
      rcases r with ⟨e | ds, s'⟩
      · exact ⟨ih.1, nofun⟩
      · refine ⟨ih.1, ?_⟩
        rintro _ ⟨⟩
        rw [List.map_cons, List.map_cons, hd, ih.2 ds rfl]

theorem Stands.descriptorSet (hs : s.Stands m) {names : List String} {new : List Bool} {n : Nat}
    (h : (s.step (.descriptorSet names)).1.1 = .ok (.descriptorSet new n)) :
    ∃ ds kept, names.map (s.descriptors.get? ·) = ds.map some ∧ Descriptor.Inserted ds new kept ∧
      n = kept.length := by
  obtain ⟨_, hnames⟩ := run_descriptors { s with world := { s.world with events := [] } } names
  unfold Session.step at h
  simp only [ofStep] at h
  rw [run_bind] at h
  generalize (names.mapM descriptor).run.run _ = r at h hnames
  rcases r with ⟨e | ds, s'⟩
  · cases h
  have hds := hnames ds rfl
  have hstored : ∀ d ∈ ds, d.StoredIn m := by
    intro d hd
    have hmem : some d ∈ names.map (s.descriptors.get? ·) := hds ▸ List.mem_map_of_mem hd
    obtain ⟨name, _, hname⟩ := List.mem_map.mp hmem
    exact hs.descriptors _ (Dict.mem_of_get? hname)
  obtain ⟨rfl, rfl⟩ := Answer.descriptorSet.inj (Except.ok.inj h)
  exact ⟨ds, _, hds, Descriptor.inserted_insertAll hstored, rfl⟩

end Session

end FieldAtlas
