import FieldAtlas.Proofs.Lasting
import FieldAtlas.Proofs.World

/-!
# Programs

A program makes classes of every kind and puts them to introspectors, in any order and as often as
it likes. `Program.Reached` is all that can come of it.
-/

namespace FieldAtlas

/-- A world and the classes made in it, the latest first. -/
structure Program where
  world : World
  classes : List ClassObject

namespace Program

/-- How a program comes to one more class. Every table that a class shows is that of a class which
was built before. A declaration holds its values, so that none of them is passing. -/
inductive Made (p : Program) : ClassObject → World → Prop
  | record {d : RecordDecl} {c : RecordClass} {w : World}
      (bases : ∀ b ∈ d.bases, .record b ∈ p.classes) (lasting : ∀ f ∈ d.fields, f.Lasting)
      (built : p.world.buildRecord d = (.ok c, w)) : Made p (.record c) w
  | struct {d : StructDecl} {c : StructClass} {w : World}
      (bases : ∀ b ∈ d.bases, .struct b ∈ p.classes) (default : ∀ f ∈ d.fields, f.default.Lasting)
      (override : ∀ e ∈ d.overrides, e.2.Lasting)
      (built : p.world.buildStruct d = (.ok c, w)) : Made p (.struct c) w
  | object {o : StructObject} (layout : .struct o.layout ∈ p.classes) : Made p (.object o) p.world
  | plain {name : String} {c : ClassObject} {w : World} (made : p.world.newPlain name = (c, w)) :
      Made p c w
  | foreign {name : String} {record : Option RecordClass} {struct : Option StructClass}
      {mixin : Bool} {c : ClassObject} {w : World} (records : ∀ r ∈ record, .record r ∈ p.classes)
      (structs : ∀ t ∈ struct, .struct t ∈ p.classes)
      (made : p.world.newForeign name record struct mixin = (c, w)) : Made p c w

/-- What a program does with its classes. All else leaves the introspectors alone and gives no
identity back: values, calls of factories, a look at what is kept, a build that fails. -/
inductive Done (p : Program) : World → Prop
  | introspector (settings : Settings) : Done p (p.world.newIntrospector settings).2
  | getFields (via : Option IntrospectorId) {c : ClassObject} (known : c ∈ p.classes) :
      Done p (p.world.getFields via c).2
  | extractFields {c : ClassObject} (known : c ∈ p.classes) : Done p (p.world.extractFields c).2
  | buildDefinition (via : Option IntrospectorId) {c : ClassObject} (known : c ∈ p.classes)
      (config : ObjectConfig) : Done p (p.world.buildDefinition via c config).2
  | definition {c : ClassObject} (known : c ∈ p.classes) (strict : Bool) :
      Done p (p.world.definition c strict).2
  | forget (via : Option IntrospectorId) {c : ClassObject} (known : c ∈ p.classes) :
      Done p (p.world.forget via c).2
  | clear (via : Option IntrospectorId) : Done p (p.world.clear via)
  | other {w : World} (same : p.world.SameIntrospectors w)
      (later : p.world.nextClass.number ≤ w.nextClass.number) : Done p w

inductive Step (p : Program) : Program → Prop
  | made {c : ClassObject} {w : World} : p.Made c w → Step p ⟨w, c :: p.classes⟩
  | done {w : World} : p.Done w → Step p ⟨w, p.classes⟩

/-- The programs that come about, from a world whose introspectors have seen nothing. -/
inductive Reached : Program → Prop
  | start {w : World} (global : w.global.cache = []) (others : w.others = []) : Reached ⟨w, []⟩
  | step {p q : Program} : Reached p → Step p q → Reached q

variable {p : Program}

/-! ## Made classes -/

theorem Made.same {c : ClassObject} {w : World} (h : p.Made c w) : p.world.SameIntrospectors w := by
  cases h with
  | @record d _ _ _ _ built =>
    have hsame := p.world.buildRecord_same d
    rwa [built] at hsame
  | @struct d _ _ _ _ _ built =>
    have hsame := p.world.buildStruct_same d
    rwa [built] at hsame
  | object => exact ⟨rfl, rfl⟩
  | plain made =>
    obtain ⟨_, rfl⟩ := Prod.mk.inj made
    exact ⟨rfl, rfl⟩
  | foreign _ _ made =>
    obtain ⟨_, rfl⟩ := Prod.mk.inj made
    exact ⟨rfl, rfl⟩

theorem Made.id_eq {c : ClassObject} {w : World} (h : p.Made c w) :
    c.id = p.world.nextClass ∧ w.nextClass = p.world.nextClass.next ∨
      ∃ o, c = .object o ∧ .struct o.layout ∈ p.classes ∧ w = p.world := by
  cases h with
  | record _ _ built =>
    obtain ⟨hbuild, hnext⟩ := World.buildRecord_ok built
    exact Or.inl ⟨(RecordDecl.build_ok hbuild).id_eq, hnext⟩
  | struct _ _ _ built =>
    obtain ⟨hbuild, hnext⟩ := World.buildStruct_ok built
    exact Or.inl ⟨(StructDecl.build_ok hbuild).2, hnext⟩
  | @object o layout => exact Or.inr ⟨o, rfl, layout, rfl⟩
  | plain made =>
    obtain ⟨rfl, rfl⟩ := Prod.mk.inj made
    exact Or.inl ⟨rfl, rfl⟩
  | foreign _ _ made =>
    obtain ⟨rfl, rfl⟩ := Prod.mk.inj made
    exact Or.inl ⟨rfl, rfl⟩

/-- Every table that the class shows is that of a class among `cs`, and its values are lasting. -/
structure Founded (cs : List ClassObject) (c : ClassObject) : Prop where
  record : ∀ r, c.recordTable? = some r → .record r ∈ cs ∧ r.Lasting
  struct : ∀ t, c.structTable? = some t → .struct t ∈ cs ∧ t.Lasting

theorem Founded.cons {cs : List ClassObject} {c : ClassObject} (h : Founded cs c) (d : ClassObject) :
    Founded (d :: cs) c :=
  ⟨fun r hr => (h.record r hr).imp_left (List.mem_cons_of_mem d),
    fun t ht => (h.struct t ht).imp_left (List.mem_cons_of_mem d)⟩

theorem Made.founded {c : ClassObject} {w : World} (h : p.Made c w)
    (before : ∀ b ∈ p.classes, Founded p.classes b) : Founded (c :: p.classes) c := by
  have hrecord : ∀ r, .record r ∈ p.classes → .record r ∈ c :: p.classes ∧ r.Lasting :=
    fun r hr => ⟨List.mem_cons_of_mem c hr, ((before _ hr).record r rfl).2⟩
  have hstruct : ∀ t, .struct t ∈ p.classes → .struct t ∈ c :: p.classes ∧ t.Lasting :=
    fun t ht => ⟨List.mem_cons_of_mem c ht, ((before _ ht).struct t rfl).2⟩
  cases h with
  | record _ lasting built =>
    have hbuilt := RecordDecl.build_ok (World.buildRecord_ok built).1
    refine ⟨?_, by simp [ClassObject.structTable?]⟩
    intro r hr
    obtain rfl := Option.some.inj hr
    exact ⟨List.mem_cons_self, by rwa [RecordClass.Lasting, hbuilt.own_eq]⟩
  | struct _ default override built =>
    obtain ⟨hbuilt, _⟩ := StructDecl.build_ok (World.buildStruct_ok built).1
    refine ⟨by simp [ClassObject.recordTable?], ?_⟩
    intro t ht
    obtain rfl := Option.some.inj ht
    exact ⟨List.mem_cons_self, by rwa [hbuilt.own_eq], by rwa [hbuilt.ownOverrides_eq]⟩
  | object layout =>
    refine ⟨by simp [ClassObject.recordTable?], ?_⟩
    intro t ht
    obtain rfl := Option.some.inj ht
    exact hstruct _ layout
  | plain made =>
    obtain ⟨rfl, _⟩ := Prod.mk.inj made
    exact ⟨by simp [ClassObject.recordTable?], by simp [ClassObject.structTable?]⟩
  | foreign records structs made =>
    obtain ⟨rfl, _⟩ := Prod.mk.inj made
    exact ⟨fun r hr => hrecord r (records r hr), fun t ht => hstruct t (structs t ht)⟩

/-! ## Things done -/

theorem Done.later {w : World} (h : p.Done w) :
    p.world.nextClass.number ≤ w.nextClass.number := by
  cases h with
  | introspector => exact Nat.le_refl _
  | getFields via => rw [World.nextClass_getFields]
  | extractFields => rw [(World.extractFields_same _ _).2]
  | buildDefinition via _ config => rw [World.buildDefinition_snd, World.nextClass_getFields]
  | @definition c _ strict =>
    rcases p.world.definition_snd c strict with h | ⟨via, h⟩
    · rw [h]
    · rw [h, World.nextClass_getFields]
  | forget via => rw [World.forget, World.nextClass_setIntrospector]
  | clear via => rw [World.clear, World.nextClass_setIntrospector]
  | other _ later => exact later

theorem Done.used {w : World} (h : p.Done w) {tables : ClassId → Classification}
    (hu : p.world.Used tables) (hc : ∀ c ∈ p.classes, c.classify = tables c.id) : w.Used tables := by
  cases h with
  | introspector settings => exact hu.newIntrospector settings
  | getFields via known => exact hu.getFields via (hc _ known)
  | extractFields => exact hu.of_same (World.extractFields_same _ _).1
  | buildDefinition via known config =>
    rw [World.buildDefinition_snd]
    exact hu.getFields via (hc _ known)
  | @definition c known strict =>
    rcases p.world.definition_snd c strict with h | ⟨via, h⟩
    · rwa [h]
    · rw [h]
      exact hu.getFields via (hc c known)
  | forget via => exact hu.setIntrospector (.forgot _ (hu.introspector via)) via
  | clear via => exact hu.setIntrospector (.cleared (hu.introspector via)) via
  | other same => exact hu.of_same same

/-! ## Facts about every program -/

theorem Reached.id_lt (hp : p.Reached) :
    ∀ c ∈ p.classes, c.id.number < p.world.nextClass.number := by
  induction hp with
  | start => simp
  | @step p _ _ step ih =>
    cases step with
    | @made c w h =>
      intro b hb
      rcases h.id_eq with ⟨hid, hnext⟩ | ⟨o, rfl, layout, rfl⟩
      · rw [hnext, ClassId.next]
        rcases List.mem_cons.mp hb with rfl | hb
        · rw [hid]
          exact Nat.lt_succ_self _
        · exact Nat.lt_succ_of_lt (ih b hb)
      -- An object brings no identity of its own.
      · rcases List.mem_cons.mp hb with rfl | hb
        · exact ih (.struct o.layout) layout
        · exact ih b hb
    | done h => exact fun c hc => Nat.lt_of_lt_of_le (ih c hc) h.later

/-- The identity tells what a class is. -/
theorem Reached.classify_eq (hp : p.Reached) :
    ∀ a ∈ p.classes, ∀ b ∈ p.classes, a.id = b.id → a.classify = b.classify := by
  induction hp with
  | start => simp
  | @step p _ hp step ih =>
    cases step with
    | done => exact ih
    | @made c w h =>
      have hnew : ∀ b ∈ p.classes, c.id = b.id → c.classify = b.classify := by
        intro b hb heq
        rcases h.id_eq with ⟨hid, _⟩ | ⟨o, rfl, layout, _⟩
        · have hlt := hp.id_lt b hb
          rw [← heq, hid] at hlt
          exact absurd hlt (Nat.lt_irrefl _)
        · exact ih (.struct o.layout) layout b hb heq
      intro a ha b hb heq
      rcases List.mem_cons.mp ha with rfl | ha' <;> rcases List.mem_cons.mp hb with rfl | hb'
      · rfl
      · exact hnew b hb' heq
      · exact (hnew a ha' heq.symm).symm
      · exact ih a ha' b hb' heq

/-- What the identities stand for. -/
def tables (p : Program) (id : ClassId) : Classification :=
  ((p.classes.find? fun c => c.id == id).map ClassObject.classify).getD .neither

theorem Reached.tables_eq (hp : p.Reached) : ∀ c ∈ p.classes, c.classify = p.tables c.id := by
  intro c hc
  have hsome : (p.classes.find? fun b => b.id == c.id).isSome :=
    List.find?_isSome.mpr ⟨c, hc, by simp⟩
  obtain ⟨b, hb⟩ := Option.isSome_iff_exists.mp hsome
  have hid : b.id = c.id := by simpa using List.find?_some hb
  rw [tables, hb]
  exact hp.classify_eq c hc b (List.mem_of_find?_eq_some hb) hid.symm

/-- `tables` is one for the whole run: what an identity stands for at its end, it has stood for ever
since it was given. -/
theorem Reached.used (hp : p.Reached) {tables : ClassId → Classification}
    (hc : ∀ c ∈ p.classes, c.classify = tables c.id) : p.world.Used tables := by
  induction hp with
  | @start w global others =>
    have hnew : w.global = .new w.global.settings := by rw [Introspector.new, ← global]
    exact ⟨hnew ▸ .new _, by simp [others]⟩
  | step _ step ih =>
    cases step with
    | made h => exact (ih fun b hb => hc b (List.mem_cons_of_mem _ hb)).of_same h.same
    | done h => exact h.used (ih hc) hc

theorem Reached.founded (hp : p.Reached) : ∀ c ∈ p.classes, Founded p.classes c := by
  induction hp with
  | start => simp
  | step _ step ih =>
    cases step with
    | done => exact ih
    | @made c _ h =>
      intro b hb
      rcases List.mem_cons.mp hb with rfl | hb
      · exact h.founded ih
      · exact (ih b hb).cons c

/-! ## The classes with tables -/

def stock (p : Program) : Stock where
  world := p.world
  records := p.classes.filterMap fun
    | .record c => some c
    | _ => none
  structs := p.classes.filterMap fun
    | .struct c => some c
    | _ => none

theorem mem_records (r : RecordClass) : r ∈ p.stock.records ↔ .record r ∈ p.classes := by
  rw [stock, List.mem_filterMap]
  constructor
  · rintro ⟨c, hc, h⟩
    cases c with
    | record => rwa [← Option.some.inj h]
    | _ => cases h
  · exact fun h => ⟨_, h, rfl⟩

theorem mem_structs (t : StructClass) : t ∈ p.stock.structs ↔ .struct t ∈ p.classes := by
  rw [stock, List.mem_filterMap]
  constructor
  · rintro ⟨c, hc, h⟩
    cases c with
    | struct => rwa [← Option.some.inj h]
    | _ => cases h
  · exact fun h => ⟨_, h, rfl⟩

theorem Reached.stock (hp : p.Reached) : p.stock.Reached := by
  induction hp with
  | start => exact .start _
  | step _ step ih =>
    cases step with
    | done h => exact ih.step (.other h.later)
    | made h =>
      cases h with
      | record bases _ built =>
        exact ih.step (.record (fun b hb => (mem_records b).mpr (bases b hb)) built)
      | struct bases _ _ built =>
        exact ih.step (.struct (fun b hb => (mem_structs b).mpr (bases b hb)) built)
      | object => exact ih
      | plain made =>
        obtain ⟨rfl, rfl⟩ := Prod.mk.inj made
        exact ih.step (.other (Nat.le_succ _))
      | foreign _ _ made =>
        obtain ⟨rfl, rfl⟩ := Prod.mk.inj made
        exact ih.step (.other (Nat.le_succ _))

theorem Reached.same_over (hp : p.Reached) : ∀ c ∈ p.classes, c.Over fun v => v.same v = true := by
  have hfounded := hp.founded
  intro c hc
  constructor
  · intro r hr
    refine hp.stock.same_over_records ?_ r ((mem_records r).mpr ((hfounded c hc).record r hr).1)
    exact fun a ha => ((hfounded _ ((mem_records a).mp ha)).record a rfl).2
  · intro t ht
    refine hp.stock.same_over_structs ?_ t ((mem_structs t).mpr ((hfounded c hc).struct t ht).1)
    exact fun a ha => ((hfounded _ ((mem_structs a).mp ha)).struct a rfl).2

theorem Reached.same_of_extractFields (hp : p.Reached) {c : ClassObject} (hc : c ∈ p.classes)
    {ds : List Descriptor} (h : extractFields c = .ok ds) : ∀ d ∈ ds, d.same d = true := by
  intro d hd
  exact (over_extractFields (fun _ => Value.Added.same_self) (hp.same_over c hc) h d hd).same_self

end Program

end FieldAtlas
