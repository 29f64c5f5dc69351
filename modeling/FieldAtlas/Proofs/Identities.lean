import FieldAtlas.Proofs.Stock
import FieldAtlas.Proofs.World

/-!
# The identities that a run gives out

Whatever a program does to its world, it makes one class at most, and takes one identity for it. A
build that fails takes none. So the identities of a run stand in a row, whatever else goes on.
-/

namespace FieldAtlas.World

/-! ## One act -/

/-- What a program can do to its world. -/
inductive Act where
  | record (d : RecordDecl)
  | struct (d : StructDecl)
  | plain (name : String)
  | foreign (name : String) (record : Option RecordClass) (struct : Option StructClass)
      (mixin : Bool)
  | place
  | factory (name : String) (product : Product)
  | produce (f : Factory)
  | defaultValue (d : Descriptor)
  | introspector (settings : Settings)
  | initGlobal (settings : Settings)
  | extractFields (c : ClassObject)
  | getFields (via : Option IntrospectorId) (c : ClassObject)
  | forget (via : Option IntrospectorId) (c : ClassObject)
  | clear (via : Option IntrospectorId)
  | buildDefinition (via : Option IntrospectorId) (c : ClassObject) (config : ObjectConfig)
  | definition (c : ClassObject) (strict : Bool)

/-- The identity of the class that is made, if one is, and the world after it. -/
def act (w : World) : Act → Option ClassId × World
  | .record d => ((w.buildRecord d).1.toOption.map RecordClass.id, (w.buildRecord d).2)
  | .struct d => ((w.buildStruct d).1.toOption.map StructClass.id, (w.buildStruct d).2)
  | .plain name => (some (w.newPlain name).1.id, (w.newPlain name).2)
  | .foreign name record struct mixin =>
    (some (w.newForeign name record struct mixin).1.id, (w.newForeign name record struct mixin).2)
  | .place => (none, w.newPlace.2)
  | .factory name product => (none, (w.newFactory name product).2)
  | .produce f => (none, (w.produce f).2)
  | .defaultValue d => (none, (w.defaultValue d).2)
  | .introspector settings => (none, (w.newIntrospector settings).2)
  | .initGlobal settings => (none, (w.initGlobal settings).2)
  | .extractFields c => (none, (w.extractFields c).2)
  | .getFields via c => (none, (w.getFields via c).2)
  | .forget via c => (none, (w.forget via c).2)
  | .clear via => (none, w.clear via)
  | .buildDefinition via c config => (none, (w.buildDefinition via c config).2)
  | .definition c strict => (none, (w.definition c strict).2)

/-- What one act can do to the identities. -/
inductive Takes (w : World) : Option ClassId → World → Prop
  | none {v : World} (same : v.nextClass = w.nextClass) : Takes w none v
  | next {v : World} (next : v.nextClass = w.nextClass.next) : Takes w (some w.nextClass) v

theorem takes_buildRecord (w : World) (d : RecordDecl) :
    w.Takes ((w.buildRecord d).1.toOption.map RecordClass.id) (w.buildRecord d).2 := by
  cases hd : (w.buildRecord d).1 with
  | error e => exact .none (congrArg nextClass (buildRecord_refused hd))
  | ok c =>
    obtain ⟨hbuild, hnext⟩ := buildRecord_ok (Prod.ext hd rfl)
    have hid : (some c).map RecordClass.id = some w.nextClass :=
      congrArg some (RecordDecl.build_ok hbuild).id_eq
    exact hid ▸ .next hnext

theorem takes_buildStruct (w : World) (d : StructDecl) :
    w.Takes ((w.buildStruct d).1.toOption.map StructClass.id) (w.buildStruct d).2 := by
  cases hd : (w.buildStruct d).1 with
  | error e => exact .none (congrArg nextClass (buildStruct_refused hd))
  | ok c =>
    obtain ⟨hbuild, hnext⟩ := buildStruct_ok (Prod.ext hd rfl)
    have hid : (some c).map StructClass.id = some w.nextClass :=
      congrArg some (StructDecl.build_ok hbuild).2
    exact hid ▸ .next hnext

theorem takes_act (w : World) (a : Act) : w.Takes (w.act a).1 (w.act a).2 := by
  cases a with
  | record d => exact w.takes_buildRecord d
  | struct d => exact w.takes_buildStruct d
  | plain | foreign => exact .next rfl
  | place | factory | introspector | initGlobal => exact .none rfl
  | produce f => exact .none (w.produce_same f).2
  | defaultValue d =>
    apply Takes.none
    unfold World.act World.defaultValue
    simp only
    split
    · rfl
    · rfl
    · exact (w.produce_same _).2
  | extractFields c => exact .none (w.extractFields_same c).2
  | getFields via c => exact .none (w.nextClass_getFields via c)
  | forget via | clear via => exact .none (w.nextClass_setIntrospector via _)
  | buildDefinition via c config =>
    apply Takes.none
    rw [World.act, buildDefinition_snd, nextClass_getFields]
  | definition c strict =>
    apply Takes.none
    rcases w.definition_snd c strict with h | ⟨via, h⟩
    · rw [World.act, h]
    · rw [World.act, h, nextClass_getFields]

/-! ## A run -/

/-- The identities that are given out in turn, and the world at the end. -/
def acts (w : World) : List Act → List ClassId × World
  | [] => ([], w)
  | a :: rest =>
    let (id, v) := w.act a
    let (ids, u) := v.acts rest
    (id.toList ++ ids, u)

/-- The identities of a run are the next ones, each taken once and none left out. -/
theorem acts_ids (w : World) (run : List Act) : (w.acts run).1 =
    (List.range' w.nextClass.number (w.acts run).1.length).map ClassId.mk := by
  induction run generalizing w with
  | nil => rfl
  | cons a rest ih =>
    have hstep := w.takes_act a
    simp only [acts]
    generalize w.act a = made at hstep
    obtain ⟨id, v⟩ := made
    cases hstep with
    | none same =>
      -- The rest starts where this act did.
      rw [Option.toList_none, List.nil_append, ← same]
      exact ih v
    | next next =>
      have hrest := ih v
      rw [next] at hrest
      simp only [Option.toList_some, List.singleton_append, List.length_cons, List.range'_succ,
        List.map_cons]
      exact congrArg (w.nextClass :: ·) hrest

end FieldAtlas.World
