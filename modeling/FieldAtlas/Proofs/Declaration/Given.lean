import FieldAtlas.Declaration.Build
import FieldAtlas.Proofs.Declaration.Reading
import Mathlib.Data.List.Induction

/-!
# What is said about a field

The items of the attributes of a field, read as one list of settings. What is declared about the
field is what that list comes to: of each key the last setting counts, and of the metadata every
entry is kept.
-/

namespace FieldAtlas

open FieldAtlas.Source FieldAtlas.Source.Reading

/-! ## The last of several -/

/-- The last thing of a kind, if there is any. -/
def lastOf {α β : Type} (pick : α → Option β) (xs : List α) : Option β :=
  (xs.filterMap pick).getLast?

theorem lastOf_concat {α β : Type} (pick : α → Option β) (xs : List α) (x : α) :
    lastOf pick (xs ++ [x]) = (pick x).or (lastOf pick xs) := by
  cases hx : pick x <;> simp [lastOf, hx]

/-! ## Results that are mapped -/

namespace Source.Reading

variable {α β : Type} (f : α → β) (r : Reading α)

theorem group_map (d : Delimiter) : group d (f <$> r) = f <$> group d r := by
  unfold group
  rw [map_bind]
  refine bind_congr fun c => ?_
  split
  · split
    · simp [map_bind, StateT.run_map]
    · rfl
  · rfl

theorem runAll_map (tokens : List Token) (stop : Pos) :
    runAll (f <$> r) tokens stop = f <$> runAll r tokens stop := by
  unfold runAll
  rw [StateT.run_map, map_bind, bind_map_left]
  refine bind_congr ?_
  rintro ⟨a, c⟩
  simp only
  split <;> rfl

end Source.Reading

namespace Helper

variable {σ α : Type}

/-- The items of `itemsWithin`, as a list. -/
def listWithin (read : NamePath → Reading α) : (limit : Nat) → Reading (List α)
  | 0 => return []
  | limit + 1 => do
    let path ← itemPath
    let a ← read path
    if (← get).atEnd then return [a]
    punct ","
    if (← get).atEnd then return [a]
    return a :: (← listWithin read limit)

def list (read : NamePath → Reading α) : Reading (List α) := do
  listWithin read ((← get).rest.length + 1)

/-- What the attributes that speak to a kind of class say, in order. -/
def listOf (kind : DeclaredKind) (read : NamePath → Reading α) (a : Attribute) :
    Except Fault (List α) :=
  match a.body with
  | .bare => throw (DeclarationProblem.fault (.bareHelper kind) a.path.pos)
  | .value equals => throw (DeclarationProblem.fault (.valuedHelper kind) equals)
  | .list content closed => if content.isEmpty then .ok [] else runAll (list read) content closed

def listAll (kind : DeclaredKind) (read : NamePath → Reading α) (attributes : List Attribute) :
    Except Fault (List α) :=
  List.flatten <$> (attributes.filter fun a => a.path.isName kind.helper).mapM (listOf kind read)

section

variable {item : NamePath → σ → Reading σ} {read : NamePath → Reading α} {step : σ → α → σ}
  (hitem : ∀ path s, item path s = step s <$> read path)
include hitem

theorem itemsWithin_eq (limit : Nat) (s : σ) :
    itemsWithin item limit s = List.foldl step s <$> listWithin read limit := by
  induction limit generalizing s with
  | zero => rfl
  | succ limit ih =>
    unfold itemsWithin listWithin
    simp only [hitem, ih, map_bind, bind_map_left]
    refine bind_congr fun path => bind_congr fun a => bind_congr fun c => ?_
    -- Behind an item is the end, or a comma and then perhaps the end.
    split
    · rfl
    rw [map_bind]
    refine bind_congr fun _ => ?_
    rw [map_bind]
    refine bind_congr fun c => ?_
    split
    · rfl
    · simp

theorem items_eq (s : σ) : items item s = List.foldl step s <$> list read := by
  unfold items list
  simp only [itemsWithin_eq hitem, map_bind]

theorem follow_eq (kind : DeclaredKind) (a : Attribute) (s : σ) :
    follow kind item a s = List.foldl step s <$> listOf kind read a := by
  unfold follow listOf
  cases a.body with
  | bare => rfl
  | value equals => rfl
  | list content closed =>
    simp only [items_eq hitem, runAll_map]
    split <;> rfl

theorem followAll_eq (kind : DeclaredKind) (attributes : List Attribute) (s : σ) :
    followAll kind item attributes s = List.foldl step s <$> listAll kind read attributes := by
  unfold followAll listAll
  induction attributes.filter _ generalizing s with
  | nil => rfl
  | cons a as ih =>
    rw [List.foldlM_cons, List.mapM_cons, follow_eq hitem]
    simp [ih, List.foldl_append]

end

end Helper

/-! ## Settings of a field -/

inductive Flag where
  | repr
  | compare
  | init
  | hash
  deriving DecidableEq

/-- One item of an attribute of a field. -/
inductive FieldSetting where
  | default (d : DefaultCode)
  | factory (f : FactoryCode)
  | flag (key : Flag) (b : Bool)
  | kwOnly
  | forward (f : ForwardName)
  | metadata (entries : List (String × Remark))
  | rename (name : String)

namespace FieldSetting

@[simp] def default? : FieldSetting → Option DefaultCode
  | default d => some d
  | _ => none

@[simp] def factory? : FieldSetting → Option FactoryCode
  | factory f => some f
  | _ => none

@[simp] def flag? (key : Flag) : FieldSetting → Option Bool
  | flag k b => if k = key then some b else none
  | _ => none

@[simp] def isKwOnly : FieldSetting → Bool
  | kwOnly => true
  | _ => false

@[simp] def forward? : FieldSetting → Option ForwardName
  | forward f => some f
  | _ => none

@[simp] def entries : FieldSetting → List (String × Remark)
  | metadata es => es
  | _ => []

@[simp] def rename? : FieldSetting → Option String
  | rename name => some name
  | _ => none

def apply (f : DeclaredField) : FieldSetting → DeclaredField
  | default d => { f with default := some d }
  | factory c => { f with factory := some c }
  | flag .repr b => { f with repr := some b }
  | flag .compare b => { f with compare := some b }
  | flag .init b => { f with init := some b }
  | flag .hash b => { f with hash := some b }
  | kwOnly => { f with kwOnly := true }
  | forward n => { f with forward := some n }
  | metadata es => { f with metadata := f.metadata ++ es }
  | rename name => { f with rename := some name }

end FieldSetting

namespace Helper

theorem map_refuse {α β : Type} (f : α → β) (path : NamePath) (p : DeclarationProblem) :
    f <$> refuse path p = refuse path p := rfl

def entry (path : NamePath) : Reading (String × Remark) := do
  match path.name? with
  | none => refuse path .metadataKey
  | some key =>
    punct "="
    let (value, tokens) ← written (literal "literal" some)
    match remark? (String.join (Token.textsOf tokens)) value with
    | some r => return (unraw key, r)
    | none => refuse path .metadataValue

theorem remark_eq (path : NamePath) (metadata : List (String × Remark)) :
    remark path metadata = (fun e => metadata ++ [e]) <$> entry path := by
  unfold remark entry
  cases path.name? with
  | none => rfl
  | some key =>
    simp only [map_bind]
    refine bind_congr fun _ => bind_congr ?_
    rintro ⟨value, tokens⟩
    cases remark? (String.join (Token.textsOf tokens)) value <;> rfl

variable (rules : Grammar.Rules)

def setting (kind : DeclaredKind) (path : NamePath) : Reading FieldSetting := do
  match path.name?, kind with
  | some "default", _ => return .default (← defaultValue rules)
  | some "default_factory", _ =>
    let (names, tokens) ← pathValue rules
    return .factory ⟨"::".intercalate names, tokens⟩
  | some "repr", _ => return .flag .repr (← truthValue)
  | some "compare", _ => return .flag .compare (← truthValue)
  | some "init", _ => return .flag .init (← truthValue)
  | some "hash", _ => return .flag .hash (← truthValue)
  | some "kw_only", _ => return .kwOnly
  | some "forward", _ => return .forward (← forwardValue)
  | some "metadata", _ => return .metadata (← group .parens (list entry))
  | some "rename", .compact => return .rename (← textValue)
  | _, _ => refuse path (.unknownFieldKey kind)

theorem fieldItem_eq (kind : DeclaredKind) (path : NamePath) (f : DeclaredField) :
    fieldItem rules kind path f = FieldSetting.apply f <$> setting rules kind path := by
  unfold fieldItem setting
  generalize path.name? = key
  split
  · simp [FieldSetting.apply]
  · simp [FieldSetting.apply]
  · simp [FieldSetting.apply]
  · simp [FieldSetting.apply]
  · simp [FieldSetting.apply]
  · simp [FieldSetting.apply]
  · rfl
  · simp [FieldSetting.apply]
  · rw [items_eq remark_eq, group_map]
    simp [FieldSetting.apply, ← List.flatMap_def]
  · simp [FieldSetting.apply]
  · simp only [*, map_refuse]

end Helper

/-! ## Fields with their settings -/

/-- A field of a definition: which one it is, how it is written, and all that is said about it. -/
structure GivenField where
  index : Nat
  item : FieldItem
  settings : List FieldSetting

namespace GivenField

section

variable (g : GivenField)

def last? {α : Type} (pick : FieldSetting → Option α) : Option α := lastOf pick g.settings

/-- The last literal that is given for a key of the metadata. -/
def lastRemark? (key : String) : Option Remark :=
  lastOf (fun e => if e.1 = key then some e.2 else none) (g.settings.flatMap FieldSetting.entries)

/-- The last value that is given for a key of the metadata. -/
def lastValue? (key : String) : Option Value :=
  lastOf (fun e => if e.1 = key then e.2.value? else none) (g.settings.flatMap FieldSetting.entries)

def kwOnly : Bool := g.settings.any FieldSetting.isKwOnly

def name : String := unraw g.item.name

/-- What is declared about the field. -/
def declared : DeclaredField where
  pos := g.item.pos
  ident := g.item.name
  type := g.item.type
  default := g.last? FieldSetting.default?
  factory := g.last? FieldSetting.factory?
  repr := g.last? (FieldSetting.flag? .repr)
  compare := g.last? (FieldSetting.flag? .compare)
  init := g.last? (FieldSetting.flag? .init)
  hash := g.last? (FieldSetting.flag? .hash)
  kwOnly := g.kwOnly
  rename := g.last? FieldSetting.rename?
  forward := g.last? FieldSetting.forward?
  metadata := g.settings.flatMap FieldSetting.entries

def plan (kind : DeclaredKind) : FieldPlan := g.declared.plan kind g.index

end

theorem declared_concat (index : Nat) (i : FieldItem) (settings : List FieldSetting)
    (s : FieldSetting) : declared ⟨index, i, settings ++ [s]⟩ =
      s.apply (declared ⟨index, i, settings⟩) := by
  cases s with
  | flag key b =>
    cases key <;> simp [declared, last?, kwOnly, lastOf_concat, FieldSetting.apply]
  | _ => simp [declared, last?, kwOnly, lastOf_concat, FieldSetting.apply]

theorem foldl_apply (index : Nat) (i : FieldItem) (settings : List FieldSetting) :
    settings.foldl (fun f s => s.apply f) (.plain i.pos i.name i.type) =
      declared ⟨index, i, settings⟩ := by
  -- From the back, since the last setting is followed last.
  induction settings using List.reverseRecOn with
  | nil => rfl
  | append_singleton settings s ih => rw [List.foldl_concat, ih, declared_concat]

section

variable (rules : Grammar.Rules) (kind : DeclaredKind)

def read (index : Nat) (i : FieldItem) : Except Fault GivenField :=
  GivenField.mk index i <$> Helper.listAll kind (Helper.setting rules kind) i.attributes

/-- The fields of a definition, in order. -/
def ofItem (i : Item) : Except Fault (List GivenField) := do
  (← DeclaredClass.fieldItems kind i).zipIdx.mapM fun e => read rules kind e.2 e.1

end

variable {rules : Grammar.Rules} {kind : DeclaredKind}

theorem read_of_ofItem {i : FieldItem} {f : DeclaredField}
    (h : DeclaredField.ofItem rules kind i = .ok f) (index : Nat) :
    ∃ g, read rules kind index i = .ok g ∧ g.index = index ∧ g.declared = f := by
  obtain ⟨hfollow, -⟩ := DeclaredField.ofItem_ok h
  rw [Helper.followAll_eq (Helper.fieldItem_eq rules kind)] at hfollow
  cases hsettings : Helper.listAll kind (Helper.setting rules kind) i.attributes with
  | error e =>
    rw [hsettings] at hfollow
    cases hfollow
  | ok settings =>
    rw [hsettings] at hfollow
    refine ⟨⟨index, i, settings⟩, by rw [read, hsettings]; rfl, rfl, ?_⟩
    rw [← foldl_apply]
    exact Except.ok.inj hfollow

theorem mapM_read_of_mapM_ofItem {items : List FieldItem} {fs : List DeclaredField}
    (h : items.mapM (DeclaredField.ofItem rules kind) = .ok fs) (n : Nat) :
    ∃ gs, (items.zipIdx n).mapM (fun e => read rules kind e.2 e.1) = .ok gs ∧
      gs.map declared = fs ∧ gs.map index = List.range' n gs.length := by
  induction items generalizing n fs with
  | nil =>
    obtain rfl := Except.ok.inj h
    exact ⟨[], rfl, rfl, rfl⟩
  | cons i items ih =>
    rw [List.mapM_cons] at h
    obtain ⟨f, hf, h⟩ := bind_ok_iff.mp h
    obtain ⟨fs', hfs, h⟩ := bind_ok_iff.mp h
    obtain rfl := Except.ok.inj h
    obtain ⟨g, hg, hindex, hdeclared⟩ := read_of_ofItem hf n
    obtain ⟨gs, hgs, hrest, hindices⟩ := ih hfs (n + 1)
    refine ⟨g :: gs, ?_, ?_, ?_⟩
    · rw [List.zipIdx_cons, List.mapM_cons, hg, hgs]
      rfl
    · rw [List.map_cons, hdeclared, hrest]
    · rw [List.map_cons, hindex, hindices]
      rfl

end GivenField

theorem Helper.ensures_fieldItem (rules : Grammar.Rules) (path : NamePath) {f : DeclaredField}
    (h : f.rename = none) :
    Ensures (fieldItem rules .record path f) fun f => f.rename = none := by
  unfold fieldItem
  split
  · exact ensures_of_rest fun _ => ensures_pure h
  · exact ensures_of_rest fun _ => ensures_pure h
  · exact ensures_of_rest fun _ => ensures_pure h
  · exact ensures_of_rest fun _ => ensures_pure h
  · exact ensures_of_rest fun _ => ensures_pure h
  · exact ensures_of_rest fun _ => ensures_pure h
  · exact ensures_pure h
  · exact ensures_of_rest fun _ => ensures_pure h
  · exact ensures_of_rest fun _ => ensures_pure h
  -- The key is for structs.
  · contradiction
  · exact ensures_failAt _ _

namespace DeclaredClass

/-- The fields of the class, each with all that is said about it. -/
structure GivenBy (c : DeclaredClass) (gs : List GivenField) : Prop where
  fields : gs.map GivenField.declared = c.fields
  indices : gs.map GivenField.index = List.range gs.length

namespace GivenBy

variable {c : DeclaredClass} {gs : List GivenField} (h : c.GivenBy gs)
include h

theorem index_eq {k : Nat} {g : GivenField} (hg : gs[k]? = some g) : g.index = k := by
  obtain ⟨hk, rfl⟩ := List.getElem?_eq_some_iff.mp hg
  have hindex := List.getElem_of_eq h.indices (i := k) (by simpa using hk)
  rwa [List.getElem_map, List.getElem_range] at hindex

theorem getElem?_fields {g : GivenField} (hg : g ∈ gs) : c.fields[g.index]? = some g.declared := by
  obtain ⟨k, hk⟩ := List.getElem?_of_mem hg
  rw [h.index_eq hk, ← h.fields, List.getElem?_map, hk]
  rfl

theorem plan_fields : c.plan.fields = gs.map fun g => g.plan c.kind := by
  have hfields : c.plan.fields = c.fields.mapIdx (DeclaredField.plan c.kind) := rfl
  rw [hfields, ← h.fields]
  apply List.ext_getElem?
  intro k
  rw [List.getElem?_mapIdx, List.getElem?_map, List.getElem?_map]
  cases hk : gs[k]? with
  | none => rfl
  | some g => simp [GivenField.plan, h.index_eq hk]

end GivenBy

theorem rename_of_parsed {rules : Grammar.Rules} {kind : DeclaredKind} {i : Item}
    {c : DeclaredClass} (h : parsed rules kind i = .ok c) (hkind : kind = .record) :
    ∀ f ∈ c.fields, f.rename = none := by
  obtain ⟨-, -, items, _, hfields⟩ := parsed_inv h
  intro f hf
  obtain ⟨j, _, hj⟩ := exists_of_mem_mapM hfields f hf
  rw [hkind] at hj
  exact Helper.followAll_ok (P := fun f => f.rename = none)
    (fun path f hf => Helper.ensures_fieldItem rules path hf) rfl (DeclaredField.ofItem_ok hj).1

theorem givenBy_of_parsed {rules : Grammar.Rules} {kind : DeclaredKind} {i : Item}
    {c : DeclaredClass} (h : parsed rules kind i = .ok c) :
    ∃ gs, GivenField.ofItem rules kind i = .ok gs ∧ c.GivenBy gs := by
  obtain ⟨-, -, items, hitems, hfields⟩ := parsed_inv h
  obtain ⟨gs, hgs, hdeclared, hindices⟩ := GivenField.mapM_read_of_mapM_ofItem hfields 0
  refine ⟨gs, ?_, hdeclared, ?_⟩
  · rw [GivenField.ofItem, hitems]
    exact hgs
  · rw [hindices, List.range_eq_range']

end DeclaredClass

end FieldAtlas
