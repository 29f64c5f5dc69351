import FieldAtlas.Proofs.Declaration.Items
import Mathlib.Logic.Relation

/-!
# How items are grouped

It does not matter which items stand together in an attribute, nor which entries of the metadata
stand together in an item, nor which attributes for others stand between.
-/

namespace FieldAtlas

open FieldAtlas.Source FieldAtlas.Source.Reading

namespace Helper

/-! ## Metadata -/

/-- The metadata item with some entries. -/
def metadataItem (p opened : Pos) (entries : List Token) (closed : Pos) : List Token :=
  [.word p "metadata", .group .parens opened entries closed]

theorem metadataItem_ne_nil (p opened : Pos) (entries : List Token) (closed : Pos) :
    metadataItem p opened entries closed ≠ [] := List.cons_ne_nil _ _

section

variable {p opened closed : Pos} {es behind : List Token}

theorem run_one_metadata {α : Type} (read : NamePath → Reading α) :
    (one read).run (.ofTokens (metadataItem p opened es closed ++ behind) .start) =
      (read ⟨false, [(p, "metadata")]⟩).run
        ⟨.group .parens opened es closed :: behind, .start, [.word p "metadata"], none⟩ :=
  rfl

variable (rules : Grammar.Rules) (kind : DeclaredKind)

theorem setting_metadata : setting rules kind ⟨false, [(p, "metadata")]⟩ =
    FieldSetting.metadata <$> group .parens (list entry) := rfl

theorem classSetting_metadata : classSetting rules kind ⟨false, [(p, "metadata")]⟩ =
    refuse ⟨false, [(p, "metadata")]⟩ (.unknownKey kind) := rfl

theorem endsBefore_metadata :
    EndsBefore (setting rules kind) (metadataItem p opened es closed) behind := by
  refine ⟨fun {s d} hrun _ => ?_⟩
  rw [run_one_metadata, setting_metadata] at hrun
  obtain ⟨xs, hrun, -⟩ := run_map_ok_iff.mp hrun
  obtain ⟨_, _, _, rest, _, hgroup, -, rfl⟩ := run_group_ok_iff.mp hrun
  exact (List.cons.inj hgroup).2.symm

theorem whole?_metadata (hes : es ≠ []) :
    whole? (one (setting rules kind)) (metadataItem p opened es closed) =
      FieldSetting.metadata <$> listed? entry es := by
  have hlisted : listed? entry es = whole? (list entry) es := if_neg (by simpa using hes)
  have hinner (xs : List (String × Remark)) :=
    leaves_nil_iff_whole? (r := list entry) (c := ⟨es, closed, [], none⟩) (a := xs) rfl
  refine Option.ext fun s => ?_
  rw [hlisted, whole?, toOption_runAll_eq_some_iff, ← List.append_nil (metadataItem _ _ _ _),
    Leaves, run_one_metadata, setting_metadata]
  constructor
  · rintro ⟨d, hrun, -, hclean⟩
    obtain ⟨xs, hgroup, rfl⟩ := run_map_ok_iff.mp hrun
    obtain ⟨_, _, _, rest, i, hrest, hinside, rfl⟩ := run_group_ok_iff.mp hgroup
    cases hrest
    obtain ⟨hstray, hleft⟩ := Option.or_eq_none_iff.mp hclean
    have hxs := (hinner xs).mp ⟨i, hinside, by simpa using hleft, hstray⟩
    rw [hxs]
    rfl
  · intro hs
    obtain ⟨xs, hxs, rfl⟩ := Option.map_eq_some_iff.mp hs
    obtain ⟨i, hinside, hleft, hstray⟩ := (hinner xs).mpr hxs
    refine ⟨_, run_map_ok_iff.mpr ⟨xs, run_group_ok_iff.mpr
      ⟨_, _, _, _, i, rfl, hinside, rfl⟩, rfl⟩, rfl, ?_⟩
    simp [hstray, hleft]

theorem run_metadata_class_ne_ok {s : ClassSetting} {d : Cursor} :
    (one (classSetting rules kind)).run
      (.ofTokens (metadataItem p opened es closed ++ behind) .start) ≠ .ok (s, d) := by
  rw [run_one_metadata, classSetting_metadata]
  exact run_ne_ok

theorem whole?_metadata_class :
    whole? (one (classSetting rules kind)) (metadataItem p opened es closed) = none := by
  refine Option.eq_none_iff_forall_ne_some.mpr fun s hs => ?_
  obtain ⟨d, hrun, -⟩ := toOption_runAll_eq_some_iff.mp hs
  rw [← List.append_nil (metadataItem _ _ _ _)] at hrun
  exact run_metadata_class_ne_ok rules kind hrun

end

/-! ## Steps -/

/-- An item starts at `rest`, and other items with a comma behind each of them are in front. -/
inductive Starts {α : Type} (read : NamePath → Reading α) : List Token → List Token → Prop where
  | first {rest : List Token} : Starts read [] rest
  | behind {us : List Token} {k : Token} {rest : List Token} (between : Between read us k rest) :
      Starts read (us ++ [k]) rest

/-- One step that changes how the items for a kind of class are grouped. -/
inductive Regrouped {α : Type} (kind : DeclaredKind) (read : NamePath → Reading α) :
    List Attribute → List Attribute → Prop where
  /-- An attribute becomes two, which have its items in order. -/
  | split {path path₁ path₂ : NamePath} {e e₁ e₂ : Pos} {us vs : List Token} {k : Token}
      (helper : path.isName kind.helper = true) (helper₁ : path₁.isName kind.helper = true)
      (helper₂ : path₂.isName kind.helper = true) (between : Between read us k vs) :
      Regrouped kind read [⟨path, .list (us ++ k :: vs) e⟩]
        [⟨path₁, .list us e₁⟩, ⟨path₂, .list vs e₂⟩]
  /-- A metadata item becomes two, which have its entries in order. The items in front are the same
  in both forms. -/
  | metadata {path : NamePath} {e p p₁ p₂ o o₁ o₂ c c₁ c₂ : Pos} {front behind xs ys : List Token}
      {k l : Token} (helper : path.isName kind.helper = true)
      (between : Between entry xs k ys) (filled : ys ≠ []) (comma : l.isComma = true)
      (ends : Ends behind)
      (starts : Starts read front (metadataItem p o (xs ++ k :: ys) c ++ behind))
      (starts' : Starts read front
        (metadataItem p₁ o₁ xs c₁ ++ l :: (metadataItem p₂ o₂ ys c₂ ++ behind))) :
      Regrouped kind read
        [⟨path, .list (front ++ (metadataItem p o (xs ++ k :: ys) c ++ behind)) e⟩]
        [⟨path, .list (front ++
          (metadataItem p₁ o₁ xs c₁ ++ l :: (metadataItem p₂ o₂ ys c₂ ++ behind))) e⟩]
  /-- An attribute with another path is put in. -/
  | insert {a : Attribute} (other : a.path.isName kind.helper = false) : Regrouped kind read [] [a]
  /-- The attributes around stay as they are. -/
  | among {as bs : List Attribute} (before behind : List Attribute)
      (step : Regrouped kind read as bs) :
      Regrouped kind read (before ++ as ++ behind) (before ++ bs ++ behind)

/-! ## What attributes do -/

section

variable {σ α : Type}

/-- What an attribute says. -/
def said? (read : NamePath → Reading α) (a : Attribute) : Option (List α) :=
  match a.body with
  | .list content _ => listed? read content
  | _ => none

/-- What the attributes for a kind of class change together. -/
def effect? (kind : DeclaredKind) (read : NamePath → Reading α) (step : σ → α → σ)
    (as : List Attribute) : Option (σ → σ) := do
  let said ← (as.filter fun a => a.path.isName kind.helper).mapM (said? read)
  return fun s => said.flatten.foldl step s

variable {kind : DeclaredKind} {read : NamePath → Reading α} {step : σ → α → σ}

theorem effect?_append (as bs : List Attribute) : effect? kind read step (as ++ bs) = (do
    let f ← effect? kind read step as
    let g ← effect? kind read step bs
    return g ∘ f) := by
  unfold effect?
  rw [List.filter_append, List.mapM_append]
  simp only [bind_assoc, pure_bind]
  simp [List.foldl_append, Function.comp_def]

theorem effect?_one {path : NamePath} {content : List Token} {closed : Pos}
    (h : path.isName kind.helper = true) : effect? kind read step [⟨path, .list content closed⟩] =
      (listed? read content).map fun xs s => xs.foldl step s := by
  unfold effect?
  simp only [List.filter_cons, h, if_true, List.filter_nil, List.mapM_cons, said?]
  cases listed? read content <;> simp

theorem toOption_bind {ε α β : Type} (x : Except ε α) (f : α → Except ε β) :
    (x >>= f).toOption = x.toOption >>= fun a => (f a).toOption := by
  cases x <;> rfl

theorem toOption_map {ε α β : Type} (f : α → β) (x : Except ε α) :
    (f <$> x).toOption = f <$> x.toOption := by
  cases x <;> rfl

theorem toOption_mapM {ε α β : Type} (f : α → Except ε β) (as : List α) :
    (as.mapM f).toOption = as.mapM fun a => (f a).toOption := by
  induction as with
  | nil => rfl
  | cons a as ih =>
    rw [List.mapM_cons, List.mapM_cons, toOption_bind]
    refine bind_congr fun b => ?_
    rw [toOption_bind, ih]
    rfl

theorem toOption_listOf [SteadyItem read] (a : Attribute) :
    (listOf kind read a).toOption = said? read a := by
  unfold listOf said?
  cases a.body with
  | list content closed =>
    dsimp only [listed?]
    split
    · rfl
    · exact toOption_runAll (.refl true content) closed
  | _ => rfl

theorem toOption_listAll [SteadyItem read] (as : List Attribute) :
    (listAll kind read as).toOption.map (fun xs s => xs.foldl step s) =
      effect? kind read step as := by
  unfold listAll effect?
  have hlists : (fun a => (listOf kind read a).toOption) = said? read := funext toOption_listOf
  rw [toOption_map, toOption_mapM, hlists]
  cases (as.filter fun a => a.path.isName kind.helper).mapM (said? read) <;> rfl

theorem toOption_followAll {τ β : Type} {item : NamePath → τ → Reading τ}
    {read : NamePath → Reading β} {change : τ → β → τ} {f : τ → σ} {g : β → α}
    [SteadyItem fun path => g <$> read path]
    (hitem : ∀ path s, item path s = change s <$> read path)
    (hstep : ∀ s x, f (change s x) = step (f s) (g x)) (as : List Attribute) (s : τ) :
    (followAll kind item as s).toOption.map f =
      (effect? kind (fun path => g <$> read path) step as).map fun h => h (f s) := by
  have hfold (xs : List β) : f (xs.foldl change s) = (xs.map g).foldl step (f s) := by
    induction xs generalizing s with
    | nil => rfl
    | cons x xs ih => rw [List.foldl_cons, ih, hstep, List.map_cons, List.foldl_cons]
  rw [followAll_eq hitem, ← toOption_listAll, listAll_map, toOption_map, toOption_map]
  cases (listAll kind read as).toOption with
  | none => rfl
  | some xs => simp [hfold]

end

/-! ## Steps change nothing -/

/-- Metadata items may be divided. -/
class SplitsMetadata {σ α : Type} (read : NamePath → Reading α) (step : σ → α → σ) : Prop where
  ends : ∀ {p o c : Pos} {es behind : List Token}, EndsBefore read (metadataItem p o es c) behind
  split : ∀ (p p₁ p₂ o o₁ o₂ c c₁ c₂ : Pos) {xs ys : List Token} {k : Token},
    Between entry xs k ys → ys ≠ [] →
    ((whole? (one read) (metadataItem p o (xs ++ k :: ys) c)).map fun a s => step s a) = (do
      let a ← whole? (one read) (metadataItem p₁ o₁ xs c₁)
      let b ← whole? (one read) (metadataItem p₂ o₂ ys c₂)
      return fun s => step (step s a) b)

theorem map_foldl_divided {σ α : Type} {step : σ → α → σ} {x x₁ x₂ : Option α}
    (h : (x.map fun a s => step s a) = (do
      let a ← x₁
      let b ← x₂
      return fun s => step (step s a) b)) (front behind : Option (List α)) :
    ((do
      let as ← front
      let bs ← (do pure ((← x) :: (← behind)))
      return as ++ bs) : Option (List α)).map (fun xs s => xs.foldl step s) =
    ((do
      let as ← front
      let bs ← (do pure ((← x₁) :: (← (do pure ((← x₂) :: (← behind))))))
      return as ++ bs) : Option (List α)).map (fun xs s => xs.foldl step s) := by
  cases front <;> cases behind <;> cases x <;> cases x₁ <;> cases x₂ <;>
    simp_all [List.foldl_append, funext_iff]

theorem Starts.map {α β : Type} {read : NamePath → Reading α} (f : α → β) {front rest : List Token}
    (h : Starts read front rest) : Starts (fun path => f <$> read path) front rest := by
  cases h with
  | first => exact .first
  | behind between => exact .behind (between.map f)

theorem listed?_starts {α : Type} {read : NamePath → Reading α} [SteadyItem read]
    {front rest : List Token} (h : Starts read front rest) : listed? read (front ++ rest) =
      (do return (← listed? read front.dropLast) ++ (← listed? read rest)) := by
  cases h with
  | first => cases h : listed? read rest <;> simp [h]
  | behind between => rw [List.append_assoc, List.singleton_append, listed?_between between,
      List.dropLast_concat]

section

variable {σ α β : Type} {kind : DeclaredKind} {read : NamePath → Reading α} {f : α → β}
  {step : σ → β → σ} [SteadyItem fun path => f <$> read path]
  [hmetadata : SplitsMetadata (fun path => f <$> read path) step]

theorem effect?_regrouped {as bs : List Attribute} (h : Regrouped kind read as bs) :
    effect? kind (fun path => f <$> read path) step as =
      effect? kind (fun path => f <$> read path) step bs := by
  induction h with
  | @split path path₁ path₂ e e₁ e₂ us vs k helper helper₁ helper₂ between =>
    have hpair : [(⟨path₁, .list us e₁⟩ : Attribute), ⟨path₂, .list vs e₂⟩] =
        [⟨path₁, .list us e₁⟩] ++ [⟨path₂, .list vs e₂⟩] := rfl
    rw [hpair, effect?_append, effect?_one helper, effect?_one helper₁, effect?_one helper₂,
      listed?_between (between.map f)]
    cases listed? (fun path => f <$> read path) us <;>
      cases listed? (fun path => f <$> read path) vs <;>
      simp [List.foldl_append, Function.comp_def]
  | @metadata path e p p₁ p₂ o o₁ o₂ c c₁ c₂ front behind xs ys k l helper between filled comma ends
      starts starts' =>
    have hsplit := hmetadata.split p p₁ p₂ o o₁ o₂ c c₁ c₂ between filled
    rw [effect?_one helper, effect?_one helper, listed?_starts (starts.map f),
      listed?_starts (starts'.map f),
      listed?_item (metadataItem_ne_nil _ _ _ _) ends hmetadata.ends,
      listed?_item (metadataItem_ne_nil _ _ _ _) (.comma comma) hmetadata.ends, List.tail_cons,
      listed?_item (metadataItem_ne_nil _ _ _ _) ends hmetadata.ends]
    exact map_foldl_divided hsplit _ _
  | @insert a other =>
    unfold effect?
    simp [other]
  | among before behind _ ih =>
    rw [effect?_append, effect?_append, ih, effect?_append, effect?_append]

end

section

variable (rules : Grammar.Rules) (kind : DeclaredKind)

instance splitsMetadata_setting :
    SplitsMetadata (fun path => FieldSetting.unplaced <$> setting rules kind path)
      (fun f s => FieldSetting.apply f s) where
  ends := (endsBefore_metadata rules kind).map _
  split p p₁ p₂ o o₁ o₂ c c₁ c₂ {xs ys k} between filled := by
    have hall : xs ++ k :: ys ≠ [] := by simp
    rw [whole?_one_map, whole?_one_map, whole?_one_map, whole?_metadata rules kind hall,
      whole?_metadata rules kind between.filled, whole?_metadata rules kind filled,
      listed?_between between]
    cases listed? entry xs <;> cases listed? entry ys <;>
      simp [FieldSetting.unplaced, FieldSetting.apply]

instance splitsMetadata_classSetting :
    SplitsMetadata (fun path => ClassSetting.unplaced <$> classSetting rules kind path)
      (fun o s => ClassSetting.apply o s) where
  ends := EndsBefore.map _ ⟨fun hrun _ => absurd hrun (run_metadata_class_ne_ok rules kind)⟩
  split p p₁ p₂ o o₁ o₂ c c₁ c₂ {xs ys k} _ _ := by
    rw [whole?_one_map, whole?_one_map, whole?_metadata_class, whole?_metadata_class]
    rfl

end

end Helper

end FieldAtlas
