import FieldAtlas.Proofs.Declaration.Places
import FieldAtlas.Proofs.Source.Steady

/-!
# Steady items

What an item says does not depend on where it stands, nor on what stands behind the comma that ends
it, as long as that holds of the paths and expressions in it.
-/

namespace FieldAtlas

open FieldAtlas.Source FieldAtlas.Source.Reading

/-- What is written in a path. -/
def Source.NamePath.names (p : NamePath) : Bool × List String :=
  (p.leading, p.segments.map Prod.snd)

theorem Source.NamePath.name?_congr {p q : NamePath} (h : p.names = q.names) :
    p.name? = q.name? := by
  obtain ⟨leading, segments⟩ := p
  obtain ⟨leading', segments'⟩ := q
  obtain ⟨rfl, hnames⟩ := Prod.mk.inj h
  cases leading <;> rcases segments with _ | ⟨s, _ | ⟨t, segments⟩⟩ <;>
    rcases segments' with _ | ⟨s', _ | ⟨t', segments'⟩⟩ <;> simp_all [name?]

theorem Source.NamePath.isName_congr {p q : NamePath} (h : p.names = q.names) (name : String) :
    p.isName name = q.isName name := by
  obtain ⟨hleading, hnames⟩ := Prod.mk.inj h
  rw [isName, isName, hleading, hnames]

namespace Helper

/-! ## Steady items -/

instance forward_itemPath : Forward itemPath := by
  unfold itemPath
  infer_instance

section

variable {F : Frame} {c c' : Cursor} [hnear : Near F c c']

theorem steady_itemPath :
    SteadyAt F c c' (fun p p' => p.names = p'.names) itemPath itemPath := by
  unfold itemPath
  refine steady_bind (steady_punct? "::") ?_ fun _ => inferInstance
  rintro leading _ d d' rfl _
  refine steady_from (steady_ite_of (fun _ => ?_) steady_of_fails)
  refine steady_bind steady_anyWord ?_ fun _ => inferInstance
  intro w w' d d' hw _
  have hsegment : ∀ (c c' : Cursor) [Near F c c'], SteadyAt F c c' (fun w w' => w.2 = w'.2)
      (do punct "::"; anyWord) (do punct "::"; anyWord) := fun c c' _ =>
    steady_bind (steady_punct "::") (fun _ _ _ _ _ => steady_anyWord) fun _ => inferInstance
  have : Progress (do punct "::"; anyWord) := progress_behind
  refine steady_bind (steady_repeatWhile (fun _ _ _ => same_atPunct "::") hsegment) ?_
    fun _ => inferInstance
  intro ws ws' e e' hws _
  have hwords : ws.map Prod.snd = ws'.map Prod.snd := by
    rwa [← List.forall₂_eq_eq_eq, List.forall₂_map_left_iff, List.forall₂_map_right_iff]
  exact steady_pure (by simp [NamePath.names, hw, hwords])

/-! ## Values -/

instance forward_textValue : Forward textValue := by
  unfold textValue
  infer_instance

instance steady_textValue : SteadyAt F c c' Eq textValue textValue := by
  unfold textValue
  infer_instance

instance forward_truthValue : Forward truthValue := by
  unfold truthValue
  infer_instance

instance steady_truthValue : SteadyAt F c c' Eq truthValue truthValue := by
  unfold truthValue
  infer_instance

instance forward_forwardValue : Forward forwardValue := by
  unfold forwardValue
  infer_instance

instance steady_forwardValue : SteadyAt F c c' Eq forwardValue forwardValue := by
  unfold forwardValue
  infer_instance

end

/-! ## Lists of items -/

/-- What stands behind the path of an item is read alike for paths that are written alike. -/
class SteadyItem {α : Type} (read : NamePath → Reading α) : Prop where
  forward : ∀ path, Forward (read path)
  at_near : ∀ (F : Frame) (c c' : Cursor) [Near F c c'] {path path' : NamePath},
    path.names = path'.names → SteadyAt F c c' Eq (read path) (read path')

variable {α : Type}

/-- One item: its path, and what it says. -/
def one (read : NamePath → Reading α) : Reading α := do read (← itemPath)

theorem listWithin_succ (read : NamePath → Reading α) (limit : Nat) :
    listWithin read (limit + 1) = (do
      let a ← one read
      if (← get).atEnd then return [a]
      punct ","
      if (← get).atEnd then return [a]
      return a :: (← listWithin read limit)) := by
  rw [listWithin, one, bind_assoc]

section

variable {read : NamePath → Reading α} [hread : SteadyItem read]

instance steady_one : Steady (one read) where
  toForward := by
    have := hread.forward
    unfold one
    infer_instance
  at_near F c c' _ := steady_bind steady_itemPath
    (fun _ _ d d' hnames _ => hread.at_near F d d' hnames) hread.forward

instance forward_listWithin (limit : Nat) : Forward (listWithin read limit) := by
  induction limit with
  | zero => exact forward_pure []
  | succ limit ih =>
    rw [listWithin_succ]
    infer_instance

instance forward_list : Forward (list read) := by
  unfold list
  infer_instance

theorem steady_listWithin {F : Frame} {c c' : Cursor} [Near F c c'] [F.Closed] {limit limit' : Nat}
    (h : c.rest.length < limit) (h' : c'.rest.length < limit') :
    SteadyAt F c c' Eq (listWithin read limit) (listWithin read limit') := by
  induction limit generalizing limit' c c' with
  | zero => cases h
  | succ limit ih =>
  cases limit' with
  | zero => cases h'
  | succ limit' =>
  rw [listWithin_succ, listWithin_succ]
  refine steady_bind_run (steady_one.at_near F c c') ?_ fun _ => inferInstance
  rintro a _ d d' hrun hrun' rfl _
  refine steady_from (steady_ite_of (fun _ => inferInstance) ?_)
  refine steady_bind_run steady_comma ?_ fun _ => inferInstance
  rintro _ _ e e' hcomma hcomma' - _
  refine steady_from (steady_ite_of (fun _ => inferInstance) ?_)
  have hread := (Forward.out hrun).1
  have hread' := (Forward.out hrun').1
  have hrest := progress_comma.out hcomma
  have hrest' := progress_comma.out hcomma'
  have hlist : SteadyAt F e e' Eq (listWithin read limit) (listWithin read limit') :=
    ih (by omega) (by omega)
  infer_instance

instance steady_list : SteadyInside (list read) where
  at_near F c c' _ _ := by
    unfold list
    exact steady_from
      (steady_listWithin (Nat.lt_succ_self _) (Nat.lt_succ_self _))

end

/-! ## Settings -/

instance fails_refuse (path : NamePath) (p : DeclarationProblem) :
    Fails (refuse path p : Reading α) := fails_failAt _ _

/-- The remark that a literal makes under a key. -/
def keyed (path : NamePath) (key : String) (value : Literal × List Token) :
    Reading (String × Remark) :=
  match remark? (String.join (Token.textsOf value.2)) value.1 with
  | some r => return (unraw key, r)
  | none => refuse path .metadataValue

theorem entry_of_key {path : NamePath} {key : String} (h : path.name? = some key) :
    entry path = (do
      punct "="
      keyed path key (← written (literal "literal" some))) := by
  rw [entry, h]
  rfl

theorem entry_of_no_key {path : NamePath} (h : path.name? = none) :
    entry path = refuse path .metadataKey := by
  rw [entry, h]

instance forward_keyed (path : NamePath) (key : String) (value : Literal × List Token) :
    Forward (keyed path key value) := by
  unfold keyed
  split <;> infer_instance

theorem steady_keyed {F : Frame} {c c' : Cursor} [Near F c c'] (path path' : NamePath)
    (key : String) {value value' : Literal × List Token} (hvalue : value.1 = value'.1)
    (htexts : Token.textsOf value.2 = Token.textsOf value'.2) :
    SteadyAt F c c' Eq (keyed path key value) (keyed path' key value') := by
  unfold keyed
  rw [hvalue, htexts]
  split <;> infer_instance

instance steady_entry : SteadyItem entry where
  forward path := by
    cases hname : path.name? with
    | none =>
      rw [entry_of_no_key hname]
      infer_instance
    | some key =>
      rw [entry_of_key hname]
      infer_instance
  at_near F c c' _ path path' hnames := by
    have hname' := NamePath.name?_congr hnames
    cases hname : path.name? with
    | none =>
      rw [entry_of_no_key hname]
      exact steady_fails
    | some key =>
      rw [entry_of_key hname, entry_of_key (hname'.symm.trans hname)]
      refine steady_bind (steady_punct "=") (fun _ _ d d' _ _ => ?_) fun _ => inferInstance
      refine steady_bind (steady_written fun _ _ _ => steady_literal _ _) ?_
        fun _ => inferInstance
      rintro value value' e e' ⟨hvalue, htokens⟩ _
      exact steady_keyed path path' key hvalue htokens.textsOf_eq

end Helper

/-- The rules read the value of an item from its own tokens: they do not look over the comma that
ends the item, and where the tokens stand does not matter. -/
class Source.Grammar.Rules.SteadyValues (rules : Grammar.Rules) : Prop where
  path : Steady (Grammar.path rules false)
  expr : Steady (rules.expr true)

namespace Helper

section

variable (rules : Grammar.Rules) [hrules : rules.SteadyValues] (kind : DeclaredKind)
  {F : Frame} {c c' : Cursor} [Near F c c']

instance forward_pathValue : Forward (pathValue rules) := by
  have := hrules.path.toForward
  unfold pathValue
  infer_instance

theorem steady_pathValue : SteadyAt F c c'
    (fun a a' => a.1 = a'.1 ∧ Token.unplaced a.2 = Token.unplaced a'.2)
    (pathValue rules) (pathValue rules) := by
  have := hrules.path.toForward
  unfold pathValue
  refine steady_bind (steady_punct "=") (fun _ _ d d' _ _ => ?_) fun _ => inferInstance
  refine steady_bind (steady_written (hrules.path.at_near _)) ?_ fun _ => inferInstance
  rintro ⟨p, tokens⟩ ⟨_, tokens'⟩ e e' ⟨rfl, htokens⟩ _
  exact steady_pure ⟨rfl, Token.unplaced_congr htokens.textsOf_eq⟩

/-- The default that an expression stands for. -/
def defaultOf : Grammar.Shape × List Token → DefaultCode
  | (.text literal, _) => .text literal
  | (_, tokens) => .code tokens

omit hrules in
theorem defaultValue_eq : defaultValue rules = (do
    punct "="
    return defaultOf (← written (rules.expr true))) := by
  unfold defaultValue
  refine bind_congr fun _ => bind_congr ?_
  rintro ⟨shape, tokens⟩
  cases shape <;> rfl

instance forward_defaultValue : Forward (defaultValue rules) := by
  have := hrules.expr.toForward
  rw [defaultValue_eq]
  infer_instance

theorem steady_defaultValue : SteadyAt F c c' (fun d d' => d.unplaced = d'.unplaced)
    (defaultValue rules) (defaultValue rules) := by
  have := hrules.expr.toForward
  rw [defaultValue_eq]
  refine steady_bind (steady_punct "=") (fun _ _ d d' _ _ => ?_) fun _ => inferInstance
  refine steady_bind (steady_written (hrules.expr.at_near _)) ?_ fun _ => inferInstance
  rintro ⟨shape, tokens⟩ ⟨_, tokens'⟩ e e' ⟨rfl, htokens⟩ _
  have hcode : (DefaultCode.code tokens).unplaced = (DefaultCode.code tokens').unplaced :=
    congrArg DefaultCode.code (Token.unplaced_congr htokens.textsOf_eq)
  cases shape with
  | text literal => exact steady_pure rfl
  | _ => exact steady_pure hcode

instance forward_setting (path : NamePath) : Forward (setting rules kind path) := by
  unfold setting
  generalize path.name? = key
  split <;> infer_instance

theorem steady_setting_unplaced {path path' : NamePath} (h : path.names = path'.names) :
    SteadyAt F c c' (fun s s' => s.unplaced = s'.unplaced) (setting rules kind path)
      (setting rules kind path') := by
  have hsame {r r' : Reading FieldSetting} (h : SteadyAt F c c' Eq r r') :
      SteadyAt F c c' (fun s s' => s.unplaced = s'.unplaced) r r' :=
    steady_mono h fun _ _ h => congrArg _ h
  unfold setting
  rw [NamePath.name?_congr h]
  generalize path'.name? = key
  split
  · exact steady_bind (steady_defaultValue rules)
      (fun _ _ _ _ hd _ => steady_pure (congrArg FieldSetting.default hd)) fun _ => inferInstance
  · refine steady_bind (steady_pathValue rules) ?_ fun _ => inferInstance
    rintro ⟨names, tokens⟩ ⟨_, tokens'⟩ d d' ⟨rfl, htokens⟩ _
    exact steady_pure
      (congrArg (fun ts => FieldSetting.factory ⟨"::".intercalate names, ts⟩) htokens)
  · exact hsame inferInstance
  · exact hsame inferInstance
  · exact hsame inferInstance
  · exact hsame inferInstance
  · exact hsame inferInstance
  · exact hsame inferInstance
  · exact hsame inferInstance
  · exact hsame inferInstance
  · exact steady_of_fails

instance steady_setting :
    SteadyItem fun path => FieldSetting.unplaced <$> setting rules kind path where
  forward _ := inferInstance
  at_near _ _ _ _ _ _ hnames :=
    steady_map (steady_setting_unplaced rules kind hnames) fun _ _ h => h

instance forward_classSetting (path : NamePath) : Forward (classSetting rules kind path) := by
  unfold classSetting
  generalize path.name? = key
  split <;> infer_instance

theorem steady_classSetting_unplaced {path path' : NamePath} (h : path.names = path'.names) :
    SteadyAt F c c' (fun s s' => s.unplaced = s'.unplaced) (classSetting rules kind path)
      (classSetting rules kind path') := by
  have hsame {r r' : Reading ClassSetting} (h : SteadyAt F c c' Eq r r') :
      SteadyAt F c c' (fun s s' => s.unplaced = s'.unplaced) r r' :=
    steady_mono h fun _ _ h => congrArg _ h
  unfold classSetting
  rw [NamePath.name?_congr h]
  generalize path'.name? = key
  split
  · refine steady_bind (steady_pathValue rules) ?_ fun _ => inferInstance
    rintro ⟨names, tokens⟩ ⟨_, tokens'⟩ d d' ⟨-, htokens⟩ _
    exact steady_pure (congrArg ClassSetting.base htokens)
  · exact hsame inferInstance
  · exact hsame inferInstance
  · exact hsame inferInstance
  · exact hsame inferInstance
  · exact hsame inferInstance
  · exact hsame inferInstance
  · exact hsame inferInstance
  · exact steady_of_fails

instance steady_classSetting :
    SteadyItem fun path => ClassSetting.unplaced <$> classSetting rules kind path where
  forward _ := inferInstance
  at_near _ _ _ _ _ _ hnames :=
    steady_map (steady_classSetting_unplaced rules kind hnames) fun _ _ h => h

end

end Helper

end FieldAtlas
