import FieldAtlas.Proofs.Declaration.Steady

/-!
# Items one by one

A list of items is read as its items are, one by one. So it may be cut in two behind any of them.
-/

namespace FieldAtlas

open FieldAtlas.Source FieldAtlas.Source.Reading

namespace Source.Reading

variable {α : Type} {r : Reading α} {c c' : Cursor} {ts us behind behind' : List Token} {a : α}

/-! ## Readings up to what stands behind -/

/-- The reading comes to `a` and leaves `behind`, but no token in a group. -/
def Leaves (r : Reading α) (c : Cursor) (a : α) (behind : List Token) : Prop :=
  ∃ d, r.run c = .ok (a, d) ∧ d.rest = behind ∧ d.stray = none

theorem near_of_alike (hends : Ends behind) (hends' : Ends behind') (hc : c.rest = ts ++ behind)
    (hc' : c'.rest = us ++ behind') (halike : Alike true ts us)
    (hstray : c.stray.isSome = c'.stray.isSome) :
    Near ⟨behind, behind', hends, hends', c.taken, c'.taken⟩ c c' :=
  ⟨⟨ts, us, hc, hc', halike⟩, ⟨[], [], rfl, rfl, .nil⟩, hstray⟩

theorem Leaves.of_near {r' : Reading α} {F : Frame} (hnear : Near F c c')
    (hr : SteadyAt F c c' Eq r r') (h : Leaves r c a F.behind) : Leaves r' c' a F.behind' := by
  obtain ⟨d, hrun, hrest, hstray⟩ := h
  obtain hover | ⟨_, d', hrun', rfl, hd⟩ := hr.out hrun
  · exact absurd hover (by rw [Frame.Over, hrest]; exact Nat.lt_irrefl _)
  refine ⟨d', hrun', ?_, ?_⟩
  · obtain ⟨left, left', hleft, hleft', halike⟩ := hd.rest
    rw [hrest] at hleft
    obtain rfl := List.self_eq_append_left.mp hleft
    cases halike
    exact hleft'
  · have hsome := hd.stray
    rw [hstray] at hsome
    exact Option.not_isSome_iff_eq_none.mp (by rw [← hsome]; exact nofun)

theorem Leaves.clean [hr : Forward r] (h : Leaves r c a behind) : c.stray = none := by
  obtain ⟨d, hrun, -, hclean⟩ := h
  cases hstray : c.stray with
  | none => rfl
  | some f =>
    have hsome := (hr.out hrun).2 (by rw [hstray]; rfl)
    rw [hclean] at hsome
    cases hsome

theorem rest_eq_of_length_eq [hr : Steady r] {d : Cursor} (hends : Ends behind)
    (hc : c.rest = ts ++ behind) (hrun : r.run c = .ok (a, d))
    (hlength : d.rest.length = behind.length) : d.rest = behind := by
  have hnear := near_of_alike hends hends hc hc (.refl true ts) rfl
  obtain hover | ⟨_, d', hrun', -, hd⟩ := (hr.at_near _ c c).out hrun
  · exact absurd hover (by rw [Frame.Over, hlength]; exact Nat.lt_irrefl _)
  obtain ⟨left, -, hleft, -, -⟩ := hd.rest
  rw [hleft] at hlength ⊢
  obtain rfl := List.length_eq_zero_iff.mp (by simpa using hlength)
  rfl

/-- What a reading makes of all of some tokens, if it can read them. -/
def whole? (r : Reading α) (ts : List Token) : Option α := (runAll r ts .start).toOption

theorem runAll_ok_iff {stop : Pos} :
    runAll r ts stop = .ok a ↔ Leaves r (.ofTokens ts stop) a [] := by
  unfold runAll
  rw [bind_ok_iff, Prod.exists]
  constructor
  · rintro ⟨b, d, hrun, h⟩
    simp only at h
    split at h
    · cases h
    · rename_i hstray hrest
      exact ⟨d, Except.ok.inj h ▸ hrun, hrest, hstray⟩
    · cases h
  · rintro ⟨d, hrun, hrest, hstray⟩
    refine ⟨a, d, hrun, ?_⟩
    simp only [hrest, hstray]
    rfl

theorem toOption_runAll_eq_some_iff {stop : Pos} :
    (runAll r ts stop).toOption = some a ↔ Leaves r (.ofTokens ts stop) a [] := by
  rw [← runAll_ok_iff]
  cases runAll r ts stop <;> simp [Except.toOption]

/-- Up to a comma a reading does what it does in front of all there is. -/
theorem leaves_iff_whole? [hr : Steady r] (hends : Ends behind) (hc : c.rest = ts ++ behind)
    (hstray : c.stray = none) : Leaves r c a behind ↔ whole? r ts = some a := by
  rw [whole?, toOption_runAll_eq_some_iff]
  have hsame : c.stray.isSome = (Cursor.ofTokens ts .start).stray.isSome := by rw [hstray]; rfl
  have hall : (Cursor.ofTokens ts .start).rest = ts ++ [] := (List.append_nil ts).symm
  have hnear := near_of_alike hends .nil hc hall (.refl true ts) hsame
  have hnear' := near_of_alike .nil hends hall hc (.refl true ts) hsame.symm
  exact ⟨Leaves.of_near hnear (hr.at_near _ _ _), Leaves.of_near hnear' (hr.at_near _ _ _)⟩

section

variable [hr : SteadyInside r]

theorem Leaves.alike (h : Leaves r c a []) (halike : Alike true c.rest c'.rest)
    (hstray : c.stray.isSome = c'.stray.isSome) : Leaves r c' a [] := by
  have hnear := near_of_alike .nil .nil (List.append_nil _).symm (List.append_nil _).symm halike
    hstray
  have : Frame.Closed ⟨[], [], .nil, .nil, c.taken, c'.taken⟩ := ⟨rfl, rfl⟩
  exact Leaves.of_near hnear (hr.at_near _ _ _) h

theorem leaves_nil_iff_whole? (hstray : c.stray = none) :
    Leaves r c a [] ↔ whole? r c.rest = some a := by
  rw [whole?, toOption_runAll_eq_some_iff]
  have hsame : c.stray.isSome = (Cursor.ofTokens c.rest .start).stray.isSome := by rw [hstray]; rfl
  exact ⟨fun h => h.alike (.refl true _) hsame, fun h => h.alike (.refl true _) hsame.symm⟩

theorem toOption_runAll (h : Alike true ts us) (stop : Pos) :
    (runAll r ts stop).toOption = whole? r us := by
  refine Option.ext fun a => ?_
  rw [whole?, toOption_runAll_eq_some_iff, toOption_runAll_eq_some_iff]
  exact ⟨fun hleaves => hleaves.alike h rfl, fun hleaves => hleaves.alike h.symm rfl⟩

end

end Source.Reading

namespace Helper

variable {α β : Type} {read : NamePath → Reading α} {a behind : List Token}

/-! ## Lists of items -/

/-- What is made of all items of a list, of which there may be none. -/
def listed? (read : NamePath → Reading α) (ts : List Token) : Option (List α) :=
  if ts.isEmpty then some [] else whole? (list read) ts

@[simp] theorem listed?_nil : listed? read [] = some [] := rfl

/-- What follows an item in a list. -/
def afterItem (read : NamePath → Reading α) (limit : Nat) (x : α) : Reading (List α) := do
  if (← get).atEnd then return [x]
  punct ","
  if (← get).atEnd then return [x]
  return x :: (← listWithin read limit)

variable {limit : Nat} {x : α} {xs : List α} {d : Cursor}

theorem leaves_listWithin_iff [SteadyItem read] (hlimit : d.rest.length < limit)
    (hrest : d.rest ≠ []) : Leaves (listWithin read limit) d xs [] ↔ d.stray = none ∧ listed? read d.rest = some xs := by
  have hnear := near_of_alike .nil .nil (List.append_nil _).symm (List.append_nil _).symm
    (.refl true d.rest) rfl
  have : Frame.Closed ⟨[], [], .nil, .nil, d.taken, d.taken⟩ := ⟨rfl, rfl⟩
  have hlist : Leaves (listWithin read limit) d xs [] ↔ Leaves (list read) d xs [] := by
    change _ ↔ Leaves (listWithin read (d.rest.length + 1)) d xs []
    exact ⟨Leaves.of_near hnear (steady_listWithin hlimit (Nat.lt_succ_self _)),
      Leaves.of_near hnear (steady_listWithin (Nat.lt_succ_self _) hlimit)⟩
  have hlisted : listed? read d.rest = whole? (list read) d.rest :=
    if_neg (by simpa using hrest)
  rw [hlist, hlisted]
  constructor
  · intro h
    exact ⟨h.clean, (leaves_nil_iff_whole? h.clean).mp h⟩
  · rintro ⟨hclean, h⟩
    exact (leaves_nil_iff_whole? hclean).mpr h

theorem ends_of_run_afterItem {e : Cursor} (h : (afterItem read limit x).run d = .ok (xs, e)) :
    Ends d.rest := by
  obtain ⟨rest, stop, taken, stray⟩ := d
  match rest with
  | [] => exact .nil
  | .punct _ mark _ :: _ =>
    by_cases hmark : mark = ','
    · exact .comma (by rw [hmark]; rfl)
    · simp [afterItem, Cursor.atEnd, punct, Cursor.atPunct, Cursor.startsWith] at h
      rw [if_neg (Ne.symm hmark)] at h
      cases h
  | .word .. :: _ => cases h
  | .literal .. :: _ => cases h
  | .group .. :: _ => cases h

theorem run_afterItem {k : Token} {more : List Token} (hrest : d.rest = k :: more)
    (hk : k.isComma = true) : (afterItem read limit x).run d =
      if more = [] then .ok ([x], d.advance 1)
      else ((x :: ·) <$> listWithin read limit).run (d.advance 1) := by
  obtain ⟨rest, stop, taken, stray⟩ := d
  obtain rfl := hrest
  obtain ⟨p, j, rfl⟩ : ∃ p j, k = .punct p ',' j := by
    unfold Token.isComma at hk
    split at hk
    · exact ⟨_, _, rfl⟩
    · cases hk
  cases more <;> rfl

theorem leaves_afterItem_iff [SteadyItem read] (hlimit : d.rest.length ≤ limit) :
    Leaves (afterItem read limit x) d xs [] ↔ d.stray = none ∧ Ends d.rest ∧
      ∃ xs', listed? read d.rest.tail = some xs' ∧ xs = x :: xs' := by
  cases hrest : d.rest with
  | nil =>
    obtain ⟨rest, stop, taken, stray⟩ := d
    obtain rfl := hrest
    constructor
    · rintro ⟨e, hrun, -, hclean⟩
      obtain ⟨rfl, rfl⟩ := Prod.mk.inj (Except.ok.inj hrun)
      exact ⟨hclean, .nil, [], rfl, rfl⟩
    · rintro ⟨hclean, -, xs', hxs', rfl⟩
      obtain rfl := Option.some.inj hxs'
      exact ⟨_, rfl, rfl, hclean⟩
  | cons k more =>
    cases hk : k.isComma with
    | false =>
      constructor
      · rintro ⟨e, hrun, -, -⟩
        have hends := ends_of_run_afterItem hrun k (by rw [hrest]; rfl)
        rw [hk] at hends
        cases hends
      · rintro ⟨-, hends, -⟩
        have hcomma := hends k rfl
        rw [hk] at hcomma
        cases hcomma
    | true =>
      have hmore : (d.advance 1).rest = more := by simp [Cursor.advance, hrest]
      have hclean : (d.advance 1).stray = d.stray := rfl
      have hends : Ends (k :: more) := .comma hk
      rw [Leaves, run_afterItem hrest hk, List.tail_cons]
      split
      · rename_i hempty
        rw [hempty]
        constructor
        · rintro ⟨e, hrun, -, hstray⟩
          obtain ⟨rfl, rfl⟩ := Prod.mk.inj (Except.ok.inj hrun)
          exact ⟨hstray, hends, [], rfl, rfl⟩
        · rintro ⟨hstray, -, xs', hxs', rfl⟩
          obtain rfl := Option.some.inj hxs'
          exact ⟨_, rfl, hmore.trans hempty, hstray⟩
      · rename_i hfilled
        have hlength : more.length < limit := by rw [hrest, List.length_cons] at hlimit; omega
        have hlist (xs' : List α) : Leaves (listWithin read limit) (d.advance 1) xs' [] ↔
            d.stray = none ∧ listed? read more = some xs' := by
          rw [leaves_listWithin_iff (by rwa [hmore]) (by rwa [hmore]), hclean, hmore]
        constructor
        · rintro ⟨e, hrun, hrest', hstray⟩
          obtain ⟨xs', hrun', rfl⟩ := run_map_ok_iff.mp hrun
          obtain ⟨hstray', hxs'⟩ := (hlist xs').mp ⟨e, hrun', hrest', hstray⟩
          exact ⟨hstray', hends, xs', hxs', rfl⟩
        · rintro ⟨hstray, -, xs', hxs', rfl⟩
          obtain ⟨e, hrun, hrest', hstray'⟩ := (hlist xs').mpr ⟨hstray, hxs'⟩
          exact ⟨e, run_map_ok_iff.mpr ⟨xs', hrun, rfl⟩, hrest', hstray'⟩

/-- An item first, and then the others. -/
theorem leaves_list_iff [SteadyItem read] {c : Cursor} :
    Leaves (list read) c xs [] ↔ ∃ x d xs', (one read).run c = .ok (x, d) ∧ d.stray = none ∧
      Ends d.rest ∧ listed? read d.rest.tail = some xs' ∧ xs = x :: xs' := by
  have hlist : (list read).run c = (one read >>= afterItem read c.rest.length).run c := by
    change (listWithin read (c.rest.length + 1)).run c = _
    rw [listWithin_succ]
    rfl
  constructor
  · rintro ⟨e, hrun, hrest, hstray⟩
    rw [hlist] at hrun
    obtain ⟨x, d, hone, hafter⟩ := run_bind_ok_iff.mp hrun
    obtain ⟨hclean, hends, xs', hxs'⟩ :=
      (leaves_afterItem_iff (Forward.out hone).1).mp ⟨e, hafter, hrest, hstray⟩
    exact ⟨x, d, xs', hone, hclean, hends, hxs'⟩
  · rintro ⟨x, d, xs', hone, hclean, hends, hxs'⟩
    obtain ⟨e, hafter, hrest, hstray⟩ :=
      (leaves_afterItem_iff (Forward.out hone).1).mpr ⟨hclean, hends, xs', hxs'⟩
    exact ⟨e, by rw [hlist]; exact run_bind_ok_iff.mpr ⟨x, d, hone, hafter⟩, hrest, hstray⟩

/-! ## Where items end -/

/-- If one item is read with a comma or nothing behind it, it is made of the tokens `a`. -/
structure EndsBefore (read : NamePath → Reading α) (a behind : List Token) : Prop where
  rest_eq : ∀ {x : α} {d : Cursor}, (one read).run (.ofTokens (a ++ behind) .start) = .ok (x, d) →
    Ends d.rest → d.rest = behind

theorem EndsBefore.of_run {x : α} {d : Cursor}
    (h : (one read).run (.ofTokens (a ++ behind) .start) = .ok (x, d)) (hd : d.rest = behind) :
    EndsBefore read a behind where
  rest_eq hrun _ := by
    rw [h] at hrun
    obtain ⟨-, rfl⟩ := Prod.mk.inj (Except.ok.inj hrun)
    exact hd

theorem listed?_item [SteadyItem read] (ha : a ≠ []) (hbehind : Ends behind)
    (h : EndsBefore read a behind) : listed? read (a ++ behind) =
      (do return (← whole? (one read) a) :: (← listed? read behind.tail)) := by
  have hfilled : listed? read (a ++ behind) = whole? (list read) (a ++ behind) :=
    if_neg (by simp [ha])
  refine Option.ext fun xs => ?_
  rw [hfilled, whole?, toOption_runAll_eq_some_iff, leaves_list_iff]
  have hone (x : α) := leaves_iff_whole? (r := one read) (c := .ofTokens (a ++ behind) .start)
    (a := x) hbehind rfl rfl
  constructor
  · rintro ⟨x, d, xs', hrun, hclean, hends, hxs', rfl⟩
    have hrest := h.rest_eq hrun hends
    have hx := (hone x).mp ⟨d, hrun, hrest, hclean⟩
    rw [hrest] at hxs'
    simp [hx, hxs']
  · intro hxs
    obtain ⟨x, hx, hothers⟩ := Option.bind_eq_some_iff.mp hxs
    obtain ⟨xs', hxs', hcons⟩ := Option.bind_eq_some_iff.mp hothers
    obtain ⟨d, hrun, rfl, hclean⟩ := (hone x).mpr hx
    exact ⟨x, d, xs', hrun, hclean, hbehind, hxs', (Option.some.inj hcons).symm⟩

/-- Where an item ends is not a matter of what stands behind a later comma. -/
theorem EndsBefore.left [SteadyItem read] {k : Token} {more : List Token} (hbehind : Ends behind)
    (hk : k.isComma = true) (h : EndsBefore read a (behind ++ k :: more)) :
    EndsBefore read a behind := by
  refine ⟨fun {x d} hrun hends => ?_⟩
  -- The cursor with the comma behind it, from where the item is read to the same end.
  let c := Cursor.ofTokens (a ++ behind) .start
  let c' := Cursor.ofTokens (a ++ (behind ++ k :: more)) .start
  have hnear : Near ⟨[], k :: more, .nil, .comma hk, c.taken, c'.taken⟩ c c' :=
    near_of_alike .nil (.comma hk) (List.append_nil _).symm (List.append_assoc a _ _).symm
      (.refl true _) rfl
  obtain hover | ⟨_, d', hrun', rfl, hd⟩ := (steady_one.at_near _ c c').out hrun
  · cases hover
  obtain ⟨ts, us, hts, hus, halike⟩ := hd.rest
  have hrest : us ++ k :: more = behind ++ k :: more := by
    have hends' : Ends (us ++ k :: more) := by
      rw [hts, List.append_nil] at hends
      cases hus' : us with
      | nil => exact .comma hk
      | cons u vs => exact fun v hv => hends.alike halike v (by rw [hus']; exact hv)
    rw [← hus] at hends' ⊢
    exact h.rest_eq hrun' hends'
  refine rest_eq_of_length_eq hbehind rfl hrun ?_
  rw [hts, List.append_nil, halike.length_eq, List.append_cancel_right hrest]

/-- The comma `k` stands between two items of a list, of which those in `us` come first. -/
inductive Between (read : NamePath → Reading α) : List Token → Token → List Token → Prop where
  | here {a : List Token} {k : Token} {vs : List Token} (filled : a ≠ []) (comma : k.isComma = true)
      (ends : EndsBefore read a (k :: vs)) : Between read a k vs
  | later {a : List Token} {l : Token} {us : List Token} {k : Token} {vs : List Token}
      (filled : a ≠ []) (comma : l.isComma = true)
      (ends : EndsBefore read a (l :: (us ++ k :: vs))) (rest : Between read us k vs) :
      Between read (a ++ l :: us) k vs

theorem Between.filled {us vs : List Token} {k : Token} (h : Between read us k vs) : us ≠ [] := by
  cases h with
  | here filled _ _ => exact filled
  | later filled _ _ _ => simp

theorem Between.comma {us vs : List Token} {k : Token} (h : Between read us k vs) :
    k.isComma = true := by
  induction h with
  | here _ comma _ => exact comma
  | later _ _ _ _ ih => exact ih

theorem listed?_between [SteadyItem read] {us vs : List Token} {k : Token}
    (h : Between read us k vs) : listed? read (us ++ k :: vs) =
      (do return (← listed? read us) ++ (← listed? read vs)) := by
  induction h with
  | @here a k vs filled comma ends =>
    have hleft : EndsBefore read a [] := ends.left .nil comma
    have hus := listed?_item filled .nil hleft
    rw [List.append_nil] at hus
    rw [listed?_item filled (.comma comma) ends, hus]
    cases whole? (one read) a <;> cases hvs : listed? read vs <;> simp [hvs, listed?_nil]
  | @later a l us k vs filled comma ends rest ih =>
    have hleft : EndsBefore read a (l :: us) := ends.left (.comma comma) rest.comma
    rw [List.append_assoc, List.cons_append, listed?_item filled (.comma comma) ends,
      listed?_item filled (.comma comma) hleft, List.tail_cons, List.tail_cons, ih]
    cases whole? (one read) a <;> cases listed? read us <;> cases listed? read vs <;> rfl

theorem listed?_alike [SteadyItem read] {ts us : List Token} (h : Alike true ts us) :
    listed? read ts = listed? read us := by
  have hwhole : whole? (list read) ts = whole? (list read) us := toOption_runAll h .start
  unfold listed?
  rw [hwhole]
  cases h <;> rfl

/-! ## What is made of what items say -/

theorem one_map (f : α → β) : (one fun path => f <$> read path) = f <$> one read := by
  unfold one
  rw [map_bind]

theorem whole?_one_map (f : α → β) (ts : List Token) :
    whole? (one fun path => f <$> read path) ts = f <$> whole? (one read) ts := by
  rw [one_map, whole?, whole?, runAll_map]
  cases runAll (one read) ts .start <;> rfl

theorem listAll_map (f : α → β) (kind : DeclaredKind) (as : List Attribute) :
    listAll kind (fun path => f <$> read path) as = List.map f <$> listAll kind read as := by
  let item (path : NamePath) (ys : List β) : Reading (List β) :=
    (fun x => ys ++ [f x]) <$> read path
  have hmapped : followAll kind item as [] =
      List.foldl (fun ys x => ys ++ [f x]) [] <$> listAll kind read as :=
    followAll_eq (fun _ _ => rfl) kind as []
  have hplain : followAll kind item as [] =
      List.foldl (fun ys y => ys ++ [y]) [] <$> listAll kind (fun path => f <$> read path) as :=
    followAll_eq (fun _ _ => by simp [item]) kind as []
  have hcollect {γ : Type} (g : γ → β) : List.foldl (fun ys x => ys ++ [g x]) [] = List.map g :=
    funext fun xs => by
      rw [List.foldl_append_eq_append, List.nil_append, ← List.flatMap_def, List.map_eq_flatMap]
  rw [hplain, hcollect f, hcollect fun y => y, List.map_id_fun', id_map] at hmapped
  exact hmapped

theorem EndsBefore.map (f : α → β) (h : EndsBefore read a behind) :
    EndsBefore (fun path => f <$> read path) a behind where
  rest_eq hrun hends := by
    rw [one_map] at hrun
    obtain ⟨x, hone, -⟩ := run_map_ok_iff.mp hrun
    exact h.rest_eq hone hends

theorem Between.map (f : α → β) {us vs : List Token} {k : Token} (h : Between read us k vs) :
    Between (fun path => f <$> read path) us k vs := by
  induction h with
  | here filled comma ends => exact .here filled comma (ends.map f)
  | later filled comma ends _ ih => exact .later filled comma (ends.map f) ih

end Helper

end FieldAtlas
