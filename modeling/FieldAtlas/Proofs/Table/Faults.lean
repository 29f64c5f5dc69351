import FieldAtlas.Proofs.Table

/-!
# The first thing that is wrong with a table

Both checks of a table go through it once and stop at the first entry that does not fit what came
before it. What they report is found at that entry, with nothing wrong in front of it.
-/

namespace FieldAtlas.Table

variable {α σ ε : Type}

/-! ## Checks that go through a list -/

/-- A check that goes on from entry to entry while nothing is wrong, and knows from those before it
what `next` makes of them. -/
structure Scans (scan : σ → List α → Option ε) (next : σ → α → σ) : Prop where
  nil : ∀ s, scan s [] = none
  cons : ∀ s x xs, scan s (x :: xs) = (scan s [x]).or (scan (next s x) xs)

section

variable {scan : σ → List α → Option ε} {next : σ → α → σ} (h : Scans scan next)
include h

theorem Scans.append (s : σ) (before rest : List α) :
    scan s (before ++ rest) = (scan s before).or (scan (before.foldl next s) rest) := by
  induction before generalizing s with
  | nil => rw [List.nil_append, h.nil, Option.none_or, List.foldl_nil]
  | cons x xs ih => rw [List.cons_append, h.cons, ih, h.cons s x xs, Option.or_assoc, List.foldl_cons]

/-- What is found is found at one entry, and nothing in front of it. -/
theorem Scans.eq_some_iff (s : σ) (xs : List α) (e : ε) : scan s xs = some e ↔
    ∃ before x after, xs = before ++ x :: after ∧ scan s before = none ∧
      scan (before.foldl next s) [x] = some e := by
  constructor
  · intro hs
    induction xs generalizing s with
    | nil =>
      rw [h.nil] at hs
      cases hs
    | cons y ys ih =>
      rw [h.cons] at hs
      cases hy : scan s [y] with
      | some e' =>
        -- The first entry is the one, with nothing in front of it.
        rw [hy, Option.some_or] at hs
        exact ⟨[], y, ys, rfl, h.nil s, hy.trans hs⟩
      | none =>
        rw [hy, Option.none_or] at hs
        obtain ⟨before, x, after, rfl, hbefore, hx⟩ := ih (next s y) hs
        exact ⟨y :: before, x, after, rfl, by rw [h.cons, hy, hbefore]; rfl, hx⟩
  · rintro ⟨before, x, after, rfl, hbefore, hx⟩
    rw [h.append, hbefore, Option.none_or, h.cons, hx, Option.some_or]

end

/-! ## Own fields -/

section

variable (name : α → String) (both : α → Bool)

/-- The names are distinct, and no entry has both slots filled. -/
structure Sound (xs : List α) : Prop where
  distinct : (xs.map name).Nodup
  single : ∀ x ∈ xs, both x = false

/-- The entry at which a table stops being sound, and what is wrong there. A repeated name counts
before two filled slots. -/
inductive FirstUnsound (xs : List α) : OwnFault → α → Prop
  | duplicate {before after : List α} {x : α} (split : xs = before ++ x :: after)
      (sound : Sound name both before) (repeats : name x ∈ before.map name) :
      FirstUnsound xs .duplicate x
  | defaultAndFactory {before after : List α} {x : α} (split : xs = before ++ x :: after)
      (sound : Sound name both before) (new : name x ∉ before.map name) (filled : both x = true) :
      FirstUnsound xs .defaultAndFactory x

theorem ownFault?_nil_eq_none_iff (xs : List α) :
    ownFault? name both [] xs = none ↔ Sound name both xs := by
  rw [ownFault?_eq_none_iff]
  exact ⟨fun h => ⟨h.2.1, h.2.2⟩, fun h => ⟨by simp, h.distinct, h.single⟩⟩

theorem scans_ownFault? : Scans (ownFault? name both) fun seen x => seen ++ [name x] where
  nil _ := rfl
  cons seen x xs := by
    simp only [ownFault?]
    split_ifs <;> rfl

theorem ownFault?_eq_some_iff (xs : List α) (fault : OwnFault) (n : String) :
    ownFault? name both [] xs = some (fault, n) ↔
      ∃ x, FirstUnsound name both xs fault x ∧ name x = n := by
  have hseen (before : List α) :
      before.foldl (fun seen x => seen ++ [name x]) [] = before.map name := by
    rw [List.foldl_append_eq_append, List.nil_append, ← List.flatMap_def,
      ← List.map_eq_flatMap]
  rw [(scans_ownFault? name both).eq_some_iff]
  simp only [ownFault?_nil_eq_none_iff, hseen]
  constructor
  · rintro ⟨before, x, after, split, sound, hx⟩
    simp only [ownFault?] at hx
    split_ifs at hx with hname hboth
    · cases hx
      exact ⟨x, .duplicate split sound hname, rfl⟩
    · cases hx
      exact ⟨x, .defaultAndFactory split sound hname hboth, rfl⟩
  · rintro ⟨x, ⟨split, sound, repeats⟩ | ⟨split, sound, new, filled⟩, rfl⟩
    · exact ⟨_, x, _, split, sound, if_pos repeats⟩
    · exact ⟨_, x, _, split, sound, by rw [ownFault?, if_neg new, if_pos filled]⟩

theorem map_ownFault?_eq_some_iff (report : OwnFault → String → ε) (xs : List α) (e : ε) :
    (ownFault? name both [] xs).map (fun found => report found.1 found.2) = some e ↔
      ∃ fault x, FirstUnsound name both xs fault x ∧ e = report fault (name x) := by
  rw [Option.map_eq_some_iff]
  constructor
  · rintro ⟨⟨fault, n⟩, hfound, rfl⟩
    obtain ⟨x, first, rfl⟩ := (ownFault?_eq_some_iff name both xs fault n).mp hfound
    exact ⟨fault, x, first, rfl⟩
  · rintro ⟨fault, x, first, rfl⟩
    exact ⟨(fault, name x), (ownFault?_eq_some_iff name both xs fault _).mpr ⟨x, first, rfl⟩, rfl⟩

end

/-! ## Fields by position -/

section

variable (hasDefault : α → Bool)

/-- Behind an entry with a default, all have one. -/
def InOrder (xs : List α) : Prop :=
  xs.Pairwise fun x y => hasDefault x = true → hasDefault y = true

/-- The first entry without a default behind one that has a default. -/
inductive FirstMisplaced (xs : List α) : α → Prop
  | behind {before after : List α} {x y : α} (split : xs = before ++ y :: after)
      (ordered : InOrder hasDefault before) (mem : x ∈ before) (default : hasDefault x = true)
      (required : hasDefault y = false) : FirstMisplaced xs y

theorem misplaced?_false_eq_none_iff (xs : List α) :
    misplaced? hasDefault false xs = none ↔ InOrder hasDefault xs := by
  rw [misplaced?_eq_none_iff]
  exact ⟨fun h => h.2, fun h => ⟨nofun, h⟩⟩

theorem scans_misplaced? : Scans (misplaced? hasDefault) fun seen x => seen || hasDefault x where
  nil _ := rfl
  cons seen x xs := by
    cases hx : hasDefault x <;> cases seen <;> simp [misplaced?, hx]

theorem misplaced?_eq_some_iff (xs : List α) (y : α) :
    misplaced? hasDefault false xs = some y ↔ FirstMisplaced hasDefault xs y := by
  have hseen (before : List α) (seen : Bool) :
      before.foldl (fun seen x => seen || hasDefault x) seen = (seen || before.any hasDefault) := by
    induction before generalizing seen with
    | nil => simp
    | cons x xs ih => rw [List.foldl_cons, ih, List.any_cons, Bool.or_assoc]
  rw [(scans_misplaced? hasDefault).eq_some_iff]
  simp only [misplaced?_false_eq_none_iff, hseen, Bool.false_or]
  constructor
  · rintro ⟨before, z, after, split, ordered, hz⟩
    simp only [misplaced?] at hz
    split_ifs at hz with hdefault hany
    cases hz
    obtain ⟨x, hx, hxd⟩ := List.any_eq_true.mp hany
    exact ⟨split, ordered, hx, hxd, by simpa using hdefault⟩
  · rintro ⟨split, ordered, mem, default, required⟩
    have hany : _ = true := List.any_eq_true.mpr ⟨_, mem, default⟩
    refine ⟨_, y, _, split, ordered, ?_⟩
    rw [misplaced?, required, if_neg Bool.false_ne_true, if_pos hany]

end

end FieldAtlas.Table
