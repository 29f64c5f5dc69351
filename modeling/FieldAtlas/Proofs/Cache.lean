import FieldAtlas.Proofs.Request

/-!
# What is kept

What an introspector keeps for a class is told by what it was asked before: it is the list that was
found first since the class was last dropped. Nothing else leaves a trace, be it a failure, another
class or another introspector.
-/

namespace FieldAtlas

/-! ## The list that was found first -/

/-- An introspector keeps what was found first, and whatever was found later is that list again. -/
structure Introspector.Recalls (i : Introspector) (found : ClassId → List FieldList) : Prop where
  first : ∀ k, i.cached? k = if i.settings.cacheFields then (found k).getLast? else none
  again : i.settings.cacheFields = true → ∀ k, ∀ l ∈ found k, i.cached? k = some l

namespace Introspector

variable {i j : Introspector} {found : ClassId → List FieldList}

theorem recalls_new (settings : Settings) : (new settings).Recalls fun _ => [] :=
  ⟨fun _ => (ite_self none).symm, by simp⟩

theorem Recalls.gives (h : i.Recalls found) {id : ClassId} {number : Nat} {l : FieldList}
    (hj : i.Gives id number l j) : j.Recalls fun k => if k = id then l :: found k else found k := by
  constructor
  · intro k
    rw [hj.cached, hj.settings, h.first]
    by_cases hon : i.settings.cacheFields = true
    · by_cases hk : k = id
      · have hkept := hj.kept hon
        rw [h.first, if_pos hon] at hkept
        rw [if_pos ⟨hon, hk⟩, if_pos hon, if_pos hk, hk]
        -- The list is the first one to be found, or else the first one again.
        cases hlast : (found id).getLast? with
        | none => simp [List.getLast?_eq_none_iff.mp hlast]
        | some m => rw [List.getLast?_cons, hlast, hkept m hlast, Option.getD_some]
      · rw [if_neg (fun hand => hk hand.2), if_neg hk]
    · rw [if_neg (fun hand => hon hand.1), if_neg hon, if_neg hon]
  · rw [hj.settings]
    intro hon k m hm
    rw [hj.cached]
    by_cases hk : k = id
    · rw [if_pos ⟨hon, hk⟩]
      rw [if_pos hk, hk] at hm
      rcases List.mem_cons.mp hm with rfl | hm
      · rfl
      · rw [hj.kept hon m (h.again hon id m hm)]
    · rw [if_neg fun hand => hk hand.2]
      rw [if_neg hk] at hm
      exact h.again hon k m hm

theorem Recalls.forget (h : i.Recalls found) (id : ClassId) :
    (i.forget id).Recalls fun k => if k = id then [] else found k := by
  constructor
  · intro k
    rw [cached?_forget, h.first]
    by_cases hk : k = id <;> simp [hk, Introspector.forget]
  · intro hon k m hm
    rw [cached?_forget]
    by_cases hk : k = id
    · simp [hk] at hm
    · rw [if_neg hk] at hm ⊢
      exact h.again hon k m hm

theorem recalls_clear (i : Introspector) : i.clear.Recalls fun _ => [] :=
  ⟨by simp, by simp⟩

theorem Gives.list_eq {id : ClassId} {number : Nat} {l : FieldList} (h : i.Gives id number l j) :
    l.number = number ∨ i.cached? id = some l := by
  by_cases hnew : i.settings.cacheFields = true → i.cached? id = none
  · exact Or.inl (h.new hnew)
  · obtain ⟨hon, hsome⟩ := Classical.not_imp.mp hnew
    obtain ⟨m, hm⟩ := Option.ne_none_iff_exists'.mp hsome
    rw [h.kept hon m hm]
    exact Or.inr hm

end Introspector

namespace Request

variable {via : Option IntrospectorId} {id : ClassId} {r : Request}

theorem after_of_leaves (h : r.Leaves via id) (before : List FieldList) :
    r.after via id before = before := by
  unfold Leaves at h
  unfold after
  split at h
  · rw [if_neg h]
  · rw [if_neg h]
  · rw [if_neg h]
  · rfl

theorem mem_after {l : FieldList} {before : List FieldList} (h : l ∈ r.after via id before) :
    r.list? = some l ∨ l ∈ before := by
  unfold after at h
  split at h
  · split at h
    · rcases List.mem_cons.mp h with rfl | h
      · exact Or.inl rfl
      · exact Or.inr h
    · exact Or.inr h
  · split at h
    · cases h
    · exact Or.inr h
  · split at h
    · cases h
    · exact Or.inr h
  · exact Or.inr h

theorem exists_of_mem_found {rs : List Request} {l : FieldList} (h : l ∈ found via id rs) :
    ∃ r ∈ rs, r.list? = some l := by
  induction rs with
  | nil => cases h
  | cons r rs ih =>
    rcases mem_after h with h | h
    · exact ⟨r, List.mem_cons_self, h⟩
    · obtain ⟨q, hq, hl⟩ := ih h
      exact ⟨q, List.mem_cons_of_mem r hq, hl⟩

end Request

namespace World

/-- What the introspectors of a world keep is what the requests tell. -/
structure Remembers (w : World) (rs : List Request) : Prop where
  /-- Nothing was found where no introspector has been yet. -/
  nowhere : ∀ a, ¬ w.Has a → ∀ k, Request.found a k rs = []
  older : ∀ q ∈ rs, ∀ l, q.list? = some l → l.number < w.nextList
  recalls : ∀ a, w.Has a → (w.introspector a).Recalls fun k => Request.found a k rs

variable {w v : World} {via : Option IntrospectorId} {r : Request} {rs : List Request}

theorem Remembers.number_lt (h : w.Remembers rs) (known : w.Has via) {id : ClassId} {l : FieldList}
    (hl : (w.introspector via).cached? id = some l) : l.number < w.nextList := by
  rw [(h.recalls via known).first, Option.ite_none_right_eq_some] at hl
  obtain ⟨r, hr, hrl⟩ := Request.exists_of_mem_found (List.mem_of_getLast? hl.2)
  exact h.older r hr l hrl

theorem Remembers.older_cons (h : w.Remembers rs) (later : w.nextList ≤ v.nextList)
    (hr : ∀ l, r.list? = some l → l.number < v.nextList) :
    ∀ q ∈ r :: rs, ∀ l, q.list? = some l → l.number < v.nextList := by
  intro q hq l hl
  rcases List.mem_cons.mp hq with rfl | hq
  · exact hr l hl
  · exact Nat.lt_of_lt_of_le (h.older q hq l hl) later

theorem Remembers.became (h : w.Remembers rs) {j : Introspector} (became : w.Became via j v)
    (later : w.nextList ≤ v.nextList) (hr : ∀ l, r.list? = some l → l.number < v.nextList)
    (known : w.Has via) (elsewhere : ∀ a, a ≠ via → ∀ k, r.Leaves a k)
    (hj : j.Recalls fun k => Request.found via k (r :: rs)) : v.Remembers (r :: rs) := by
  refine ⟨?_, h.older_cons later hr, ?_⟩
  · intro a ha k
    rw [became.has] at ha
    have hne : a ≠ via := by
      rintro rfl
      exact ha known
    exact (Request.after_of_leaves (elsewhere a hne k) _).trans (h.nowhere a ha k)
  · intro a ha
    rw [became.has] at ha
    rw [became.introspector a ha]
    by_cases heq : a = via
    · rw [if_pos heq, heq]
      exact hj
    · rw [if_neg heq]
      have hfound : (fun k => Request.found a k (r :: rs)) = fun k => Request.found a k rs :=
        funext fun k => Request.after_of_leaves (elsewhere a heq k) _
      rw [hfound]
      exact h.recalls a ha

theorem Remembers.quiet (h : w.Remembers rs) (leaves : ∀ a k, r.Leaves a k)
    (same : w.SameIntrospectors v) (later : w.nextList ≤ v.nextList)
    (hr : ∀ l, r.list? = some l → l.number < v.nextList) : v.Remembers (r :: rs) := by
  have hfound : ∀ a k, Request.found a k (r :: rs) = Request.found a k rs :=
    fun a k => Request.after_of_leaves (leaves a k) _
  refine ⟨?_, h.older_cons later hr, ?_⟩
  · intro a ha k
    rw [has_of_same same] at ha
    rw [hfound, h.nowhere a ha k]
  · intro a ha
    rw [has_of_same same] at ha
    rw [introspector_of_same same]
    simp only [hfound]
    exact h.recalls a ha

theorem Remembers.newIntrospector (h : w.Remembers rs) (settings : Settings) :
    (w.newIntrospector settings).2.Remembers (.other :: rs) := by
  refine ⟨?_, h.older_cons (Nat.le_refl _) (by simp [Request.list?]), ?_⟩
  · intro a ha k
    rw [has_newIntrospector, not_or] at ha
    exact h.nowhere a ha.1 k
  · intro a ha
    rcases (has_newIntrospector w settings a).mp ha with ha | rfl
    · rw [introspector_newIntrospector_of_has ha]
      exact h.recalls a ha
    · -- No request has gone to it, so nothing was found there.
      rw [introspector_newIntrospector]
      have hfound : (fun k => Request.found (some (w.newIntrospector settings).1) k
          (.other :: rs)) = fun _ => [] := funext (h.nowhere _ (not_has_newIntrospector w settings))
      rw [hfound]
      exact Introspector.recalls_new settings

/-- One request keeps what is kept and what was found in step. -/
theorem Remembers.step (h : w.Remembers rs) (hv : w.Answers r v) : v.Remembers (r :: rs) := by
  cases hv.effect with
  | @found via id l j _ known gives became next =>
    have hnumber : l.number ≤ w.nextList := by
      rcases gives.list_eq with hnew | hkept
      · exact Nat.le_of_eq hnew
      · exact Nat.le_of_lt (h.number_lt known hkept)
    -- The list may be new, so that the next number has to grow.
    refine h.became became (by omega) ?_ known ?_ ?_
    · rintro m ⟨⟩
      omega
    · exact fun a ha k hand => ha hand.1.symm
    · simpa [Request.found, Request.after, eq_comm] using (h.recalls via known).gives gives
  | @forgot via id _ known became next =>
    refine h.became became (Nat.le_of_eq next.symm) (by simp [Request.list?]) known ?_ ?_
    · exact fun a ha k hand => ha hand.1.symm
    · simpa [Request.found, Request.after, eq_comm] using (h.recalls via known).forget id
  | @cleared via _ known became next =>
    refine h.became became (Nat.le_of_eq next.symm) (by simp [Request.list?]) known ?_ ?_
    · exact fun a ha k => Ne.symm ha
    · simpa [Request.found, Request.after] using (w.introspector via).recalls_clear
  | introspector settings => exact h.newIntrospector settings
  | quiet leaves same later new =>
    refine h.quiet leaves same later ?_
    intro l hl
    have := new l hl
    omega

theorem History.remembers (h : w.History rs) : w.Remembers rs := by
  induction h with
  | @start w global others =>
    refine ⟨fun _ _ _ => rfl, by simp, ?_⟩
    intro a ha
    have hcache : (w.introspector a).cache = [] := by
      cases a with
      | none => exact global
      | some id =>
        rw [Has, others] at ha
        exact absurd ha (Nat.not_lt_zero _)
    refine ⟨fun k => ?_, by simp [Request.found]⟩
    simp [Introspector.cached?, hcache, Request.found]
  | answer _ hv ih => exact ih.step hv

theorem Remembers.number_eq (h : w.Remembers rs) (known : w.Has via) {id : ClassId} {l : FieldList}
    (hv : w.Answers (.fields via id (.ok l)) v)
    (hnew : Request.found via id rs = [] ∨ (w.introspector via).settings.cacheFields = false) :
    l.number = w.nextList := by
  cases hv.effect with
  | found _ gives =>
    apply gives.new
    intro hon
    rcases hnew with hnone | hoff
    · rw [(h.recalls via known).first, if_pos hon, hnone]
      rfl
    · rw [hoff] at hon
      cases hon
  | quiet leaves => exact absurd ⟨rfl, rfl⟩ (leaves via id)

theorem Answers.settings (hv : w.Answers r v) (known : w.Has via) :
    v.Has via ∧ (v.introspector via).settings = (w.introspector via).settings := by
  have hbecame : ∀ {a j}, w.Became a j v → j.settings = (w.introspector a).settings →
      v.Has via ∧ (v.introspector via).settings = (w.introspector via).settings := by
    intro a j became hj
    refine ⟨(became.has via).mpr known, ?_⟩
    rw [became.introspector via known]
    by_cases heq : via = a
    · rw [if_pos heq, hj, heq]
    · rw [if_neg heq]
  cases hv.effect with
  | found _ gives became => exact hbecame became gives.settings
  | forgot _ became => exact hbecame became rfl
  | cleared _ became => exact hbecame became rfl
  | introspector settings =>
    refine ⟨(has_newIntrospector w settings via).mpr (Or.inl known), ?_⟩
    rw [introspector_newIntrospector_of_has known]
  | quiet _ same =>
    exact ⟨(has_of_same same via).mpr known, by rw [introspector_of_same same]⟩

end World

/-- With caching on, what is kept for a class is what was found first since the class was last
dropped, and all that was found later is that list again. With caching off nothing is kept. What is
found anew is no list that was handed out before. -/
theorem kept_as_found {rs : List Request} {w : World} (h : w.History rs)
    {via : Option IntrospectorId} (known : w.Has via) (id : ClassId) :
    let i := w.introspector via
    let found := Request.found via id rs
    (i.settings.cacheFields = true →
      i.cached? id = found.getLast? ∧ ∀ l ∈ found, i.cached? id = some l) ∧
    (i.settings.cacheFields = false → i.cached? id = none) ∧
    (∀ c config strict,
      (w.buildDefinition via c config).1 = (w.getFields via c).1.map
        (fun l => .ofFields c config i.settings.autoCamelCase l.fields) ∧
      (c.capability? = some ⟨config, via⟩ →
        (w.definition c strict).1 = (w.buildDefinition via c config).1.map some)) ∧
    ∀ r v, w.Answers r v →
      v.Has via ∧ (v.introspector via).settings = i.settings ∧
      (r.Leaves via id → (v.introspector via).cached? id = i.cached? id) ∧
      (∀ was, r = .forget via id was → was = (i.cached? id).isSome) ∧
      (∀ list, r = .kept via id list → list = i.cached? id) ∧
      (∀ l, r = .fields via id (.ok l) → found = [] ∨ i.settings.cacheFields = false →
        ∀ q ∈ rs, ∀ m, q.list? = some m → l.number ≠ m.number) := by
  intro i found
  have hw := h.remembers
  have hi := hw.recalls via known
  refine ⟨?_, ?_, ?_, ?_⟩
  · intro hon
    exact ⟨by rw [hi.first, if_pos hon], hi.again hon id⟩
  · intro hoff
    rw [hi.first, if_neg (by rw [hoff]; exact Bool.false_ne_true)]
  · intro c config strict
    constructor
    · rw [World.buildDefinition_fst]
      cases (w.getFields via c).1 <;> rfl
    · intro hcapable
      rw [World.definition_of_capability hcapable]
  · intro r v hv
    obtain ⟨hknown, hsettings⟩ := hv.settings known
    refine ⟨hknown, hsettings, ?_, ?_, ?_, ?_⟩
    · intro hleaves
      have hfound : Request.found via id (r :: rs) = found := Request.after_of_leaves hleaves _
      rw [((hw.step hv).recalls via hknown).first, hsettings, hfound, hi.first]
    · rintro was rfl
      cases hv with
      | forget => rfl
    · rintro list rfl
      cases hv with
      | cached => rfl
    · rintro l rfl hnew q hq m hm
      have hnumber := hw.number_eq known hv hnew
      have hlt := hw.older q hq m hm
      omega

/-! ## Two classes of one identity -/

namespace Twin

def point : StructClass :=
  ⟨⟨1⟩, "Point", [], [.plain "x" (.resolved "i64")], [], false,
    .ofFields 1 [.plain "x" (.resolved "i64")], [], false⟩

/-- The same class with a definition. -/
def shown : StructObject := ⟨point, .named "Point", none⟩

def start : World := .start ⟨2⟩ 1 []

def listed : World := (start.getFields none (.struct point)).2

def defined : World := (listed.definition (.object shown) true).2

def dropped : World := (defined.forget none (.struct point)).2

def asked : List Request :=
  [.fields none point.id (listed.getFields none (.object shown)).1,
    .fields none point.id (start.getFields none (.struct point)).1]

theorem history_defined : defined.History asked :=
  ((World.History.start rfl rfl).answer (.getFields start.has_global (.struct point))).answer
    (.definition (c := .object shown) (o := ⟨shown.config, none⟩) rfl listed.has_global true)

theorem history_dropped : dropped.History (.forget none point.id true :: asked) :=
  history_defined.answer (.forget defined.has_global (.struct point))

end Twin

open Twin in
/-- The definition of the object is made over the list that was found for its struct. Once that is
forgotten, a list is made that neither of them has seen. -/
theorem kept_as_found_twin : defined.History asked ∧ defined.Has none ∧
    (Request.found none point.id asked).map FieldList.number = [0, 0] ∧
    defined.global.cached? point.id = (Request.found none point.id asked).getLast? ∧
    dropped.History (.forget none point.id true :: asked) ∧ dropped.Has none ∧
    dropped.global.cached? point.id = none ∧
    ∃ l, (dropped.getFields none (.struct point)).1 = .ok l ∧
      ∀ q ∈ asked, ∀ m, q.list? = some m → l.number ≠ m.number := by
  obtain ⟨hkept, -, -, -⟩ := kept_as_found history_defined (World.has_global _) point.id
  obtain ⟨hdropped, -, -, hnext⟩ := kept_as_found history_dropped (World.has_global _) point.id
  refine ⟨history_defined, defined.has_global, rfl, (hkept rfl).1, history_dropped,
    dropped.has_global, (hdropped rfl).1, ?_⟩
  obtain ⟨-, -, -, -, -, hnew⟩ := hnext _ _ (.getFields dropped.has_global (.struct point))
  exact ⟨_, rfl, fun q hq m hm => hnew _ rfl (Or.inl rfl) q (List.mem_cons_of_mem _ hq) m hm⟩

end FieldAtlas
