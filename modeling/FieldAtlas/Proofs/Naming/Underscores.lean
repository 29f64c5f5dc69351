import FieldAtlas.Proofs.Naming.SnakeCase

/-!
# Underscores in camel case

No case mapping makes an underscore. So those in a camel case name stand for the empty segments
behind the first one, each for one.
-/

namespace FieldAtlas

/-! ## Case mappings -/

namespace Text.CaseMap

/-- No code point of the run is mapped to `n`. -/
def CaseRun.avoids (n : Nat) (run : CaseRun) : Bool :=
  decide ((n : Int) < run.first + run.shift) || decide (run.last + run.shift < (n : Int))

theorem toNat_ne_of_avoids {run : CaseRun} {m n : Nat} (hrun : run.avoids n = true)
    (hm : run.has m = true) (hn : n ≠ 0) : ((m : Int) + run.shift).toNat ≠ n := by
  simp only [CaseRun.avoids, Bool.or_eq_true, decide_eq_true_eq] at hrun
  simp only [CaseRun.has, Bool.and_eq_true, decide_eq_true_eq] at hm
  omega

theorem toNat_eq_of_ofNat_eq_underscore {n : Nat} (h : Char.ofNat n = '_') : n = 95 := by
  have hcode : (Char.ofNat n).toNat = 95 := congrArg Char.toNat h
  by_cases hn : n.isValidChar
  · rwa [Char.ofNat, dif_pos hn] at hcode
  · rw [Char.ofNat, dif_neg hn] at hcode
    cases hcode

/-- Neither the runs nor the expansions lead to an underscore, so there is none outside ASCII. -/
theorem underscore_not_mem_mapped {runs : List CaseRun} {expansions : List (Nat × List Nat)}
    (hruns : runs.all (CaseRun.avoids 95) = true)
    (hexpansions : (expansions.all fun e => !e.2.contains 95) = true) {c : Char}
    (hc : ¬ c.toNat < 128) : '_' ∉ mapped runs expansions c := by
  unfold mapped
  split
  · rename_i cs hlookup
    intro hmem
    obtain ⟨n, hn, hunderscore⟩ := List.mem_map.mp hmem
    rw [toNat_eq_of_ofNat_eq_underscore hunderscore] at hn
    obtain ⟨before, after, hsplit, -⟩ := List.lookup_eq_some_iff.mp hlookup
    have hfree := List.all_eq_true.mp hexpansions (c.toNat, cs) (by simp [hsplit])
    rw [List.contains_iff_mem.mpr hn] at hfree
    cases hfree
  · split
    · rename_i run hrun
      intro hmem
      have hnum := toNat_eq_of_ofNat_eq_underscore (List.mem_singleton.mp hmem).symm
      have havoids := List.all_eq_true.mp hruns run (List.mem_of_find?_eq_some hrun)
      have hhas : run.has c.toNat = true := by simpa using List.find?_some hrun
      exact toNat_ne_of_avoids havoids hhas (by decide) hnum
    · intro hmem
      rw [← List.mem_singleton.mp hmem] at hc
      exact hc (by decide)

theorem underscore_not_mem_upper {c : Char} (h : c ≠ '_') : '_' ∉ upper c := by
  unfold upper
  split
  · rename_i hascii
    revert h
    exact Naming.ascii_all (P := fun c => c ≠ '_' → '_' ∉ [c.toUpper]) (by decide) hascii
  · rename_i hc
    exact underscore_not_mem_mapped (by decide) (by decide) hc

theorem underscore_not_mem_lower {c : Char} (h : c ≠ '_') : '_' ∉ lower c := by
  unfold lower
  split
  · rename_i hascii
    revert h
    exact Naming.ascii_all (P := fun c => c ≠ '_' → '_' ∉ [c.toLower]) (by decide) hascii
  · rename_i hc
    exact underscore_not_mem_mapped (by decide) (by decide) hc

theorem sigma_ne_underscore (before after : List Char) : '_' ≠ sigma before after := by
  unfold sigma
  split <;> decide

theorem underscore_not_mem_lowerAfter (before : List Char) {cs : List Char} (h : '_' ∉ cs) :
    '_' ∉ lowerAfter before cs := by
  induction cs generalizing before with
  | nil => exact List.not_mem_nil
  | cons c cs ih =>
    obtain ⟨hc, hcs⟩ := List.ne_and_not_mem_of_not_mem_cons h
    rw [lowerAfter, List.mem_append, not_or]
    refine ⟨?_, ih (c :: before) hcs⟩
    split
    · exact fun hmem => sigma_ne_underscore before cs (List.mem_singleton.mp hmem)
    · exact underscore_not_mem_lower hc.symm

end Text.CaseMap

/-! ## Segments -/

namespace Naming

open FieldAtlas.Text

theorem underscore_not_mem_of_mem_segments {cs s : List Char} (h : s ∈ segments cs) : '_' ∉ s := by
  induction cs generalizing s with
  | nil =>
    rw [List.mem_singleton.mp h]
    exact List.not_mem_nil
  | cons c cs ih =>
    rw [segments] at h
    split at h
    · rcases List.mem_cons.mp h with rfl | h
      · exact List.not_mem_nil
      · exact ih h
    · rename_i hc
      obtain ⟨first, rest, hsegments, -⟩ := segments_join cs
      rw [hsegments] at h ih
      rcases List.mem_cons.mp h with rfl | h
      · exact List.not_mem_cons_of_ne_of_not_mem (Ne.symm hc) (ih List.mem_cons_self)
      · exact ih (List.mem_cons_of_mem _ h)

theorem count_capitalized {s : List Char} (h : '_' ∉ s) :
    (capitalized s).count '_' = [s].count [] := by
  cases s with
  | nil => rfl
  | cons c cs =>
    obtain ⟨hc, hcs⟩ := List.ne_and_not_mem_of_not_mem_cons h
    rw [capitalized, CaseMap.lowerAll, List.count_append,
      List.count_eq_zero_of_not_mem (CaseMap.underscore_not_mem_upper hc.symm),
      List.count_eq_zero_of_not_mem (CaseMap.underscore_not_mem_lowerAfter [] hcs)]
    rfl

theorem count_flatMap_capitalized {ss : List (List Char)} (h : ∀ s ∈ ss, '_' ∉ s) :
    (ss.flatMap capitalized).count '_' = ss.count [] := by
  induction ss with
  | nil => rfl
  | cons s ss ih =>
    rw [List.forall_mem_cons] at h
    rw [List.flatMap_cons, List.count_append, count_capitalized h.1, ih h.2, ← List.count_append,
      List.singleton_append]

theorem count_camel (cs : List Char) :
    (camel cs).count '_' = (cs.splitOn '_').tail.count [] := by
  rw [← segments_eq_splitOn]
  obtain ⟨first, rest, hsegments, -⟩ := segments_join cs
  have hfree : ∀ s ∈ first :: rest, '_' ∉ s := by
    rw [← hsegments]
    exact fun s hs => underscore_not_mem_of_mem_segments hs
  rw [List.forall_mem_cons] at hfree
  rw [camel, hsegments, List.count_append, List.count_eq_zero_of_not_mem hfree.1, Nat.zero_add,
    count_flatMap_capitalized hfree.2, List.tail_cons]

theorem head?_segments_iff {cs : List Char} (h : '_' ∈ cs) :
    (segments cs).head? = some [] ↔ cs.head? = some '_' := by
  cases cs with
  | nil => cases h
  | cons c cs =>
    rw [segments, List.head?_cons, Option.some.injEq]
    by_cases hc : c = '_'
    · simp [hc]
    · obtain ⟨first, rest, hsegments, -⟩ := segments_join cs
      simp [hc, hsegments]

/-- Every empty segment but the first keeps its underscore, and there are no other ones. So none is
lost exactly if the name does not start with an underscore. -/
theorem empty_segments_kept {name : String} (h : '_' ∈ name.toList) :
    (toCamelCase name).toList.count '_' = (name.toList.splitOn '_').tail.count [] ∧
      ((toCamelCase name).toList.count '_' = (name.toList.splitOn '_').count [] ↔
        name.toList.head? ≠ some '_') := by
  have hcount := count_camel name.toList
  have hfirst := head?_segments_iff h
  rw [segments_eq_splitOn] at hfirst
  rw [toCamelCase, String.toList_ofList, hcount, ne_eq, ← hfirst]
  refine ⟨rfl, ?_⟩
  cases hsplit : name.toList.splitOn '_' with
  | nil => exact absurd hsplit (List.splitOn_ne_nil _ _)
  | cons first rest => simp [List.count_cons]

/-- Three empty segments, one of them in front, and letters outside ASCII. -/
theorem empty_segments_kept_each : '_' ∈ "_é__ß_".toList ∧ toCamelCase "_é__ß_" = "É_SS_" ∧
    ("_é__ß_".toList.splitOn '_').tail.count [] = 2 ∧
    ("É_SS_".toList.count '_' = ("_é__ß_".toList.splitOn '_').count [] ↔
      "_é__ß_".toList.head? ≠ some '_') := by
  have hmem : '_' ∈ "_é__ß_".toList := by decide
  have hcamel : toCamelCase "_é__ß_" = "É_SS_" := by decide
  obtain ⟨hcount, hiff⟩ := empty_segments_kept hmem
  rw [hcamel] at hcount hiff
  exact ⟨hmem, hcamel, hcount.symm.trans (by decide), hiff⟩

/-- The first segment of `_a` is empty and leaves no underscore. -/
theorem leading_underscore_lost : '_' ∈ "_a".toList ∧ "_a".toList.splitOn '_' = [[], ['a']] ∧
    toCamelCase "_a" = "A" ∧
    (toCamelCase "_a").toList.count '_' ≠ ("_a".toList.splitOn '_').count [] := by
  decide

end Naming

end FieldAtlas
