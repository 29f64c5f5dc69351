import FieldAtlas.Text.CaseMap.Table
import FieldAtlas.Text.Ranges

/-!
# Case mapping

Upper case of one character, and lower case of a whole string, where a capital sigma at the end
of a word becomes the final small sigma. In ASCII both agree with the plain letter mapping.
-/

namespace FieldAtlas.Text.CaseMap

def CaseRun.has (run : CaseRun) (n : Nat) : Bool :=
  run.first ≤ n && n ≤ run.last && (n - run.first) % run.stride == 0

/-- The images of a code point outside ASCII: the expansion if there is one, else the run it is
in, else itself. -/
def mapped (runs : List CaseRun) (expansions : List (Nat × List Nat)) (c : Char) : List Char :=
  match expansions.lookup c.toNat with
  | some cs => cs.map Char.ofNat
  | none =>
    match runs.find? (·.has c.toNat) with
    | some run => [Char.ofNat (c.toNat + run.shift).toNat]
    | none => [c]

/-- The upper case of one character. -/
def upper (c : Char) : List Char :=
  if c.toNat < 128 then [c.toUpper] else mapped upperRuns upperExpansions c

/-- The lower case of one character that stands alone. -/
def lower (c : Char) : List Char :=
  if c.toNat < 128 then [c.toLower] else mapped lowerRuns lowerExpansions c

def isCased (c : Char) : Bool :=
  if c.toNat < 128 then c.isAlpha else inRanges casedRanges c.toNat

def isIgnorable (c : Char) : Bool :=
  if c.toNat < 128 then ['\'', '.', ':', '^', '`'].contains c
  else inRanges ignorableRanges c.toNat

/-- The nearest character that is not ignorable is cased. -/
def meetsCased (cs : List Char) : Bool :=
  match cs.dropWhile isIgnorable with
  | c :: _ => isCased c
  | [] => false

/-- A capital sigma ends a word when a cased character comes before it and none after it. -/
def sigma (before after : List Char) : Char :=
  if meetsCased before && !meetsCased after then 'ς' else 'σ'

/-- The lower case of `cs`, where `before` holds what has been read, nearest first. -/
def lowerAfter (before : List Char) : List Char → List Char
  | [] => []
  | c :: cs =>
    (if c = 'Σ' then [sigma before cs] else lower c) ++ lowerAfter (c :: before) cs

/-- The lower case of a string. -/
def lowerAll (cs : List Char) : List Char := lowerAfter [] cs

theorem upper_ascii {c : Char} (h : c.toNat < 128) : upper c = [c.toUpper] := if_pos h

theorem lower_ascii {c : Char} (h : c.toNat < 128) : lower c = [c.toLower] := if_pos h

theorem lowerAfter_ascii (before cs : List Char) (h : ∀ c ∈ cs, c.toNat < 128) :
    lowerAfter before cs = cs.map Char.toLower := by
  induction cs generalizing before with
  | nil => rfl
  | cons c cs ih =>
    have hc : c.toNat < 128 := h c List.mem_cons_self
    have hs : c ≠ 'Σ' := by
      rintro rfl
      exact absurd hc (by decide)
    have ht : ∀ d ∈ cs, d.toNat < 128 := fun d hd => h d (List.mem_cons_of_mem c hd)
    simp [lowerAfter, hs, lower_ascii hc, ih (c :: before) ht]

theorem lowerAll_ascii (cs : List Char) (h : ∀ c ∈ cs, c.toNat < 128) :
    lowerAll cs = cs.map Char.toLower :=
  lowerAfter_ascii [] cs h

end FieldAtlas.Text.CaseMap
