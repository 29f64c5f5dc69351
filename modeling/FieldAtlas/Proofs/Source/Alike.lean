import FieldAtlas.Source.Token

/-!
# Alike tokens

The same words, marks, literals and groups, wherever they stand. Spacing is a matter of marks only,
and of those in front of another mark: a comma is never a part of a longer one.
-/

namespace FieldAtlas.Source

def Token.isComma : Token → Bool
  | .punct _ ',' _ => true
  | _ => false

/-- A mark comes first that may be a part of a longer one. -/
def joins : List Token → Bool
  | .punct _ c _ :: _ => c != ','
  | _ => false

/-- The same tokens at other places. If `spaced`, the spacing between marks is the same too. -/
inductive Alike (spaced : Bool) : List Token → List Token → Prop where
  | nil : Alike spaced [] []
  | word {p q : Pos} {name : String} {ts us : List Token} (rest : Alike spaced ts us) :
      Alike spaced (.word p name :: ts) (.word q name :: us)
  | punct {p q : Pos} {c : Char} {j k : Bool} {ts us : List Token}
      (spacing : spaced = true → joins ts = true → j = k) (rest : Alike spaced ts us) :
      Alike spaced (.punct p c j :: ts) (.punct q c k :: us)
  | literal {p q : Pos} {text : String} {ts us : List Token} (rest : Alike spaced ts us) :
      Alike spaced (.literal p text :: ts) (.literal q text :: us)
  | group {d : Delimiter} {p q p' q' : Pos} {ts us ts' us' : List Token}
      (content : Alike spaced ts us) (rest : Alike spaced ts' us') :
      Alike spaced (.group d p ts q :: ts') (.group d p' us q' :: us')

namespace Alike

variable {spaced : Bool} {ts us vs ws : List Token}

theorem refl (spaced : Bool) : (ts : List Token) → Alike spaced ts ts
  | [] => .nil
  | .word .. :: ts => .word (refl spaced ts)
  | .punct .. :: ts => .punct (fun _ _ => rfl) (refl spaced ts)
  | .literal .. :: ts => .literal (refl spaced ts)
  | .group _ _ content _ :: ts => .group (refl spaced content) (refl spaced ts)

theorem joins_eq (h : Alike spaced ts us) : joins ts = joins us := by
  cases h <;> rfl

theorem symm (h : Alike spaced ts us) : Alike spaced us ts := by
  induction h with
  | nil => exact .nil
  | word _ ih => exact .word ih
  | punct spacing rest ih =>
    exact .punct (fun hs hj => (spacing hs (rest.joins_eq.trans hj)).symm) ih
  | literal _ ih => exact .literal ih
  | group _ _ ihContent ihRest => exact .group ihContent ihRest

theorem unspaced (h : Alike spaced ts us) : Alike false ts us := by
  induction h with
  | nil => exact .nil
  | word _ ih => exact .word ih
  | punct _ _ ih => exact .punct nofun ih
  | literal _ ih => exact .literal ih
  | group _ _ ihContent ihRest => exact .group ihContent ihRest

theorem length_eq (h : Alike spaced ts us) : ts.length = us.length := by
  induction h <;> simp_all

theorem textsOf_eq (h : Alike spaced ts us) : Token.textsOf ts = Token.textsOf us := by
  induction h with
  | nil => rfl
  | word _ ih => rw [Token.textsOf, Token.textsOf, ih]; rfl
  | punct _ _ ih => rw [Token.textsOf, Token.textsOf, ih]; rfl
  | literal _ ih => rw [Token.textsOf, Token.textsOf, ih]; rfl
  | group _ _ ihContent ihRest =>
    rw [Token.textsOf, Token.textsOf, Token.texts, Token.texts, ihContent, ihRest]

theorem append (h : Alike false ts us) (h' : Alike false vs ws) :
    Alike false (ts ++ vs) (us ++ ws) := by
  induction h with
  | nil => exact h'
  | word _ ih => exact .word ih
  | punct _ _ ih => exact .punct nofun ih
  | literal _ ih => exact .literal ih
  | group content _ _ ih => exact .group content ih

theorem reverse (h : Alike false ts us) : Alike false ts.reverse us.reverse := by
  induction h with
  | nil => exact .nil
  | word _ ih => simpa using ih.append (.word .nil)
  | punct _ _ ih => simpa using ih.append (.punct nofun .nil)
  | literal _ ih => simpa using ih.append (.literal .nil)
  | group content _ _ ih => simpa using ih.append (.group content .nil)

theorem drop (n : Nat) (h : Alike spaced ts us) : Alike spaced (ts.drop n) (us.drop n) := by
  induction h generalizing n with
  | nil => simpa using Alike.nil
  | _ =>
    rename_i rest ih
    cases n with
    | zero => constructor <;> assumption
    | succ n => exact ih n

theorem take (n : Nat) (h : Alike false ts us) : Alike false (ts.take n) (us.take n) := by
  induction h generalizing n with
  | nil => simpa using Alike.nil
  | word _ ih => cases n with
    | zero => exact .nil
    | succ n => exact .word (ih n)
  | punct _ _ ih => cases n with
    | zero => exact .nil
    | succ n => exact .punct nofun (ih n)
  | literal _ ih => cases n with
    | zero => exact .nil
    | succ n => exact .literal (ih n)
  | group content _ _ ih => cases n with
    | zero => exact .nil
    | succ n => exact .group content (ih n)

end Alike

end FieldAtlas.Source
