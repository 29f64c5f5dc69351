import FieldAtlas.Text.Printable.Table
import FieldAtlas.Text.Ranges

/-!
# Printable characters

Which characters can be shown as they are.
-/

namespace FieldAtlas.Text.Printable

/-- The character has a printed form of its own. -/
def isPrintable (c : Char) : Bool :=
  if c.toNat < 128 then ' ' ≤ c && c ≤ '~' else !inRanges hiddenRanges c.toNat

/-- The character joins the one before it. -/
def isExtender (c : Char) : Bool :=
  128 ≤ c.toNat && inRanges extendRanges c.toNat

end FieldAtlas.Text.Printable
