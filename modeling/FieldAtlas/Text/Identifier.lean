import FieldAtlas.Text.Identifier.Table
import FieldAtlas.Text.Ranges

/-!
# Identifier characters

Which characters may start a name and which may go on with it.
-/

namespace FieldAtlas.Text.Identifier

/-- Letters and the underscore start a name. -/
def isStart (c : Char) : Bool :=
  if c.toNat < 128 then c.isAlpha || c == '_' else inRanges startRanges c.toNat

/-- Letters, digits, marks and the underscore go on with a name. -/
def isContinue (c : Char) : Bool :=
  if c.toNat < 128 then c.isAlphanum || c == '_' else inRanges continueRanges c.toNat

end FieldAtlas.Text.Identifier
