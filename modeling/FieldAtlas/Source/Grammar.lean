import FieldAtlas.Source.Grammar.Statement

/-!
# The grammar

The rules, closed up. Each rule that calls another one without reading anything is near to one that
does, so that the number of tokens bounds the depth of the calls.
-/

namespace FieldAtlas.Source

namespace Grammar

/-- The rules over rules that work one level less deep. -/
def Rules.deeper (rules : Rules) : Rules where
  type := Grammar.type rules
  bound := Grammar.bound rules
  expr := Grammar.expr rules
  unary := Grammar.unary rules
  early := Grammar.early rules
  climb := Grammar.climb rules
  pattern := Grammar.pattern rules
  statements := Grammar.statements rules

/-- The rules up to a depth of calls. -/
def Rules.within : (depth : Nat) → Rules
  | 0 => .none
  | depth + 1 => (within depth).deeper

/-- The rules for `count` tokens. -/
def Rules.for (count : Nat) : Rules := within (8 * count + 16)

end Grammar

end FieldAtlas.Source
