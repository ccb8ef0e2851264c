/-! Sets of code points given as ascending lists of closed ranges. The tables of character properties
are such lists, and looking a character up stops at the first range that lies beyond it. -/

namespace ScriptLexer.Unicode

/-- Whether a number lies in one of the ranges, which ascend. -/
def inRanges : List (Nat × Nat) → Nat → Bool
  | [], _ => false
  | (first, last) :: rest, n => if n < first then false else n ≤ last || inRanges rest n

end ScriptLexer.Unicode
