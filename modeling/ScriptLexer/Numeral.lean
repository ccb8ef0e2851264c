/-! Numerals: a run of decimal digits, and a fraction if a point and a digit come next. A point without a
digit after it is left alone, since it selects a member or belongs to a range. -/

namespace ScriptLexer.Numeral

def fraction : List Char → List Char
  | point :: c :: rest =>
    if point = '.' && c.isDigit then point :: c :: rest.takeWhile Char.isDigit else []
  | _ => []

def whole (input : List Char) : List Char :=
  input.takeWhile Char.isDigit

/-- The fraction after the whole part at the front of the input. -/
def part (input : List Char) : List Char :=
  fraction (input.drop (whole input).length)

def read (input : List Char) : List Char :=
  whole input ++ part input

theorem fraction_isPrefix (input : List Char) : fraction input <+: input := by
  unfold fraction
  split
  · split
    · simp [List.cons_prefix_cons, List.takeWhile_prefix]
    · exact List.nil_prefix
  · exact List.nil_prefix

theorem read_isPrefix (input : List Char) : read input <+: input := by
  obtain ⟨after, h⟩ := fraction_isPrefix (input.drop (whole input).length)
  refine ⟨after, ?_⟩
  rw [read, part, List.append_assoc, h]
  exact List.prefix_iff_eq_append.mp (List.takeWhile_prefix Char.isDigit)

end ScriptLexer.Numeral
