import ScriptLexer.Cursor

/-! What a cursor has passed since the start of its text settles its position and its line. -/

namespace ScriptLexer.Cursor

structure HasPassed (c : Cursor) (passed : List Char) : Prop where
  source_eq : c.source = passed ++ c.rest
  position_eq : c.position = passed.length
  line_eq : c.line = 1 + passed.count '\n'

theorem ofText_hasPassed (text : List Char) : (ofText text).HasPassed [] :=
  ⟨rfl, rfl, rfl⟩

variable {c : Cursor} {passed : List Char}

theorem HasPassed.advanceN (h : c.HasPassed passed) (n : Nat) :
    (c.advanceN n).HasPassed (passed ++ c.rest.take n) := by
  refine ⟨?_, ?_, ?_⟩
  · show c.source = (passed ++ c.rest.take n) ++ c.rest.drop n
    rw [List.append_assoc, List.take_append_drop, h.source_eq]
  · show c.position + (c.rest.take n).length = _
    rw [List.length_append, h.position_eq]
  · show c.line + (c.rest.take n).count '\n' = _
    rw [List.count_append, h.line_eq, Nat.add_assoc]

theorem HasPassed.size_eq (h : c.HasPassed passed) : c.size = c.position + c.rest.length := by
  rw [size, h.source_eq, List.length_append, h.position_eq]

theorem HasPassed.rest_eq (h : c.HasPassed passed) : c.rest = c.source.drop c.position := by
  rw [h.source_eq, h.position_eq, List.drop_left]

theorem HasPassed.getElem?_position (h : c.HasPassed passed) : c.source[c.position]? = c.rest.head? := by
  rw [h.source_eq, h.position_eq, List.getElem?_append_right (Nat.le_refl _), Nat.sub_self,
    List.head?_eq_getElem?]

theorem HasPassed.slice_advanceN (h : c.HasPassed passed) (n : Nat) :
    c.slice c.position (c.advanceN n).position = c.rest.take n := by
  have hposition := (h.advanceN n).position_eq
  have hsource : c.source = (passed ++ c.rest.take n) ++ c.rest.drop n := (h.advanceN n).source_eq
  rw [slice, hposition, hsource, List.take_left, h.position_eq, List.drop_left]

theorem position_le_advanceN (c : Cursor) (n : Nat) : c.position ≤ (c.advanceN n).position :=
  Nat.le_add_right _ _

end ScriptLexer.Cursor
