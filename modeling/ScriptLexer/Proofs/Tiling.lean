import ScriptLexer.Proofs.CursorRange
import ScriptLexer.Proofs.Stream

/-! The tokens of a stream tile the source: the trivia before each and its lexeme follow one upon the other
from the first character to the last. Only quoted text has a literal other than its text. -/

namespace ScriptLexer

/-- The token's gap and lexeme lie next to each other in the source, from one position to another, and are what
they should be there. The lexer stands for its source and its options. -/
structure Emission.Tiles (e : Emission) (l : Lexer) (start stop : Nat) : Prop where
  start_le : start ≤ e.position
  le_stop : e.position ≤ stop
  gap_eq : e.gap = l.cursor.slice start e.position
  text_eq : e.lexeme.text = l.cursor.slice e.position stop
  gap_isTrivia : IsTrivia l.options l.cursor.source[e.position]? e.gap
  literal_eq : e.lexeme.isQuoted = false → e.token.literal.toList = e.lexeme.text
  string_eq : e.lexeme.kind = .string →
    ∃ q body, e.lexeme.text = q.mark :: body ++ [q.mark] ∧ e.token.literal.toList = unescape q body
  unterminated_eq : e.lexeme.unterminated = true → e.lexeme.kind = .illegal ∧
    ∃ q body, e.lexeme.text = q.mark :: body ∧ e.token.literal.toList = unescape q body
  eof_eq : e.isEof = true → e.lexeme.text = [] ∧ e.position = l.cursor.size

namespace Lexer

theorem take_gap (l : Lexer) : l.cursor.rest.take l.pull.1.gap.length = l.pull.1.gap :=
  (List.prefix_iff_eq_take.mp (trivia_isPrefix l.options false l.cursor.rest)).symm

theorem take_text (l : Lexer) : l.start.rest.take l.pull.1.lexeme.text.length = l.pull.1.lexeme.text :=
  (List.prefix_iff_eq_take.mp (Lexeme.read_text_isPrefix l.context l.start.rest)).symm

theorem start_position (l : Lexer) : l.start.position = l.cursor.position + l.pull.1.gap.length := by
  have hpassed : l.start.position = l.cursor.position + (l.cursor.rest.take l.pull.1.gap.length).length := rfl
  rw [hpassed, take_gap]

theorem start_line (l : Lexer) : l.start.line = l.cursor.line + l.pull.1.gap.count '\n' := by
  have hpassed : l.start.line = l.cursor.line + (l.cursor.rest.take l.pull.1.gap.length).count '\n' := rfl
  rw [hpassed, take_gap]

theorem position_of_pull (l : Lexer) : l.pull.1.position = l.cursor.position + l.pull.1.gap.length :=
  start_position l

theorem line_of_pull (l : Lexer) : l.pull.1.line = l.cursor.line + l.pull.1.gap.count '\n' :=
  start_line l

theorem pull_position (l : Lexer) :
    l.pull.2.cursor.position = l.cursor.position + l.pull.1.covered.length := by
  have hpassed : l.pull.2.cursor.position =
      l.start.position + (l.start.rest.take l.pull.1.lexeme.text.length).length := rfl
  rw [hpassed, take_text, start_position, Emission.covered, List.length_append, Nat.add_assoc]

theorem pull_line (l : Lexer) : l.pull.2.cursor.line = l.cursor.line + l.pull.1.covered.count '\n' := by
  have hpassed : l.pull.2.cursor.line =
      l.start.line + (l.start.rest.take l.pull.1.lexeme.text.length).count '\n' := rfl
  rw [hpassed, take_text, start_line, Emission.covered, List.count_append, Nat.add_assoc]

/-- What a pull leaves is settled by the text it covers and by the kind of its token. -/
theorem pull_next {l : Lexer} {rest : List Char} (hrest : l.cursor.rest = l.pull.1.covered ++ rest) :
    l.pull.2 =
      { l with
        cursor :=
          { l.cursor with
            rest
            position := l.cursor.position + l.pull.1.covered.length
            line := l.cursor.line + l.pull.1.covered.count '\n' }
        context := l.context.after l.pull.1.lexeme.kind } := by
  have hnext : l.pull.2.cursor.rest = rest := by
    have hsplit : l.pull.1.covered ++ l.pull.2.cursor.rest = l.cursor.rest := l.pull_rest
    exact List.append_cancel_left (hsplit.trans hrest)
  have hcursor : l.pull.2.cursor =
      ⟨l.cursor.source, l.pull.2.cursor.rest, l.pull.2.cursor.position, l.pull.2.cursor.line⟩ := rfl
  rw [hnext, pull_position, pull_line] at hcursor
  have hpulled : l.pull.2 = ⟨l.pull.2.cursor, l.pull.2.context, l.options, l.file, l.finished⟩ := rfl
  rw [hpulled, hcursor, pull_context]

theorem pull_hasPassed {l : Lexer} {passed : List Char} (h : l.cursor.HasPassed passed) :
    l.start.HasPassed (passed ++ l.pull.1.gap) ∧
      l.pull.2.cursor.HasPassed (passed ++ l.pull.1.covered) := by
  have hstart : l.start.HasPassed (passed ++ l.cursor.rest.take l.pull.1.gap.length) := h.advanceN _
  rw [take_gap] at hstart
  have hstop := hstart.advanceN l.pull.1.lexeme.text.length
  rw [take_text, List.append_assoc] at hstop
  exact ⟨hstart, hstop⟩

theorem pull_tiles {l₀ l : Lexer} {passed : List Char} (hsource : l₀.cursor.source = l.cursor.source)
    (hoptions : l₀.options = l.options) (h : l.cursor.HasPassed passed) :
    l.pull.1.Tiles l₀ l.cursor.position l.pull.2.cursor.position := by
  have hstart := (pull_hasPassed h).1
  have hliteral : l.pull.1.token.literal.toList = l.pull.1.lexeme.literal := String.toList_ofList
  refine ⟨Cursor.position_le_advanceN _ _, Cursor.position_le_advanceN _ _, ?_, ?_, ?_, ?_, ?_, ?_, ?_⟩
  · have hslice := h.slice_advanceN l.pull.1.gap.length
    rw [take_gap, Cursor.slice, ← hsource] at hslice
    exact hslice.symm
  · have hslice := hstart.slice_advanceN l.pull.1.lexeme.text.length
    rw [take_text, Cursor.slice, start_source, ← hsource] at hslice
    exact hslice.symm
  · have hnext : l.cursor.source[l.pull.1.position]? = l.start.rest.head? := hstart.getElem?_position
    rw [hsource, hoptions, hnext]
    exact trivia_isTrivia l.options l.cursor.rest
  · intro hquoted
    rw [hliteral, l.pull_isLexeme.literal_eq_text hquoted]
  · intro hkind
    rw [hliteral]
    exact l.pull_isLexeme.string_eq hkind
  · intro hx
    obtain ⟨hkind, _, hquoted⟩ := l.pull_isLexeme.unterminated_eq hx
    rw [hliteral]
    exact ⟨hkind, hquoted⟩
  · intro he
    have hrest := (pull_isEof_iff_start l).mp he
    have hsize : l.cursor.size = l.pull.1.position + l.start.rest.length := hstart.size_eq
    rw [hrest, Cursor.size, ← hsource] at hsize
    exact ⟨(pull_isEof_iff l).mp he, hsize.symm⟩

theorem pulled_source (l : Lexer) (n : Nat) : (l.pulled n).cursor.source = l.cursor.source := by
  induction n generalizing l with
  | zero => rfl
  | succ n ih => exact ih l.pull.2

theorem pulled_options (l : Lexer) (n : Nat) : (l.pulled n).options = l.options := by
  induction n generalizing l with
  | zero => rfl
  | succ n ih => exact ih l.pull.2

theorem pulled_finished (l : Lexer) (n : Nat) : (l.pulled n).finished = l.finished := by
  induction n generalizing l with
  | zero => rfl
  | succ n ih => exact ih l.pull.2

theorem pulled_hasPassed {l : Lexer} {passed : List Char} (h : l.cursor.HasPassed passed) (n : Nat) :
    ∃ passed', (l.pulled n).cursor.HasPassed passed' := by
  induction n generalizing l passed with
  | zero => exact ⟨passed, h⟩
  | succ n ih => exact ih (pull_hasPassed h).2

theorem pulled_emissions_length {l : Lexer} (h : l.finished = false) :
    (l.pulled l.emissions.length).cursor.rest = [] := by
  induction l using pull_induction with
  | stop l he =>
    rw [emissions_of_isEof h he]
    exact pull_rest_of_isEof l he
  | step l he ih =>
    rw [emissions_cons h he]
    exact ih h

/-- The gaps and lexemes of a stream, in order, are the whole source, and each of them lies between the places
where the lexer stood before and after its token. -/
theorem emissions_tile (text : List Char) (o : Options) (file : String) :
    let l := ofText text o file
    l.emissions.flatMap (fun e => e.gap ++ e.lexeme.text) = text ∧
      (l.pulled l.emissions.length).cursor.position = text.length ∧
      ∀ n e, l.emissions[n]? = some e → (l.pulled n).pull.1 = e ∧
        e.Tiles l (l.pulled n).cursor.position (l.pulled (n + 1)).cursor.position := by
  intro l
  have hpassed : ∀ n, ∃ passed, (l.pulled n).cursor.HasPassed passed :=
    pulled_hasPassed (Cursor.ofText_hasPassed text)
  refine ⟨emissions_covered rfl, ?_, ?_⟩
  · obtain ⟨passed, hend⟩ := hpassed l.emissions.length
    have hsize := hend.size_eq
    rw [pulled_emissions_length rfl, Cursor.size, pulled_source] at hsize
    exact hsize.symm
  · intro n e he
    obtain ⟨passed, hplace⟩ := hpassed n
    obtain rfl : (l.pulled n).pull.1 = e := emissions_getElem? rfl he
    rw [pulled_succ]
    exact ⟨rfl, pull_tiles (pulled_source l n).symm (pulled_options l n).symm hplace⟩

end Lexer

end ScriptLexer
