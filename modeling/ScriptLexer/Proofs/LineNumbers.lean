import ScriptLexer.Proofs.Progress

/-! Lines of tokens. All that a stream passes before a token counts alike for its line: trivia, reported line breaks
and comments, and the line breaks inside quoted text. So a token is on the line of its first character, and lines
never decrease. -/

namespace ScriptLexer.Lexer

variable {l : Lexer} {before after : List Emission} {e : Emission}

theorem rest_of_split (h : l.finished = false) (hsplit : l.emissions = before ++ e :: after) :
    l.cursor.rest = before.flatMap Emission.covered ++ e.gap ++ e.lexeme.text ++
      after.flatMap Emission.covered := by
  rw [← emissions_covered h, hsplit]
  simp [Emission.covered, List.append_assoc]

theorem line_of_split (h : l.finished = false) (hsplit : l.emissions = before ++ e :: after) :
    e.line = l.cursor.line + (before.flatMap Emission.covered ++ e.gap).count '\n' := by
  induction before generalizing l with
  | nil =>
    obtain rfl : l.pull.1 = e := (pulled_of_split h hsplit).1
    exact l.line_of_pull
  | cons first before ih =>
    cases he : l.pull.1.isEof with
    | true => simp [emissions_of_isEof h he] at hsplit
    | false =>
      rw [emissions_cons h he, List.cons_append, List.cons.injEq] at hsplit
      obtain ⟨rfl, htail⟩ := hsplit
      rw [ih (l := l.pull.2) h htail, pull_line]
      simp only [List.flatMap_cons, List.count_append]
      omega

theorem line_le_of_mem (h : l.finished = false) (he : e ∈ l.emissions) : l.cursor.line ≤ e.line := by
  obtain ⟨before, after, hsplit⟩ := List.append_of_mem he
  have hline := line_of_split h hsplit
  omega

theorem pairwise_line (h : l.finished = false) : l.emissions.Pairwise fun e e' => e.line ≤ e'.line := by
  induction l using pull_induction with
  | stop l he =>
    rw [emissions_of_isEof h he]
    exact List.pairwise_singleton _ _
  | step l he ih =>
    rw [emissions_cons h he]
    refine List.pairwise_cons.mpr ⟨fun e hmem => ?_, ih h⟩
    have hfirst := l.line_of_pull
    have hnext := line_le_of_mem (l := l.pull.2) h hmem
    rw [pull_line, Emission.covered, List.count_append] at hnext
    omega

/-- Where a pulled token stands in the text of a lexer that has passed `n` characters of it. -/
theorem place_of_pull {text gap rest : List Char} {c : Char} {n : Nat}
    (hcursor : l.cursor = (Cursor.ofText text).advanceN n) (htext : text.drop n = gap ++ c :: rest)
    (hgap : l.pull.1.gap = gap) : l.pull.1.position = n + gap.length ∧
      l.pull.1.line = 1 + (text.take (n + gap.length)).count '\n' := by
  have hpassed : l.cursor.HasPassed (text.take n) := hcursor ▸ (Cursor.ofText_hasPassed text).advanceN n
  have hn : n < text.length := by
    have hlength := congrArg List.length htext
    simp only [List.length_drop, List.length_append, List.length_cons] at hlength
    omega
  constructor
  · rw [position_of_pull, hpassed.position_eq, List.length_take_of_le (by omega), hgap]
  · rw [line_of_pull, hpassed.line_eq, hgap, List.take_add, htext, List.take_left, List.count_append]
    omega

/-- The line of a token is one more than the number of line breaks before its first character. So lines never
decrease, the end token is on the last line of the text, and all lines fit a word if that one does. -/
theorem emissions_line (text : List Char) (o : Options) (file : String) :
    let l := ofText text o file
    (∀ before e after, l.emissions = before ++ e :: after →
        let passed := before.flatMap Emission.covered ++ e.gap
        text = passed ++ e.lexeme.text ++ after.flatMap Emission.covered ∧
          e.token.line = 1 + passed.count '\n') ∧
      (l.emissions.map fun e => e.token.line).Pairwise (· ≤ ·) ∧
      (∃ tokens last, l.emissions.map Emission.token = tokens ++ [last] ∧ last.isEof = true ∧
        last.line = 1 + text.count '\n') ∧
      (1 + text.count '\n' < UInt32.size → ∀ e ∈ l.emissions, e.token.line < UInt32.size) := by
  intro l
  have hsplit : ∀ before e after, l.emissions = before ++ e :: after →
      text = before.flatMap Emission.covered ++ e.gap ++ e.lexeme.text ++ after.flatMap Emission.covered ∧
        e.line = 1 + (before.flatMap Emission.covered ++ e.gap).count '\n' :=
    fun _ _ _ h => ⟨rest_of_split rfl h, line_of_split rfl h⟩
  refine ⟨hsplit, List.pairwise_map.mpr (pairwise_line rfl), ?_, fun hsize e he => ?_⟩
  · obtain ⟨emissions, last, hend, -, hlast, -⟩ := emissions_end (l := l) rfl
    obtain ⟨htext, hline⟩ := hsplit _ _ _ hend
    have hempty : last.lexeme.text = [] := by
      obtain rfl := (pulled_of_split rfl hend).1
      exact (pull_isEof_iff _).mp hlast
    refine ⟨emissions.map Emission.token, last.token, by simp [hend], hlast, ?_⟩
    rw [hempty, List.append_nil, List.flatMap_nil, List.append_nil] at htext
    rw [htext]
    exact hline
  · obtain ⟨before, after, hmem⟩ := List.append_of_mem he
    obtain ⟨htext, hline⟩ := hsplit _ _ _ hmem
    have hcount := congrArg (List.count '\n') htext
    rw [List.append_assoc, List.count_append] at hcount
    have htoken : e.token.line = e.line := rfl
    omega

end ScriptLexer.Lexer
