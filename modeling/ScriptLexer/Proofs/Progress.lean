import ScriptLexer.Proofs.Tiling
import ScriptLexer.Proofs.Utf8Decoding

/-! Progress and the end of a stream. A pull passes a character of the text, or else nothing but trivia is left and
the end token comes, then and ever after. So a stream is no longer than its text, but for the end token. -/

namespace ScriptLexer

theorem isTrivia_iff_trivia_eq {o : Options} {input : List Char} :
    IsTrivia o none input ↔ trivia o false input = input := by
  constructor
  · intro h
    have hall : trivia o false (input ++ []) = _ := h.trivia_append
    rwa [List.append_nil, trivia, List.append_nil] at hall
  · intro h
    have htrivia := trivia_isTrivia o input
    rwa [h, List.drop_length] at htrivia

namespace Lexer

theorem pull_isEof_iff_isTrivia (l : Lexer) :
    l.pull.1.isEof = true ↔ IsTrivia l.options none l.cursor.rest := by
  have hsplit := trivia_append_drop l.options l.cursor.rest
  rw [pull_isEof_iff_start, start_rest, isTrivia_iff_trivia_eq]
  constructor
  · intro hrest
    rwa [hrest, List.append_nil] at hsplit
  · intro hall
    rw [hall, List.drop_length]

theorem pull_position_lt {l : Lexer} (he : l.pull.1.isEof = false) :
    l.cursor.position < l.pull.2.cursor.position := by
  have htext : l.pull.1.lexeme.text ≠ [] := fun hnil => by simp [(pull_isEof_iff l).mpr hnil] at he
  have hlength := List.length_pos_iff.mpr htext
  rw [pull_position, Emission.covered, List.length_append]
  omega

theorem pull_of_rest_nil {l : Lexer} (h : l.cursor.rest = []) :
    l.pull = (⟨[], .plain .eof [], l.cursor.position, l.cursor.line, l.context⟩, l) := by
  have hstart : l.start = l.cursor := by
    rw [start, h]
    exact Cursor.advanceN_zero l.cursor
  have hread : Lexeme.read l.context l.start.rest = .plain .eof [] := by
    rw [hstart, h]
    rfl
  rw [pull_eq, hread, hstart, h]
  have hstay : l.cursor.advanceN 0 = l.cursor := Cursor.advanceN_zero l.cursor
  exact Prod.ext rfl (by simp [Lexeme.plain, hstay, Context.after])

theorem pulled_of_rest_nil {l : Lexer} (h : l.cursor.rest = []) (m : Nat) : l.pulled m = l := by
  induction m with
  | zero => rfl
  | succ m ih => rw [pulled_succ, ih, pull_of_rest_nil h]

theorem pull_of_isEof {l : Lexer} (he : l.pull.1.isEof = true) :
    l.pull.2.context = l.context ∧ l.pull.2.pull.1.token = l.pull.1.token := by
  have hlexeme : l.pull.1.lexeme = .plain .eof [] := by
    rw [pull_lexeme, (pull_isEof_iff_start l).mp he]
    rfl
  have hcontext : l.pull.2.context = l.context := by
    rw [pull_context, hlexeme]
    rfl
  have hline : l.pull.2.cursor.line = l.pull.1.line := by
    rw [pull_cursor, hlexeme]
    exact congrArg Cursor.line (Cursor.advanceN_zero l.start)
  refine ⟨hcontext, ?_⟩
  rw [pull_of_rest_nil (pull_rest_of_isEof l he)]
  simp only [Emission.token, hlexeme, hline]

theorem pull_of_nul {l : Lexer} {after : List Char} (h : l.cursor.rest = '\x00' :: after) :
    l.pull.1.isEof = false := by
  apply Bool.eq_false_iff.mpr
  intro he
  have hall : IsTrivia l.options none ('\x00' :: after) := h ▸ l.pull_isEof_iff_isTrivia.mp he
  cases hall with
  | blank hc => exact absurd hc (by decide)

theorem emissions_end {l : Lexer} (h : l.finished = false) : ∃ emissions last,
    l.emissions = emissions ++ [last] ∧ emissions.length ≤ l.cursor.rest.length ∧ last.isEof = true ∧
      ∀ e ∈ emissions, e.isEof = false := by
  induction l using pull_induction with
  | stop l he =>
    exact ⟨[], l.pull.1, emissions_of_isEof h he, Nat.zero_le _, he, fun _ hmem => nomatch hmem⟩
  | step l he ih =>
    obtain ⟨emissions, last, hsplit, hlength, hlast, hothers⟩ := ih h
    have hlt := pull_rest_length_lt he
    refine ⟨l.pull.1 :: emissions, last, ?_, ?_, hlast, ?_⟩
    · rw [emissions_cons h he, hsplit, List.cons_append]
    · rw [List.length_cons]
      omega
    · exact List.forall_mem_cons.mpr ⟨he, hothers⟩

end Lexer

theorem tokenizeBytes_encode (text : List Char) (file : Option String) (o : Options) :
    tokenizeBytes (Utf8.encode text) file o =
      .ok ((Lexer.ofText text o (file.getD Lexer.defaultFile)).emissions.map Emission.token) := by
  rw [tokenizeBytes, Lexer.ofBytes, decodeSource, Utf8.decode_encode]
  rfl

theorem tokenizeBytes_end (text : List Char) (file : Option String) (o : Options) : ∃ tokens last,
    tokenizeBytes (Utf8.encode text) file o = .ok (tokens ++ [last]) ∧ tokens.length ≤ text.length ∧
      last.isEof = true ∧ ∀ t ∈ tokens, t.isEof = false := by
  obtain ⟨emissions, last, hsplit, hlength, hlast, hothers⟩ :=
    Lexer.emissions_end (l := .ofText text o (file.getD Lexer.defaultFile)) rfl
  refine ⟨emissions.map Emission.token, last.token, ?_, ?_, hlast, ?_⟩
  · rw [tokenizeBytes_encode, hsplit, List.map_append, List.map_singleton]
  · rw [List.length_map]
    exact hlength
  · exact List.forall_mem_map.mpr hothers

namespace Lexer

/-- Wherever a lexer stands and in whatever context, its next token is the end token just when trivia is all that
is left. Any other token takes it further; after the end token nothing changes any more. -/
theorem pull_progress (text : List Char) (n : Nat) (context : Context) (o : Options) (file : Option String)
    (finished : Bool) :
    let l : Lexer := ⟨(Cursor.ofText text).advanceN n, context, o, file.getD defaultFile, finished⟩
    (l.pull.1.isEof = true ↔ IsTrivia o none (text.drop n)) ∧
      (l.pull.1.isEof = false → l.cursor.position < l.pull.2.cursor.position) ∧
      (l.pull.1.isEof = true → l.pull.2.cursor.position = text.length ∧ l.pull.2.context = context ∧
        ∀ m, l.pulled (m + 1) = l.pull.2 ∧ (l.pulled (m + 1)).pull.1.token = l.pull.1.token) ∧
      (∀ after, text.drop n = '\x00' :: after → l.pull.1.isEof = false) ∧
      ∃ tokens last, tokenizeBytes (Utf8.encode text) file o = .ok (tokens ++ [last]) ∧
        tokens.length ≤ text.length ∧ last.isEof = true ∧ ∀ t ∈ tokens, t.isEof = false := by
  intro l
  refine ⟨l.pull_isEof_iff_isTrivia, pull_position_lt, fun he => ⟨?_, (pull_of_isEof he).1, fun m => ?_⟩,
    fun after hnul => pull_of_nul hnul, tokenizeBytes_end text file o⟩
  · have hpassed := (Cursor.ofText_hasPassed text).advanceN n
    have hsize := (pull_hasPassed hpassed (l := l)).2.size_eq
    rw [pull_rest_of_isEof l he] at hsize
    exact hsize.symm
  · have hstay : l.pulled (m + 1) = l.pull.2 := pulled_of_rest_nil (pull_rest_of_isEof l he) m
    rw [hstay]
    exact ⟨rfl, (pull_of_isEof he).2⟩

end Lexer

end ScriptLexer
