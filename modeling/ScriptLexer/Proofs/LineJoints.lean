import ScriptLexer.Proofs.LexemeBoundary
import ScriptLexer.Proofs.Progress

/-! Texts joined at a line break. What lies before a lexer in its text counts only for positions and lines, and a
line break behind a text is seen from it as its end was. So the tokens of the joined text are those of the first
one, the line break, and those of the second one on later lines. -/

namespace ScriptLexer

/-- Trivia behind a text is no more to the lexemes in it than the end of the text. -/
theorem IsApart.stopsLike_append {more : List Char} (h : IsApart more) (after : List Char) :
    StopsLike after (after ++ more) := by
  refine ⟨fun seen _ hmarks hfront => ?_, fun c _ _ hfront => hfront.trans (List.prefix_append after more)⟩
  rcases List.prefix_or_prefix_of_prefix hfront (List.prefix_append after more) with hseen | ⟨beyond, rfl⟩
  · exact hseen
  · rw [List.prefix_append_right_inj] at hfront
    cases beyond with
    | nil => simp
    | cons c beyond =>
      obtain ⟨rest, rfl⟩ := hfront
      exact absurd (h c rfl).mem (hmarks c (by simp))

theorem isApart_lineBreak (rest : List Char) : IsApart ('\n' :: rest) := by
  intro c hc
  obtain rfl : '\n' = c := Option.some.inj hc
  exact .inr (.inl ⟨rfl, rfl⟩)

theorem IsLexeme.endsComment {c : Context} {input after : List Char} {x : Lexeme} (h : IsLexeme c input x)
    (hinput : x.text ++ after = input) (hkind : x.kind = .comment) : endsComment after.head? := by
  obtain ⟨rest, rfl⟩ := List.head?_eq_some_iff.mp (h.head?_of_comment hkind)
  have hx : x = .comment ('#' :: rest) := h.read_eq.symm.trans IsLexeme.comment.read_eq
  have htext : (x.text ++ after).takeWhile (· ≠ '\n') = x.text := by
    rw [hinput, hx]
    rfl
  cases hafter : after.head? with
  | none => exact .inl rfl
  | some d => exact .inr (by simpa using (takeWhile_append_eq_iff.mp htext).2 d hafter)

theorem endsComment.or_lineBreak {next : Option Char} (h : endsComment next) :
    endsComment (next.or (some '\n')) := by
  rcases h with hnone | hbreak
  · rw [hnone]
    exact .inr rfl
  · rw [hbreak]
    exact .inr rfl

theorem IsTrivia.lineBreak_append {o : Options} {next : Option Char} {gap : List Char} (h : IsTrivia o none gap)
    (ho : o.newlines = false) : IsTrivia o next (gap ++ ['\n']) :=
  (h.of_next fun _ => .inr rfl).append (.lineBreak ho .nil)

def Token.laterBy (lines : Nat) (t : Token) : Token :=
  { t with line := t.line + lines }

/-- What is reported of a line break. -/
def lineBreakTokens (o : Options) (line : Nat) : List Token :=
  if o.newlines then [⟨.newline, "\n", line⟩] else []

def Emission.shift (positions lines : Nat) (e : Emission) : Emission :=
  { e with position := e.position + positions, line := e.line + lines }

namespace Lexer

/-- The second lexer stands before the text of the first one and more, in the same context, at a later place
and line. -/
structure Resumes (more : List Char) (positions lines : Nat) (l m : Lexer) : Prop where
  rest_eq : m.cursor.rest = l.cursor.rest ++ more
  position_eq : m.cursor.position = l.cursor.position + positions
  line_eq : m.cursor.line = l.cursor.line + lines
  context_eq : m.context = l.context
  options_eq : m.options = l.options
  unfinished : l.finished = false
  unfinished' : m.finished = false

section Resumes

variable {more : List Char} {positions lines : Nat} {l m : Lexer}

/-- Where the text behind changes neither the trivia nor the lexeme, the same token is pulled. -/
theorem Resumes.pull (h : Resumes more positions lines l m)
    (hgap : trivia l.options false (l.cursor.rest ++ more) = l.pull.1.gap)
    (hread : Lexeme.read l.context (l.start.rest ++ more) = l.pull.1.lexeme) :
    m.pull.1 = l.pull.1.shift positions lines ∧ Resumes more positions lines l.pull.2 m.pull.2 := by
  have hmgap : m.pull.1.gap = l.pull.1.gap := by
    rw [← hgap, ← h.rest_eq, ← h.options_eq]
    rfl
  have hmstart : m.start.rest = l.start.rest ++ more := by
    have hsplit := pull_gap_append_start m
    rw [h.rest_eq, ← pull_gap_append_start l, List.append_assoc, hmgap] at hsplit
    exact List.append_cancel_left hsplit
  have hlexeme : m.pull.1.lexeme = l.pull.1.lexeme := by
    rw [pull_lexeme, hmstart, h.context_eq, hread]
  have hcovered : m.pull.1.covered = l.pull.1.covered := by
    rw [Emission.covered, Emission.covered, hmgap, hlexeme]
  constructor
  · have hposition : m.start.position = l.start.position + positions := by
      rw [start_position, start_position, hmgap, h.position_eq, Nat.add_right_comm]
    have hline : m.start.line = l.start.line + lines := by
      rw [start_line, start_line, hmgap, h.line_eq, Nat.add_right_comm]
    have hpulled : m.pull.1 =
        ⟨m.pull.1.gap, m.pull.1.lexeme, m.start.position, m.start.line, m.context⟩ := rfl
    rw [hpulled, hmgap, hlexeme, hposition, hline, h.context_eq]
    rfl
  · refine ⟨?_, ?_, ?_, ?_, h.options_eq, h.unfinished, h.unfinished'⟩
    · have hsplit := text_append_rest m
      rw [hmstart, ← text_append_rest l, List.append_assoc, hlexeme] at hsplit
      exact List.append_cancel_left hsplit
    · rw [pull_position, pull_position, hcovered, h.position_eq, Nat.add_right_comm]
    · rw [pull_line, pull_line, hcovered, h.line_eq, Nat.add_right_comm]
    · rw [pull_context, pull_context, hlexeme, h.context_eq]

theorem Resumes.pull_of_nil (h : Resumes [] positions lines l m) :
    m.pull.1 = l.pull.1.shift positions lines ∧ Resumes [] positions lines l.pull.2 m.pull.2 :=
  h.pull (by rw [List.append_nil]; rfl) (by rw [List.append_nil]; rfl)

theorem Resumes.emissions_eq (h : Resumes [] positions lines l m) :
    m.emissions = l.emissions.map (Emission.shift positions lines) := by
  induction l using pull_induction generalizing m with
  | stop l he =>
    obtain ⟨hpull, -⟩ := h.pull_of_nil
    have hme : m.pull.1.isEof = true := by rw [hpull]; exact he
    rw [emissions_of_isEof h.unfinished he, emissions_of_isEof h.unfinished' hme, hpull, List.map_singleton]
  | step l he ih =>
    obtain ⟨hpull, hnext⟩ := h.pull_of_nil
    have hme : m.pull.1.isEof = false := by rw [hpull]; exact he
    rw [emissions_cons h.unfinished he, emissions_cons h.unfinished' hme, hpull, ih hnext, List.map_cons]

end Resumes

/-- What lies before a lexer in its text counts for positions and lines only. -/
theorem emissions_eq_afresh {l : Lexer} {lines : Nat} (h : l.finished = false)
    (hline : l.cursor.line = 1 + lines) (file : String) :
    l.emissions = ({ ofText l.cursor.rest l.options file with context := l.context } : Lexer).emissions.map
      (Emission.shift l.cursor.position lines) :=
  Resumes.emissions_eq ⟨(List.append_nil _).symm, (Nat.zero_add _).symm, hline, rfl, rfl, rfl, h⟩

section LineBreak

variable {rest : List Char} {positions lines : Nat} {l m : Lexer}

theorem Resumes.pull_of_lineBreak (h : Resumes ('\n' :: rest) positions lines l m)
    (he : l.pull.1.isEof = false) (hquoted : l.pull.1.lexeme.unterminated = false) :
    m.pull.1 = l.pull.1.shift positions lines ∧
      Resumes ('\n' :: rest) positions lines l.pull.2 m.pull.2 := by
  have hne : l.start.rest ≠ [] := fun hnil => by simp [(pull_isEof_iff_start l).mpr hnil] at he
  obtain ⟨first, tail, hstart⟩ := List.exists_cons_of_ne_nil hne
  apply h.pull
  · have hgap : IsTrivia l.options (l.start.rest ++ '\n' :: rest).head? l.pull.1.gap := by
      have htrivia : IsTrivia l.options l.start.rest.head? l.pull.1.gap :=
        trivia_isTrivia l.options l.cursor.rest
      rwa [hstart] at htrivia ⊢
    have hstop : trivia l.options false (l.start.rest ++ '\n' :: rest) = [] := by
      have hl := trivia_start l
      rw [trivia_eq_nil_iff, hstart] at hl ⊢
      exact hl
    rw [← pull_gap_append_start, List.append_assoc, hgap.trivia_append, hstop, List.append_nil]
  · have hlexeme := pull_isLexeme l
    have hsplit := text_append_rest l
    -- A comment that ran up to the end of the text runs up to the line break behind it.
    have hcomment : l.pull.1.lexeme.kind = .comment →
        endsComment (l.pull.2.cursor.rest ++ '\n' :: rest).head? := by
      intro hkind
      rw [List.head?_append]
      exact (hlexeme.endsComment hsplit hkind).or_lineBreak
    have hagain := hlexeme.append hsplit hne hquoted hcomment
      ((isApart_lineBreak rest).stopsLike_append l.pull.2.cursor.rest)
    rw [← List.append_assoc, hsplit] at hagain
    exact hagain.read_eq

theorem tokens_eq_afresh {context : Context} {lines : Nat} (h : l.finished = false)
    (hrest : l.cursor.rest = rest) (hcontext : l.context = context) (hline : l.cursor.line = 1 + lines)
    (file : String) : l.emissions.map Emission.token =
      (({ ofText rest l.options file with context } : Lexer).emissions.map Emission.token).map
        (Token.laterBy lines) := by
  rw [emissions_eq_afresh h hline file, hrest, hcontext, List.map_map, List.map_map]
  rfl

theorem pull_of_start_lineBreak {gap : List Char} (hrest : l.cursor.rest = gap ++ '\n' :: rest)
    (hstart : l.start.rest = '\n' :: rest) :
    l.pull.1.gap = gap ∧ l.pull.1.lexeme = .plain .newline ['\n'] ∧ l.pull.2.cursor.rest = rest := by
  have hlexeme : l.pull.1.lexeme = .plain .newline ['\n'] := by
    rw [pull_lexeme, hstart]
    rfl
  have hbehind := text_append_rest l
  rw [hstart, hlexeme] at hbehind
  exact ⟨pull_gap_eq hrest hstart, hlexeme, (List.cons.inj hbehind).2⟩

/-- The line break gives one token or none, and what follows it is read afresh. -/
theorem tokens_of_lineBreak {gap : List Char} (h : l.finished = false)
    (hrest : l.cursor.rest = gap ++ '\n' :: rest) (hgap : IsTrivia l.options none gap) (file : String) :
    let lines := l.cursor.line + gap.count '\n'
    let front := lineBreakTokens l.options lines
    l.emissions.map Emission.token = front ++
      (({ ofText rest l.options file with context := (front.map Token.kind).foldl Context.after l.context } :
        Lexer).emissions.map Emission.token).map (Token.laterBy lines) := by
  intro lines
  cases hn : l.options.newlines with
  | true =>
    have hfront : lineBreakTokens l.options lines = [⟨.newline, "\n", lines⟩] := by
      simp [lineBreakTokens, hn]
    have hstop : trivia l.options false ('\n' :: rest) = [] := by
      simp [trivia, hn]
    have hstart : l.start.rest = '\n' :: rest := start_rest_eq hrest (hgap.of_next fun _ => .inr rfl) hstop
    obtain ⟨hpullgap, hlexeme, hnext⟩ := pull_of_start_lineBreak hrest hstart
    have he : l.pull.1.isEof = false := by
      rw [Emission.isEof, hlexeme]
      rfl
    have htoken : l.pull.1.token = ⟨.newline, "\n", lines⟩ := by
      have hline : l.pull.1.line = lines := by rw [line_of_pull, hpullgap]
      rw [Emission.token, hlexeme, hline]
      rfl
    have hline : l.pull.2.cursor.line = 1 + lines := by
      rw [pull_line, Emission.covered, hpullgap, hlexeme, List.count_append, Nat.add_comm 1, ← Nat.add_assoc]
      rfl
    have hcontext : l.pull.2.context = l.context.after .newline := by
      rw [pull_context, hlexeme]
      rfl
    rw [hfront, emissions_cons h he, List.map_cons, htoken,
      tokens_eq_afresh (l := l.pull.2) h hnext hcontext hline file]
    rfl
  | false =>
    have hfront : lineBreakTokens l.options lines = [] := by
      simp [lineBreakTokens, hn]
    -- The line break is skipped with the trivia before it, so the lexer may as well stand behind both.
    have hall : l.cursor.rest = (gap ++ ['\n']) ++ rest := by
      rw [hrest, List.append_assoc]
      rfl
    have hskipped : IsTrivia l.options rest.head? (gap ++ ['\n']) := hgap.lineBreak_append hn
    have hnext : (l.skip (gap ++ ['\n']).length).cursor.rest = rest := by
      simp [skip, Cursor.advanceN, hall]
    have hline : (l.skip (gap ++ ['\n']).length).cursor.line = 1 + lines := by
      have hpassed : (l.skip (gap ++ ['\n']).length).cursor.line =
          l.cursor.line + (l.cursor.rest.take (gap ++ ['\n']).length).count '\n' := rfl
      rw [hpassed, hall, List.take_left, List.count_append, Nat.add_comm 1, ← Nat.add_assoc]
      rfl
    rw [hfront, ← skip_emissions_map Emission.token (fun _ _ => rfl) h hall hskipped]
    exact tokens_eq_afresh (l := l.skip (gap ++ ['\n']).length) h hnext rfl hline file

theorem Resumes.tokens_eq (h : Resumes ('\n' :: rest) 0 0 l m)
    (hquoted : ∀ e ∈ l.emissions, e.lexeme.unterminated = false) (file : String) :
    let lines := l.cursor.line + l.cursor.rest.count '\n'
    let front := (l.emissions.map Emission.token).dropLast ++ lineBreakTokens l.options lines
    m.emissions.map Emission.token = front ++
      (({ ofText rest l.options file with context := (front.map Token.kind).foldl Context.after l.context } :
        Lexer).emissions.map Emission.token).map (Token.laterBy lines) := by
  induction l using pull_induction generalizing m with
  | stop l he =>
    have htokens := tokens_of_lineBreak h.unfinished' h.rest_eq
      (h.options_eq ▸ (pull_isEof_iff_isTrivia l).mp he) file
    rw [h.line_eq, h.options_eq, h.context_eq] at htokens
    rw [emissions_of_isEof h.unfinished he]
    exact htokens
  | step l he ih =>
    rw [emissions_cons h.unfinished he] at hquoted
    obtain ⟨hhead, htail⟩ := List.forall_mem_cons.mp hquoted
    obtain ⟨hpull, hnext⟩ := h.pull_of_lineBreak he hhead
    have hme : m.pull.1.isEof = false := by rw [hpull]; exact he
    have hlines : l.pull.2.cursor.line + l.pull.2.cursor.rest.count '\n' =
        l.cursor.line + l.cursor.rest.count '\n' := by
      rw [pull_line, ← pull_rest l, List.count_append, Emission.covered, Nat.add_assoc]
    have htoken : m.pull.1.token = l.pull.1.token := by rw [hpull]; rfl
    have hrest := ih hnext htail
    rw [hlines] at hrest
    obtain ⟨tokens, last, hsplit, -⟩ := emissions_end (l := l.pull.2) h.unfinished
    have hne : l.pull.2.emissions.map Emission.token ≠ [] := by simp [hsplit]
    rw [emissions_cons h.unfinished he, emissions_cons h.unfinished' hme, List.map_cons, List.map_cons, htoken,
      List.dropLast_cons_of_ne_nil hne, hrest]
    rfl

end LineBreak

/-- Unless the first text ends in open quotes, the tokens of two texts with a line break between are those of the
first without its end token, the line break, and those of the second on later lines and in the context reached by
then. A lexer between two tokens goes on as one that starts there in its context. -/
theorem emissions_append_lineBreak (a b : List Char) (o : Options) (file : String)
    (h : ∀ e ∈ (ofText a o file).emissions, e.lexeme.unterminated = false) :
    let lines := 1 + a.count '\n'
    let front := ((ofText a o file).emissions.map Emission.token).dropLast ++ lineBreakTokens o lines
    let context := (front.map Token.kind).foldl Context.after .initial
    (ofText (a ++ '\n' :: b) o file).emissions.map Emission.token = front ++
        (({ ofText b o file with context } : Lexer).emissions.map Emission.token).map (Token.laterBy lines) ∧
      ∀ text n,
        let l := (ofText text o file).pulled n
        ∃ passed, text = passed ++ l.cursor.rest ∧
          l.emissions = ({ ofText l.cursor.rest o file with context := l.context } : Lexer).emissions.map
            (Emission.shift passed.length (passed.count '\n')) := by
  refine ⟨?_, fun text n => ?_⟩
  · have hresumes : Resumes ('\n' :: b) 0 0 (ofText a o file) (ofText (a ++ '\n' :: b) o file) :=
      ⟨rfl, rfl, rfl, rfl, rfl, rfl, rfl⟩
    exact hresumes.tokens_eq h file
  · obtain ⟨passed, hpassed⟩ := pulled_hasPassed (l := ofText text o file) (Cursor.ofText_hasPassed text) n
    have hsource := hpassed.source_eq
    have hafresh := emissions_eq_afresh (pulled_finished (ofText text o file) n) hpassed.line_eq file
    rw [pulled_source] at hsource
    rw [pulled_options, hpassed.position_eq] at hafresh
    exact ⟨passed, hsource, hafresh⟩

/-- The mark of the first text's word is read as at its end, although an equals sign begins the next line. -/
theorem emissions_append_lineBreak_mark :
    (∀ e ∈ (ofText ['a', '?'] ⟨false, true⟩ defaultFile).emissions, e.lexeme.unterminated = false) ∧
      (ofText ['a', '?', '\n', '=', '1'] ⟨false, true⟩ defaultFile).emissions.map Emission.token =
        [⟨.identifier, "a?", 1⟩, ⟨.newline, "\n", 1⟩, ⟨.symbol .assign, "=", 2⟩, ⟨.integer, "1", 2⟩, ⟨.eof, "", 2⟩] := by
  have hquoted : ∀ e ∈ (ofText ['a', '?'] ⟨false, true⟩ defaultFile).emissions,
      e.lexeme.unterminated = false := by
    decide
  refine ⟨hquoted, (emissions_append_lineBreak ['a', '?'] ['=', '1'] ⟨false, true⟩ defaultFile hquoted).1.trans ?_⟩
  decide

end Lexer

end ScriptLexer
