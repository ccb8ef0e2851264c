import Mathlib.Data.List.Forall2
import ScriptLexer.Lexer
import ScriptLexer.Proofs.LexemeShape

/-! The stream of a lexer as a recursion: one pull, and the stream of the lexer that the pull leaves unless
the end was reached. Two lexers that differ only in the trivia before them yield the same tokens. -/

namespace ScriptLexer

/-- The source text of the token, together with the trivia before it. -/
def Emission.covered (e : Emission) : List Char :=
  e.gap ++ e.lexeme.text

namespace Lexer

/-- The cursor at the lexeme that the next pull reads. -/
def start (l : Lexer) : Cursor :=
  l.cursor.advanceN (trivia l.options false l.cursor.rest).length

theorem start_rest (l : Lexer) :
    l.start.rest = l.cursor.rest.drop (trivia l.options false l.cursor.rest).length := rfl

theorem start_source (l : Lexer) : l.start.source = l.cursor.source := rfl

theorem trivia_start (l : Lexer) : trivia l.options false l.start.rest = [] :=
  trivia_drop_eq_nil l.options false l.cursor.rest

theorem start_rest_eq {l : Lexer} {gap rest : List Char} (hrest : l.cursor.rest = gap ++ rest)
    (hgap : IsTrivia l.options rest.head? gap) (hstop : trivia l.options false rest = []) :
    l.start.rest = rest := by
  rw [start_rest, hrest, hgap.trivia_append, hstop, List.append_nil, List.drop_left]

section Pull

variable (l : Lexer)

theorem pull_eq : l.pull =
    (⟨trivia l.options false l.cursor.rest, Lexeme.read l.context l.start.rest, l.start.position,
        l.start.line, l.context⟩,
      { l with
        cursor := l.start.advanceN (Lexeme.read l.context l.start.rest).text.length
        context := l.context.after (Lexeme.read l.context l.start.rest).kind }) := rfl

theorem pull_lexeme : l.pull.1.lexeme = Lexeme.read l.context l.start.rest := rfl

theorem pull_isLexeme : IsLexeme l.context l.start.rest l.pull.1.lexeme :=
  isLexeme_read l.context l.start.rest

theorem pull_cursor : l.pull.2.cursor = l.start.advanceN l.pull.1.lexeme.text.length := rfl

theorem pull_context : l.pull.2.context = l.context.after l.pull.1.lexeme.kind := rfl

@[simp] theorem pull_finished : l.pull.2.finished = l.finished := rfl

theorem text_append_rest : l.pull.1.lexeme.text ++ l.pull.2.cursor.rest = l.start.rest :=
  List.prefix_iff_eq_append.mp (Lexeme.read_text_isPrefix l.context l.start.rest)

theorem pull_gap_append_start : l.pull.1.gap ++ l.start.rest = l.cursor.rest :=
  trivia_append_drop l.options l.cursor.rest

theorem head?_text : l.pull.1.lexeme.text.head? = l.start.rest.head? := by
  have hsplit := text_append_rest l
  cases hstart : l.start.rest with
  | nil =>
    rw [hstart] at hsplit
    rw [(List.append_eq_nil_iff.mp hsplit).1]
  | cons first rest =>
    have htext : l.pull.1.lexeme.text ≠ [] := by
      rw [pull_lexeme, Ne, Lexeme.read_text_eq_nil_iff, hstart]
      exact List.cons_ne_nil _ _
    obtain ⟨c, text, htext⟩ := List.exists_cons_of_ne_nil htext
    rw [htext, hstart] at hsplit
    rw [htext, (List.cons.inj hsplit).1]
    rfl

theorem pull_isEof_iff_start : l.pull.1.isEof = true ↔ l.start.rest = [] := by
  rw [Emission.isEof, decide_eq_true_iff]
  exact Lexeme.read_kind_eq_eof_iff

theorem pull_rest_of_isEof (h : l.pull.1.isEof = true) : l.pull.2.cursor.rest = [] := by
  have hstart := (pull_isEof_iff_start l).mp h
  have hsplit := text_append_rest l
  rw [hstart] at hsplit
  exact (List.append_eq_nil_iff.mp hsplit).2

end Pull

theorem pull_rest_of_unterminated {l : Lexer} (h : l.pull.1.lexeme.unterminated = true) :
    l.pull.2.cursor.rest = [] := by
  have htext := (l.pull_isLexeme.unterminated_eq h).2.1
  have hsplit := text_append_rest l
  rw [htext] at hsplit
  exact List.append_right_eq_self.mp hsplit

theorem pull_gap_eq {l : Lexer} {gap rest : List Char} (hrest : l.cursor.rest = gap ++ rest)
    (hstart : l.start.rest = rest) : l.pull.1.gap = gap := by
  have hsplit := pull_gap_append_start l
  rw [hstart, hrest] at hsplit
  exact List.append_cancel_right hsplit

theorem pull_of_first {l : Lexer} {first : Char} {gap rest : List Char} (hrest : l.cursor.rest = gap ++ first :: rest)
    (hgap : IsTrivia l.options (some first) gap) (hfirst : ¬ startsTrivia l.options first) :
    l.start.rest = first :: rest ∧ l.pull.1.gap = gap ∧
      l.pull.1.lexeme = Lexeme.read l.context (first :: rest) := by
  have hnext : IsTrivia l.options (first :: rest).head? gap := hgap
  have hstart : l.start.rest = first :: rest := start_rest_eq hrest hnext (trivia_cons_eq_nil hfirst)
  exact ⟨hstart, pull_gap_eq hrest hstart, by rw [pull_lexeme, hstart]⟩

/-- Every token but the end token takes a character, so what is proved along the pulls holds. -/
theorem pull_induction {P : Lexer → Prop} (stop : ∀ l, l.pull.1.isEof = true → P l)
    (step : ∀ l, l.pull.1.isEof = false → P l.pull.2 → P l) (l : Lexer) : P l := by
  induction hn : l.cursor.rest.length using Nat.strongRecOn generalizing l with
  | ind n ih =>
    cases he : l.pull.1.isEof with
    | true => exact stop l he
    | false =>
      have hlt := pull_rest_length_lt he
      exact step l he (ih _ (hn ▸ hlt) l.pull.2 rfl)

theorem take_of_finished {l : Lexer} (h : l.finished = true) (n : Nat) : l.take n = ([], l) := by
  cases n <;> simp [take, next?, h]

theorem emissions_of_finished {l : Lexer} (h : l.finished = true) : l.emissions = [] :=
  congrArg Prod.fst (take_of_finished h _)

theorem next?_eq {l : Lexer} (h : l.finished = false) :
    l.next? = some (l.pull.1, { l.pull.2 with finished := l.pull.1.isEof }) := by
  rw [next?, h]
  rfl

theorem take_succ {l : Lexer} (h : l.finished = false) (n : Nat) :
    (l.take (n + 1)).1 = l.pull.1 :: if l.pull.1.isEof then [] else (l.pull.2.take n).1 := by
  rw [take, next?_eq h]
  cases he : l.pull.1.isEof with
  | true =>
    have hdone : take { l.pull.2 with finished := true } n = ([], { l.pull.2 with finished := true }) :=
      take_of_finished rfl n
    exact congrArg (l.pull.1 :: ·.1) hdone
  | false =>
    have hsame : { l.pull.2 with finished := false } = l.pull.2 := by
      rw [← h, ← pull_finished l]
    exact congrArg (l.pull.1 :: ·) (congrArg (fun l' => (take l' n).1) hsame)

theorem take_eq_take {l : Lexer} (h : l.finished = false) {m n : Nat}
    (hm : l.cursor.rest.length < m) (hn : l.cursor.rest.length < n) : (l.take m).1 = (l.take n).1 := by
  induction m generalizing l n with
  | zero => omega
  | succ m ih =>
    obtain ⟨n, rfl⟩ : ∃ k, n = k + 1 := ⟨n - 1, by omega⟩
    rw [take_succ h, take_succ h]
    cases he : l.pull.1.isEof with
    | true => rfl
    | false =>
      have hlt := pull_rest_length_lt he
      have htail := ih (l := l.pull.2) h (n := n) (by omega) (by omega)
      simp [htail]

theorem emissions_of_isEof {l : Lexer} (h : l.finished = false) (he : l.pull.1.isEof = true) :
    l.emissions = [l.pull.1] := by
  have htake : l.emissions = _ := take_succ h l.cursor.rest.length
  simpa [he] using htake

theorem emissions_cons {l : Lexer} (h : l.finished = false) (he : l.pull.1.isEof = false) :
    l.emissions = l.pull.1 :: l.pull.2.emissions := by
  have htake : l.emissions = _ := take_succ h l.cursor.rest.length
  have hlt := pull_rest_length_lt he
  have htail : (l.pull.2.take l.cursor.rest.length).1 = l.pull.2.emissions :=
    take_eq_take (l := l.pull.2) h hlt (Nat.lt_succ_self _)
  simpa [he, htail] using htake

theorem emissions_zero {l : Lexer} (h : l.finished = false) : l.emissions[0]? = some l.pull.1 := by
  cases he : l.pull.1.isEof with
  | true => rw [emissions_of_isEof h he, List.getElem?_cons_zero]
  | false => rw [emissions_cons h he, List.getElem?_cons_zero]

theorem pull_mem_emissions {l : Lexer} (h : l.finished = false) : l.pull.1 ∈ l.emissions :=
  List.mem_of_getElem? (emissions_zero h)

/-- Two lexers that pull alike tokens at each step yield alike streams. -/
theorem forall₂_emissions {R : Lexer → Lexer → Prop} {S : Emission → Emission → Prop}
    (unfinished : ∀ {l m}, R l m → l.finished = false ∧ m.finished = false)
    (isEof_eq : ∀ {e e'}, S e e' → e'.isEof = e.isEof)
    (pull : ∀ {l m}, R l m → S l.pull.1 m.pull.1 ∧ (l.pull.1.isEof = false → R l.pull.2 m.pull.2))
    {l m : Lexer} (h : R l m) : List.Forall₂ S l.emissions m.emissions := by
  induction l using pull_induction generalizing m with
  | stop l he =>
    obtain ⟨hl, hm⟩ := unfinished h
    obtain ⟨hsame, -⟩ := pull h
    rw [emissions_of_isEof hl he, emissions_of_isEof hm ((isEof_eq hsame).trans he)]
    exact .cons hsame .nil
  | step l he ih =>
    obtain ⟨hl, hm⟩ := unfinished h
    obtain ⟨hsame, hnext⟩ := pull h
    rw [emissions_cons hl he, emissions_cons hm ((isEof_eq hsame).trans he)]
    exact .cons hsame (ih (hnext he))

theorem emissions_covered {l : Lexer} (h : l.finished = false) :
    l.emissions.flatMap Emission.covered = l.cursor.rest := by
  induction l using pull_induction with
  | stop l he =>
    have hrest := pull_rest l
    rw [pull_rest_of_isEof l he, List.append_nil] at hrest
    simpa [emissions_of_isEof h he, Emission.covered] using hrest
  | step l he ih =>
    rw [emissions_cons h he, List.flatMap_cons, ih h]
    exact pull_rest l

/-- The lexer after a number of pulls. -/
def pulled (l : Lexer) : Nat → Lexer
  | 0 => l
  | n + 1 => l.pull.2.pulled n

theorem pulled_succ (l : Lexer) (n : Nat) : l.pulled (n + 1) = (l.pulled n).pull.2 := by
  induction n generalizing l with
  | zero => rfl
  | succ n ih => exact ih l.pull.2

theorem emissions_getElem? {l : Lexer} (h : l.finished = false) {n : Nat} {e : Emission}
    (he : l.emissions[n]? = some e) : (l.pulled n).pull.1 = e := by
  induction n generalizing l with
  | zero =>
    cases hend : l.pull.1.isEof with
    | true => simpa [pulled, emissions_of_isEof h hend] using he
    | false => simpa [pulled, emissions_cons h hend] using he
  | succ n ih =>
    cases hend : l.pull.1.isEof with
    | true => simp [emissions_of_isEof h hend] at he
    | false => exact ih (l := l.pull.2) h (by simpa [emissions_cons h hend] using he)

theorem exists_pulled_of_mem {l : Lexer} (h : l.finished = false) {e : Emission} (he : e ∈ l.emissions) :
    ∃ n, (l.pulled n).pull.1 = e := by
  obtain ⟨n, hn⟩ := List.getElem?_of_mem he
  exact ⟨n, emissions_getElem? h hn⟩

/-- A token of a stream is pulled where the tokens before it leave the lexer, and in the context they leave. -/
theorem pulled_of_split {l : Lexer} (h : l.finished = false) {before after : List Emission} {e : Emission}
    (hsplit : l.emissions = before ++ e :: after) : (l.pulled before.length).pull.1 = e ∧
      (l.pulled before.length).context =
        (before.map (fun e => e.token.kind)).foldl Context.after l.context := by
  induction before generalizing l with
  | nil =>
    refine ⟨emissions_getElem? h ?_, rfl⟩
    rw [hsplit]
    rfl
  | cons first before ih =>
    cases he : l.pull.1.isEof with
    | true => simp [emissions_of_isEof h he] at hsplit
    | false =>
      rw [emissions_cons h he, List.cons_append] at hsplit
      obtain ⟨rfl, htail⟩ := List.cons.inj hsplit
      exact ih (l := l.pull.2) h htail

def skip (l : Lexer) (n : Nat) : Lexer :=
  { l with cursor := l.cursor.advanceN n }

section Skip

variable {l : Lexer} {gap rest : List Char}

theorem skip_cursor (hrest : l.cursor.rest = gap ++ rest) : (l.skip gap.length).cursor =
    ⟨l.cursor.source, rest, l.cursor.position + gap.length, l.cursor.line + gap.count '\n'⟩ := by
  simp [skip, Cursor.advanceN, hrest]

theorem skip_start (hrest : l.cursor.rest = gap ++ rest) (hgap : IsTrivia l.options rest.head? gap) :
    (l.skip gap.length).start = l.start := by
  have hskip : (l.cursor.advanceN gap.length).rest = rest := by simp [Cursor.advanceN, hrest]
  have htrivia := hgap.trivia_append
  rw [start, start, skip, hskip, hrest, htrivia, List.length_append, Cursor.advanceN_add]

theorem skip_pull (hrest : l.cursor.rest = gap ++ rest) (hgap : IsTrivia l.options rest.head? gap) :
    (l.skip gap.length).pull = ({ l.pull.1 with gap := trivia l.options false rest }, l.pull.2) := by
  have hstart := skip_start hrest hgap
  have hskip : (l.skip gap.length).cursor.rest = rest := by simp [skip, Cursor.advanceN, hrest]
  rw [pull_eq, pull_eq, hstart, hskip]
  rfl

theorem skip_emissions_map {β : Type} (f : Emission → β) (hf : ∀ e gap, f { e with gap } = f e)
    (h : l.finished = false) (hrest : l.cursor.rest = gap ++ rest)
    (hgap : IsTrivia l.options rest.head? gap) :
    (l.skip gap.length).emissions.map f = l.emissions.map f := by
  have hpull := skip_pull hrest hgap
  cases he : l.pull.1.isEof with
  | true =>
    have hskip : (l.skip gap.length).pull.1.isEof = true := by rw [hpull]; exact he
    rw [emissions_of_isEof h he, emissions_of_isEof (l := l.skip gap.length) h hskip, hpull]
    simp [hf]
  | false =>
    have hskip : (l.skip gap.length).pull.1.isEof = false := by rw [hpull]; exact he
    rw [emissions_cons h he, emissions_cons (l := l.skip gap.length) h hskip, hpull]
    simp [hf]

end Skip

/-- A lexer at the same place of the same text that skips all that the first one skips, and may skip more. -/
structure Follows (l m : Lexer) : Prop where
  cursor_eq : m.cursor = l.cursor
  more : l.options.SkipsMore m.options
  unfinished : l.finished = false
  unfinished' : m.finished = false

section Follows

variable {l m : Lexer}

theorem Follows.trivia_eq (h : Follows l m) : trivia m.options false m.cursor.rest =
    l.pull.1.gap ++ trivia m.options false l.start.rest := by
  have hgap := (trivia_isTrivia l.options l.cursor.rest).mono h.more
  have hsplit := hgap.trivia_append
  rw [trivia_append_drop] at hsplit
  rw [h.cursor_eq]
  exact hsplit

theorem Follows.start_eq (h : Follows l m) (hstop : trivia m.options false l.start.rest = []) :
    m.start = l.start := by
  rw [start, h.trivia_eq, hstop, List.append_nil, h.cursor_eq]
  rfl

/-- Where the second lexer has nothing to skip, both read a lexeme from the same place. -/
theorem Follows.pull (h : Follows l m) (hstop : trivia m.options false l.start.rest = [])
    (hlength : (Lexeme.read m.context l.start.rest).text = l.pull.1.lexeme.text) :
    m.pull.1 = { l.pull.1 with lexeme := Lexeme.read m.context l.start.rest, before := m.context } ∧
      Follows l.pull.2 m.pull.2 := by
  have hstart := h.start_eq hstop
  have hlexeme : m.pull.1.lexeme = Lexeme.read m.context l.start.rest := by
    rw [pull_lexeme, hstart]
  refine ⟨?_, ?_, h.more, h.unfinished, h.unfinished'⟩
  · rw [pull_eq m, hstart, h.trivia_eq, hstop, List.append_nil]
    rfl
  · rw [pull_cursor, pull_cursor, hstart, hlexeme, hlength]

/-- Where the second lexer skips what the first one reports, it yields the same tokens from behind it. -/
theorem Follows.skip (h : Follows l m)
    (htext : IsTrivia m.options l.pull.2.cursor.rest.head? l.pull.1.lexeme.text) :
    Follows l.pull.2 (m.skip (l.pull.1.gap ++ l.pull.1.lexeme.text).length) ∧
      ∀ {β : Type} (f : Emission → β), (∀ e gap, f { e with gap } = f e) →
        (m.skip (l.pull.1.gap ++ l.pull.1.lexeme.text).length).emissions.map f = m.emissions.map f := by
  have hrest : m.cursor.rest = (l.pull.1.gap ++ l.pull.1.lexeme.text) ++ l.pull.2.cursor.rest := by
    rw [h.cursor_eq, pull_rest]
  have hgap : IsTrivia m.options (l.pull.1.lexeme.text.head?.or l.pull.2.cursor.rest.head?)
      l.pull.1.gap := by
    rw [← List.head?_append, text_append_rest]
    exact (trivia_isTrivia l.options l.cursor.rest).mono h.more
  refine ⟨⟨?_, h.more, h.unfinished, h.unfinished'⟩, fun f hf =>
    skip_emissions_map f hf h.unfinished' hrest (hgap.append htext)⟩
  rw [List.length_append, Lexer.skip, h.cursor_eq, Cursor.advanceN_add]
  rfl

end Follows

end Lexer

end ScriptLexer
