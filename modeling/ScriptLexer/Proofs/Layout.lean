import ScriptLexer.Proofs.LexemeBoundary
import ScriptLexer.Proofs.Stream

/-! Layout carries no meaning: where line breaks and comments are trivia, the lexemes of a source can be set
apart by any other trivia, and the same tokens are read again. -/

namespace ScriptLexer

/-- Blanks, line breaks, and comments with the line breaks that end them. -/
inductive Spacing : List Char → Prop
  | nil : Spacing []
  | blank {c : Char} {gap : List Char} (hc : c = ' ' ∨ c = '\t' ∨ c = '\r' ∨ c = '\n') (h : Spacing gap) :
      Spacing (c :: gap)
  | comment (body : List Char) {gap : List Char} (hbody : '\n' ∉ body) (h : Spacing gap) :
      Spacing ('#' :: (body ++ '\n' :: gap))

/-- Spacing at the end of a source, where nothing needs to end the last comment. -/
def OpenSpacing (gap : List Char) : Prop :=
  Spacing gap ∨ ∃ closed body, Spacing closed ∧ '\n' ∉ body ∧ gap = closed ++ '#' :: body

theorem Spacing.isTrivia {gap : List Char} (h : Spacing gap) (next : Option Char) :
    IsTrivia {} next gap := by
  induction h with
  | nil => exact .nil
  | blank hc _ ih =>
    rcases hc with hc | hc | hc | rfl
    · exact .blank (.inl hc) ih
    · exact .blank (.inr (.inl hc)) ih
    · exact .blank (.inr (.inr hc)) ih
    · exact .lineBreak rfl ih
  | comment body hbody _ ih => exact .comment body rfl hbody (.inr rfl) (.lineBreak rfl ih)

theorem OpenSpacing.isTrivia {gap : List Char} (h : OpenSpacing gap) : IsTrivia {} none gap := by
  rcases h with h | ⟨closed, body, hclosed, hbody, rfl⟩
  · exact h.isTrivia none
  · have hcomment : IsTrivia {} none ('#' :: (body ++ [])) := .comment body rfl hbody (.inl rfl) .nil
    rw [List.append_nil] at hcomment
    exact (hclosed.isTrivia _).append hcomment

theorem IsTrivia.isApart {next : Option Char} {gap : List Char} (h : IsTrivia {} next gap) : IsApart gap := by
  cases h with
  | nil => exact isApart_nil
  | blank hc _ => exact fun c hhead => Option.some.inj hhead ▸ .inl hc
  | lineBreak ho _ => exact fun c hhead => Option.some.inj hhead ▸ .inr (.inl ⟨rfl, ho⟩)
  | comment _ ho _ _ _ => exact fun c hhead => Option.some.inj hhead ▸ .inr (.inr ⟨rfl, ho⟩)

theorem IsApart.append {gap rest : List Char} (h : IsApart gap) (hgap : gap ≠ []) : IsApart (gap ++ rest) := by
  obtain ⟨c, gap, rfl⟩ := List.exists_cons_of_ne_nil hgap
  exact h

/-- The texts one after another, with a gap before each of them and another one at the end. -/
def respace (gaps : Nat → List Char) : List (List Char) → List Char
  | [] => gaps 0
  | text :: texts => gaps 0 ++ (text ++ respace (fun i => gaps (i + 1)) texts)

/-- Gaps that keep the lexemes apart. Nothing may follow a string that does not end. -/
structure SetsApart (gaps : Nat → List Char) (lexemes : List Lexeme) : Prop where
  spacing : ∀ i < lexemes.length, Spacing (gaps i)
  openSpacing : OpenSpacing (gaps lexemes.length)
  ne_nil : ∀ i, 0 < i → i < lexemes.length → gaps i ≠ []
  unterminated : ∀ x, lexemes.getLast? = some x → x.unterminated = true → gaps lexemes.length = []

section SetsApart

variable {gaps : Nat → List Char} {x : Lexeme} {lexemes : List Lexeme}

theorem SetsApart.tail (h : SetsApart gaps (x :: lexemes)) : SetsApart (fun i => gaps (i + 1)) lexemes := by
  refine ⟨fun i hi => h.spacing _ ?_, h.openSpacing, fun i _ hi => h.ne_nil _ (Nat.succ_pos i) ?_,
    fun y hy => h.unterminated y ?_⟩
  · exact Nat.succ_lt_succ hi
  · exact Nat.succ_lt_succ hi
  · rw [List.getLast?_cons, hy]
    rfl

theorem SetsApart.isApart (h : SetsApart gaps (x :: lexemes)) :
    IsApart (respace (fun i => gaps (i + 1)) (lexemes.map Lexeme.text)) := by
  cases lexemes with
  | nil => exact h.openSpacing.isTrivia.isApart
  | cons y lexemes =>
    have hspacing : Spacing (gaps 1) := h.spacing 1 (by simp)
    have hne : gaps 1 ≠ [] := h.ne_nil 1 Nat.one_pos (by simp)
    exact (hspacing.isTrivia none).isApart.append hne

end SetsApart

namespace Lexer

def lexemes (l : Lexer) : List Lexeme :=
  (l.emissions.filter (fun e => !e.isEof)).map Emission.lexeme

theorem lexemes_of_isEof {l : Lexer} (h : l.finished = false) (he : l.pull.1.isEof = true) :
    l.lexemes = [] := by
  simp [lexemes, emissions_of_isEof h he, he]

theorem lexemes_cons {l : Lexer} (h : l.finished = false) (he : l.pull.1.isEof = false) :
    l.lexemes = l.pull.1.lexeme :: l.pull.2.lexemes := by
  simp [lexemes, emissions_cons h he, he]

/-- The second lexer stands before the lexemes that the first one reads, set apart by the gaps. -/
structure Respaces (gaps : Nat → List Char) (l m : Lexer) : Prop where
  rest_eq : m.cursor.rest = respace gaps (l.lexemes.map Lexeme.text)
  context_eq : m.context = l.context
  options_eq : l.options = {}
  options_eq' : m.options = {}
  unfinished : l.finished = false
  unfinished' : m.finished = false
  setsApart : SetsApart gaps l.lexemes

variable {gaps : Nat → List Char} {l m : Lexer}

theorem Respaces.pull_of_isEof (h : Respaces gaps l m) (he : l.pull.1.isEof = true) :
    m.pull.1.lexeme = l.pull.1.lexeme := by
  have hrest := h.rest_eq
  have hopen := h.setsApart.openSpacing
  rw [lexemes_of_isEof h.unfinished he] at hrest hopen
  have hgap : IsTrivia m.options none (gaps 0) := h.options_eq' ▸ hopen.isTrivia
  have hstart : m.start.rest = [] :=
    start_rest_eq (hrest.trans (List.append_nil _).symm) hgap rfl
  rw [pull_lexeme, pull_lexeme, hstart, (pull_isEof_iff_start l).mp he]
  rfl

theorem Respaces.respace_of_unterminated (h : Respaces gaps l m) (he : l.pull.1.isEof = false)
    (hx : l.pull.1.lexeme.unterminated = true) :
    l.pull.1.lexeme.text = l.start.rest ∧
      respace (fun i => gaps (i + 1)) (l.pull.2.lexemes.map Lexeme.text) = [] := by
  have htext := (l.pull_isLexeme.unterminated_eq hx).2.1
  have hrest := pull_rest_of_unterminated hx
  have hend : l.pull.2.pull.1.isEof = true := by
    rw [pull_isEof_iff_start, start_rest, hrest]
    rfl
  have hnil : l.pull.2.lexemes = [] := lexemes_of_isEof (l := l.pull.2) h.unfinished hend
  have hgap := h.setsApart.unterminated l.pull.1.lexeme
  rw [lexemes_cons h.unfinished he, hnil] at hgap
  rw [hnil]
  exact ⟨htext, hgap rfl hx⟩

theorem Respaces.isLexeme (h : Respaces gaps l m) (he : l.pull.1.isEof = false) :
    IsLexeme m.context
      (l.pull.1.lexeme.text ++ respace (fun i => gaps (i + 1)) (l.pull.2.lexemes.map Lexeme.text))
      l.pull.1.lexeme := by
  rw [h.context_eq]
  cases hx : l.pull.1.lexeme.unterminated with
  | true =>
    -- Its text is all that was left, so that only the last gap follows, and that one is empty.
    obtain ⟨htext, hnil⟩ := h.respace_of_unterminated he hx
    rw [hnil, List.append_nil, htext]
    exact l.pull_isLexeme
  | false =>
    have hinput : l.start.rest ≠ [] := fun hnil => by simp [(pull_isEof_iff_start l).mpr hnil] at he
    have hcomment : l.pull.1.lexeme.kind ≠ .comment := by
      intro hkind
      have hhash := l.pull_isLexeme.head?_of_comment hkind
      have hblocked := trivia_eq_nil_iff.mp (trivia_start l) '#' hhash
      exact hblocked (.inr (.inr ⟨rfl, by rw [h.options_eq]⟩))
    have hapart := h.setsApart
    rw [lexemes_cons h.unfinished he] at hapart
    exact l.pull_isLexeme.append (text_append_rest l) hinput hx (fun hkind => absurd hkind hcomment)
      (hapart.isApart.stopsLike _)

theorem Respaces.pull (h : Respaces gaps l m) (he : l.pull.1.isEof = false) :
    m.pull.1.lexeme = l.pull.1.lexeme ∧ Respaces (fun i => gaps (i + 1)) l.pull.2 m.pull.2 := by
  have hrest := h.rest_eq
  have hapart := h.setsApart
  have hlexeme := h.isLexeme he
  rw [lexemes_cons h.unfinished he] at hrest hapart
  have hstop : trivia m.options false (l.pull.1.lexeme.text ++
      respace (fun i => gaps (i + 1)) (l.pull.2.lexemes.map Lexeme.text)) = [] := by
    have htext : l.pull.1.lexeme.text ≠ [] := fun hnil => by simp [(pull_isEof_iff l).mpr hnil] at he
    obtain ⟨c, tail, hcons⟩ := List.exists_cons_of_ne_nil htext
    have hsplit := text_append_rest l
    have hblocked := trivia_eq_nil_iff.mp (trivia_start l) c (by rw [← hsplit, hcons]; rfl)
    rw [hcons, h.options_eq', ← h.options_eq]
    exact trivia_cons_eq_nil hblocked
  have hgap : ∀ next, IsTrivia m.options next (gaps 0) := h.options_eq' ▸ (hapart.spacing 0 (by simp)).isTrivia
  have hstart := start_rest_eq hrest (hgap _) hstop
  have hsame : m.pull.1.lexeme = l.pull.1.lexeme := by
    rw [pull_lexeme, hstart]
    exact hlexeme.read_eq
  refine ⟨hsame, ?_, ?_, h.options_eq, h.options_eq', h.unfinished, h.unfinished', hapart.tail⟩
  · have hsplit := text_append_rest m
    rw [hsame, hstart] at hsplit
    exact List.append_cancel_left hsplit
  · rw [pull_context, pull_context, hsame, h.context_eq]

theorem Respaces.emissions_map (h : Respaces gaps l m) :
    m.emissions.map (fun e => (e.token.kind, e.token.literal)) =
      l.emissions.map (fun e => (e.token.kind, e.token.literal)) := by
  have htoken : ∀ {e e' : Emission}, e'.lexeme = e.lexeme → e'.isEof = e.isEof ∧
      (e'.token.kind, e'.token.literal) = (e.token.kind, e.token.literal) := by
    intro e e' hlexeme
    simp [Emission.isEof, Emission.token, hlexeme]
  induction l using pull_induction generalizing gaps m with
  | stop l he =>
    obtain ⟨he', hsame⟩ := htoken (h.pull_of_isEof he)
    rw [he] at he'
    rw [emissions_of_isEof h.unfinished he, emissions_of_isEof h.unfinished' he', List.map_singleton,
      List.map_singleton, hsame]
  | step l he ih =>
    obtain ⟨hlexeme, hnext⟩ := h.pull he
    obtain ⟨he', hsame⟩ := htoken hlexeme
    rw [he] at he'
    rw [emissions_cons h.unfinished he, emissions_cons h.unfinished' he', List.map_cons, List.map_cons, hsame,
      ih hnext]

/-- However the lexemes of a source are set apart, they are read as the same tokens. -/
theorem emissions_respace (text : List Char) (file : String) (gaps : Nat → List Char)
    (hgaps : SetsApart gaps (ofText text {} file).lexemes) :
    (ofText (respace gaps ((ofText text {} file).lexemes.map Lexeme.text)) {} file).emissions.map
        (fun e => (e.token.kind, e.token.literal)) =
      (ofText text {} file).emissions.map (fun e => (e.token.kind, e.token.literal)) :=
  Respaces.emissions_map ⟨rfl, rfl, rfl, rfl, rfl, rfl, hgaps⟩

theorem emissions_respace_block :
    let text := ['\x7b', '|', 'a', '|', '-', '"', '#']
    let gaps := fun i : Nat => if i < 6 then ['#', ' ', '|', '\n'] else []
    SetsApart gaps (ofText text {} defaultFile).lexemes ∧
      (ofText (respace gaps ((ofText text {} defaultFile).lexemes.map Lexeme.text)) {} defaultFile).emissions.map
          (fun e => (e.token.kind, e.token.literal)) =
        [(.symbol .openCurly, "\x7b"), (.blockParamOpen, "|"), (.identifier, "a"), (.blockParamClose, "|"),
          (.unaryMinus, "-"), (.illegal, "#"), (.eof, "")] := by
  intro text gaps
  have hgap : ∀ i < 6, gaps i = ['#', ' ', '|', '\n'] := fun i hi => if_pos hi
  have hlength : (ofText text {} defaultFile).lexemes.length = 6 := by decide
  have hgaps : SetsApart gaps (ofText text {} defaultFile).lexemes := by
    refine ⟨?_, ?_, ?_, ?_⟩
    · rw [hlength]
      intro i hi
      rw [hgap i hi]
      exact .comment [' ', '|'] (by decide) .nil
    · rw [hlength]
      exact .inl .nil
    · rw [hlength]
      intro i _ hi
      rw [hgap i hi]
      exact List.cons_ne_nil _ _
    · rw [hlength]
      exact fun _ _ _ => rfl
  exact ⟨hgaps, (emissions_respace text defaultFile gaps hgaps).trans (by decide)⟩

end Lexer

end ScriptLexer
