import Mathlib.Data.List.TakeWhile
import ScriptLexer.Proofs.Stream

/-! Reporting comments is a pure observation. A comment that one lexer reports is trivia to another that
skips comments, and a comment token keeps the context, so both read every other token alike. -/

namespace ScriptLexer

theorem Lexeme.comment_isTrivia {o : Options} (ho : o.comments = false) {rest after : List Char}
    (h : (comment ('#' :: rest)).text ++ after = '#' :: rest) :
    IsTrivia o after.head? (comment ('#' :: rest)).text := by
  have htext : (comment ('#' :: rest)).text = '#' :: (rest.takeWhile (· ≠ '\n') ++ []) := by
    simp [comment, plain]
  have hafter : after = rest.dropWhile (· ≠ '\n') := by
    rw [htext, List.append_nil, List.cons_append, List.cons.injEq] at h
    exact List.append_cancel_left (h.2.trans List.takeWhile_append_dropWhile.symm)
  have hend : endsComment after.head? := by
    have hstop := List.head?_dropWhile_not (· ≠ '\n') rest
    rw [← hafter] at hstop
    cases hhead : after.head? with
    | none => exact .inl rfl
    | some c => exact .inr (by simpa [hhead] using hstop)
  have hbody : '\n' ∉ rest.takeWhile (· ≠ '\n') := fun hmem => by
    simpa using List.mem_takeWhile_imp hmem
  rw [htext]
  exact .comment _ ho hbody hend .nil

namespace Lexer

/-- The second lexer skips the comments that the first one reports, in the same place and context. -/
structure SkipsComments (l m : Lexer) : Prop extends Follows l m where
  context_eq : m.context = l.context
  skipped : m.options.comments = false
  newlines_eq : m.options.newlines = l.options.newlines

variable {l m : Lexer}

theorem SkipsComments.pull_of_ne (h : SkipsComments l m) (hhash : l.start.rest.head? ≠ some '#') :
    m.pull.1 = l.pull.1 ∧ l.pull.1.lexeme.kind ≠ .comment ∧ SkipsComments l.pull.2 m.pull.2 := by
  have hstop : trivia m.options false l.start.rest = [] :=
    trivia_eq_nil_of_agree (trivia_start l) (fun _ => h.newlines_eq) (fun hfirst => absurd hfirst hhash)
  have hread : Lexeme.read m.context l.start.rest = l.pull.1.lexeme := by
    rw [h.context_eq, pull_lexeme]
  obtain ⟨hemit, hfollows⟩ := h.toFollows.pull hstop (congrArg Lexeme.text hread)
  have hsame : m.pull.1 = l.pull.1 := by
    rw [hemit, hread, h.context_eq]
    rfl
  have hkind : l.pull.1.lexeme.kind ≠ .comment := fun hkind => hhash (l.pull_isLexeme.head?_of_comment hkind)
  refine ⟨hsame, hkind, hfollows, ?_, h.skipped, h.newlines_eq⟩
  rw [pull_context, pull_context, hsame, h.context_eq]

theorem SkipsComments.pull_comment (h : SkipsComments l m) (hhash : l.start.rest.head? = some '#') :
    l.pull.1.lexeme.kind = .comment ∧ ∃ m', SkipsComments l.pull.2 m' ∧
      ∀ {β : Type} (f : Emission → β), (∀ e gap, f { e with gap } = f e) →
        m'.emissions.map f = m.emissions.map f := by
  obtain ⟨rest, hrest⟩ := List.head?_eq_some_iff.mp hhash
  have hlexeme : l.pull.1.lexeme = .comment ('#' :: rest) := by
    rw [pull_lexeme, hrest]
    exact IsLexeme.comment.read_eq
  have hsplit : (Lexeme.comment ('#' :: rest)).text ++ l.pull.2.cursor.rest = '#' :: rest := by
    rw [← hlexeme, text_append_rest, hrest]
  have htrivia := Lexeme.comment_isTrivia h.skipped hsplit
  rw [← hlexeme] at htrivia
  obtain ⟨hfollows, hemissions⟩ := h.toFollows.skip htrivia
  refine ⟨congrArg Lexeme.kind hlexeme, _, ⟨hfollows, ?_, h.skipped, h.newlines_eq⟩, hemissions⟩
  rw [pull_context, hlexeme]
  exact h.context_eq

theorem SkipsComments.emissions_filter (h : SkipsComments l m) :
    (l.emissions.filter (fun e => e.lexeme.kind ≠ .comment)).map (fun e => (e.token, e.after)) =
      m.emissions.map (fun e => (e.token, e.after)) := by
  induction l using pull_induction generalizing m with
  | stop l he =>
    have hend := (pull_isEof_iff_start l).mp he
    obtain ⟨hsame, hkind, _⟩ := h.pull_of_ne (by simp [hend])
    have he' : m.pull.1.isEof = true := hsame ▸ he
    simp [emissions_of_isEof h.unfinished he, emissions_of_isEof h.unfinished' he', hsame, hkind]
  | step l he ih =>
    rw [emissions_cons h.unfinished he]
    by_cases hhash : l.start.rest.head? = some '#'
    · obtain ⟨hkind, m', hm', hemissions⟩ := h.pull_comment hhash
      rw [← hemissions _ (fun _ _ => rfl), ← ih hm']
      simp [hkind]
    · obtain ⟨hsame, hkind, hnext⟩ := h.pull_of_ne hhash
      have he' : m.pull.1.isEof = false := hsame ▸ he
      rw [emissions_cons h.unfinished' he', hsame, List.map_cons, ← ih hnext]
      simp [hkind]

/-- Without its comment tokens, the stream that reports comments is the stream that skips them, and every
token leaves the same context behind. -/
theorem emissions_report_comments (text : List Char) (newlines : Bool) (file : String) :
    ((ofText text ⟨true, newlines⟩ file).emissions.filter (fun e => e.lexeme.kind ≠ .comment)).map
        (fun e => (e.token, e.after)) =
      (ofText text ⟨false, newlines⟩ file).emissions.map (fun e => (e.token, e.after)) := by
  apply SkipsComments.emissions_filter
  refine ⟨⟨rfl, ⟨fun _ => rfl, id⟩, rfl, rfl⟩, rfl, rfl, rfl⟩

end Lexer

end ScriptLexer
