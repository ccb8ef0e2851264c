import ScriptLexer.Proofs.ContextDrift
import ScriptLexer.Proofs.Stream

/-! Reporting line breaks changes nothing but the reading of signs. A line break that one lexer reports is
trivia to another that does not, and where their contexts have drifted apart they still take the same
lexemes. -/

namespace ScriptLexer

theorem Context.kindOf_eq_or_signSplit {c d : Context} (h : d.expectsOperand = true → c.expectsOperand = true)
    (s : Symbol) : d.kindOf s = c.kindOf s ∨ SignSplit (c.kindOf s) (d.kindOf s) := by
  rcases kindOf_cases d s with hd | ⟨hoperand, hd⟩
  · rcases kindOf_cases c s with hc | ⟨_, ⟨rfl, hc⟩ | ⟨rfl, hc⟩⟩
    · exact .inl (hd.trans hc.symm)
    · rw [hc, hd]
      exact .inr .plus
    · rw [hc, hd]
      exact .inr .minus
  · have hc := h hoperand
    rcases hd with ⟨rfl, _⟩ | ⟨rfl, _⟩ <;> simp [kindOf, hoperand, hc]

theorem Unclaimed.of_not_delimitsBlock {c d : Context} {first : Char} {rest : List Char}
    (h : Unclaimed c first rest) (hd : d.delimitsBlock = false) : Unclaimed d first rest :=
  ⟨h.not_lineBreak, h.not_hash, h.not_quote, h.not_digit, h.not_word, fun _ => hd⟩

theorem Lexeme.read_of_not_delimitsBlock {c d : Context} (hc : c.delimitsBlock = false)
    (hd : d.delimitsBlock = false) (hoperand : d.expectsOperand = true → c.expectsOperand = true)
    (input : List Char) : ∃ kind, read d input = { read c input with kind } ∧
      (kind = (read c input).kind ∨ SignSplit (read c input).kind kind) := by
  have hread := isLexeme_read c input
  generalize read c input = x at hread
  have hsame : IsLexeme d input x → ∃ kind, read d input = { x with kind } ∧
      (kind = x.kind ∨ SignSplit x.kind kind) := fun h => ⟨x.kind, h.read_eq, .inl rfl⟩
  cases hread with
  | eof => exact hsame .eof
  | newline => exact hsame .newline
  | comment => exact hsame .comment
  | quoted => exact hsame .quoted
  | number hdigit => exact hsame (.number hdigit)
  | word hword => exact hsame (.word hword)
  | bar hbar => exact absurd (hbar.symm.trans hc) Bool.noConfusion
  | stray hother hs => exact hsame (.stray (hother.of_not_delimitsBlock hd) hs)
  | symbol hother hs =>
    exact ⟨_, (IsLexeme.symbol (hother.of_not_delimitsBlock hd) hs).read_eq,
      Context.kindOf_eq_or_signSplit hoperand _⟩

theorem Drift.read {past : List Kind} {c d : Context} (h : Drift past c d) (input : List Char) :
    ∃ kind, Lexeme.read d input = { Lexeme.read c input with kind } ∧
      (kind = (Lexeme.read c input).kind ∨ c ≠ d ∧ SignSplit (Lexeme.read c input).kind kind) := by
  by_cases hne : c = d
  · subst hne
    exact ⟨_, rfl, .inl rfl⟩
  · obtain ⟨rfl, hd⟩ : c = .expectOperand ∧ d.delimitsBlock = false := by
      cases h with
      | same => exact absurd rfl hne
      | broken hd => exact ⟨rfl, hd⟩
      | named => exact ⟨rfl, rfl⟩
    obtain ⟨kind, hread, hkind⟩ :=
      Lexeme.read_of_not_delimitsBlock (c := .expectOperand) rfl hd (fun _ => rfl) input
    exact ⟨kind, hread, hkind.imp_right (And.intro hne)⟩

/-- Without the line breaks, the tokens are the same, but a sign that follows a line break belongs to its operand
where it would not have otherwise. -/
structure SameButSigns (tokens joined : List Token) : Prop where
  literal_line_eq : (tokens.filter (fun t => t.kind ≠ .newline)).map (fun t => (t.literal, t.line)) =
    joined.map (fun u => (u.literal, u.line))
  kind_at : ∀ before t after, tokens = before ++ t :: after → t.kind ≠ .newline →
    ∃ u, joined[(before.filter (fun t => t.kind ≠ .newline)).length]? = some u ∧
      (u.kind = t.kind ∨ SignSplit t.kind u.kind ∧ followsLineBreak (before.map Token.kind).reverse = true)

/-- The tokens of a stream that has line breaks, after the kinds in `past`, and those of one that has none. -/
inductive Aligned : List Kind → List Token → List Token → Prop
  | nil {past : List Kind} : Aligned past [] []
  | lineBreak {past : List Kind} {tokens joined : List Token} {t : Token} (ht : t.kind = .newline)
      (h : Aligned (.newline :: past) tokens joined) : Aligned past (t :: tokens) joined
  | token {past : List Kind} {tokens joined : List Token} {t u : Token} (ht : t.kind ≠ .newline)
      (hliteral : u.literal = t.literal) (hline : u.line = t.line)
      (hkind : u.kind = t.kind ∨ SignSplit t.kind u.kind ∧ followsLineBreak past = true)
      (h : Aligned (t.kind :: past) tokens joined) : Aligned past (t :: tokens) (u :: joined)

namespace Aligned

variable {past : List Kind} {tokens joined : List Token}

theorem map_eq (h : Aligned past tokens joined) :
    (tokens.filter (fun t => t.kind ≠ .newline)).map (fun t => (t.literal, t.line)) =
      joined.map (fun u => (u.literal, u.line)) := by
  induction h with
  | nil => rfl
  | lineBreak ht _ ih => simpa [ht] using ih
  | token ht hliteral hline _ _ ih => simpa [ht, hliteral, hline] using ih

theorem kind_at (h : Aligned past tokens joined) {before after : List Token} {t : Token}
    (hsplit : tokens = before ++ t :: after) (ht : t.kind ≠ .newline) :
    ∃ u, joined[(before.filter (fun t => t.kind ≠ .newline)).length]? = some u ∧
      (u.kind = t.kind ∨ SignSplit t.kind u.kind ∧
        followsLineBreak ((before.map Token.kind).reverse ++ past) = true) := by
  induction h generalizing before with
  | nil => simp at hsplit
  | lineBreak hbreak _ ih =>
    cases before with
    | nil =>
      obtain ⟨rfl, _⟩ := List.cons.inj hsplit
      exact absurd hbreak ht
    | cons first before =>
      obtain ⟨rfl, htail⟩ := List.cons.inj hsplit
      simpa [hbreak] using ih htail
  | token hfirst _ _ hkind _ ih =>
    cases before with
    | nil =>
      obtain ⟨rfl, _⟩ := List.cons.inj hsplit
      exact ⟨_, rfl, hkind⟩
    | cons first before =>
      obtain ⟨rfl, htail⟩ := List.cons.inj hsplit
      simpa [hfirst] using ih htail

end Aligned

theorem IsTrivia.not_mem_lineBreak {o : Options} {next : Option Char} {gap : List Char}
    (ho : o.newlines = true) (h : IsTrivia o next gap) : '\n' ∉ gap := by
  induction h with
  | nil => exact List.not_mem_nil
  | blank hc _ ih =>
    rcases hc with rfl | rfl | rfl <;> simpa using ih
  | lineBreak hn => exact absurd (ho.symm.trans hn) Bool.noConfusion
  | comment body _ hbody _ _ ih => simp [hbody, ih]

theorem IsLexeme.eq_of_newline {c : Context} {input : List Char} {x : Lexeme} (h : IsLexeme c input x)
    (hkind : x.kind = .newline) : x = .plain .newline ['\n'] := by
  obtain ⟨rest, rfl⟩ := List.head?_eq_some_iff.mp (h.head?_of_newline hkind)
  rw [← h.read_eq]
  exact IsLexeme.newline.read_eq

namespace Lexer

/-- The second lexer skips the line breaks that the first one reports after the kinds in `past`. -/
structure JoinsLines (past : List Kind) (l m : Lexer) : Prop extends Follows l m where
  drift : Drift past l.context m.context
  reported : l.options.newlines = true
  skipped : m.options.newlines = false
  comments_eq : m.options.comments = l.options.comments

variable {past : List Kind} {l m : Lexer}

theorem JoinsLines.pull_lineBreak (h : JoinsLines past l m) (hbreak : l.start.rest.head? = some '\n') :
    l.pull.1.lexeme = .plain .newline ['\n'] ∧ ∃ m', JoinsLines (.newline :: past) l.pull.2 m' ∧
      m'.emissions.map Emission.token = m.emissions.map Emission.token := by
  obtain ⟨rest, hrest⟩ := List.head?_eq_some_iff.mp hbreak
  have hlexeme : l.pull.1.lexeme = .plain .newline ['\n'] := by
    rw [pull_lexeme, hrest]
    exact IsLexeme.newline.read_eq
  have htrivia : IsTrivia m.options l.pull.2.cursor.rest.head? l.pull.1.lexeme.text := by
    rw [hlexeme]
    exact .lineBreak h.skipped .nil
  obtain ⟨hfollows, hemissions⟩ := h.toFollows.skip htrivia
  have hcontext : l.pull.2.context = l.context.after .newline := by
    rw [pull_context, hlexeme]
    rfl
  refine ⟨hlexeme, _, ⟨hfollows, ?_, h.reported, h.skipped, h.comments_eq⟩, hemissions _ (fun _ _ => rfl)⟩
  rw [hcontext]
  exact h.drift.newline

theorem JoinsLines.pull_of_ne (h : JoinsLines past l m) (hbreak : l.start.rest.head? ≠ some '\n') :
    l.pull.1.lexeme.kind ≠ .newline ∧
      (∃ kind, m.pull.1.token = { l.pull.1.token with kind } ∧ m.pull.1.isEof = l.pull.1.isEof ∧
        (kind = l.pull.1.token.kind ∨
          SignSplit l.pull.1.token.kind kind ∧ followsLineBreak past = true)) ∧
      (l.pull.1.isEof = false → JoinsLines (l.pull.1.token.kind :: past) l.pull.2 m.pull.2) := by
  have hstop : trivia m.options false l.start.rest = [] :=
    trivia_eq_nil_of_agree (trivia_start l) (fun hfirst => absurd hfirst hbreak) (fun _ => h.comments_eq)
  obtain ⟨kind, hread, hkind⟩ := h.drift.read l.start.rest
  rw [← pull_lexeme] at hread hkind
  obtain ⟨hemit, hfollows⟩ := h.toFollows.pull hstop (by rw [hread])
  rw [hread] at hemit
  have hmkind : m.pull.1.lexeme.kind = kind := by rw [hemit]
  have hnewline : l.pull.1.lexeme.kind ≠ .newline := fun hkind =>
    hbreak (l.pull_isLexeme.head?_of_newline hkind)
  refine ⟨hnewline, ⟨kind, by rw [hemit]; rfl, ?_, ?_⟩,
    fun he => ⟨hfollows, ?_, h.reported, h.skipped, h.comments_eq⟩⟩
  · rw [Emission.isEof, Emission.isEof, hmkind]
    obtain rfl | ⟨_, hsign⟩ := hkind
    · rfl
    · generalize l.pull.1.lexeme.kind = k at hsign
      cases hsign <;> rfl
  · exact hkind.imp_right fun hsplit => ⟨hsplit.2, h.drift.followsLineBreak_of_ne hsplit.1⟩
  · rw [pull_context, pull_context, hmkind]
    have heof : l.pull.1.lexeme.kind ≠ .eof := by simpa [Emission.isEof] using he
    exact h.drift.token hkind heof hnewline

theorem JoinsLines.aligned (h : JoinsLines past l m) :
    Aligned past (l.emissions.map Emission.token) (m.emissions.map Emission.token) := by
  induction l using pull_induction generalizing past m with
  | stop l he =>
    have hend := (pull_isEof_iff_start l).mp he
    obtain ⟨hnewline, ⟨kind, htoken, he', hkind⟩, _⟩ := h.pull_of_ne (by simp [hend])
    rw [he] at he'
    rw [emissions_of_isEof h.unfinished he, emissions_of_isEof h.unfinished' he', List.map_singleton,
      List.map_singleton, htoken]
    -- The end token is read alike, whatever the contexts, and is the last one of both streams.
    exact .token hnewline rfl rfl hkind .nil
  | step l he ih =>
    rw [emissions_cons h.unfinished he, List.map_cons]
    by_cases hbreak : l.start.rest.head? = some '\n'
    · obtain ⟨hlexeme, m', hm', hemissions⟩ := h.pull_lineBreak hbreak
      have hkind : l.pull.1.token.kind = .newline := congrArg Lexeme.kind hlexeme
      rw [← hemissions]
      exact .lineBreak hkind (ih hm')
    · obtain ⟨hnewline, ⟨kind, htoken, he', hkind⟩, hnext⟩ := h.pull_of_ne hbreak
      rw [he] at he'
      rw [emissions_cons h.unfinished' he', List.map_cons, htoken]
      exact .token hnewline rfl rfl hkind (ih (hnext he))

theorem pull_count_lineBreak (h : l.options.newlines = true) : l.pull.1.covered.count '\n' =
    (if l.pull.1.lexeme.kind = .newline then 1 else 0) +
      if l.pull.1.lexeme.isQuoted then l.pull.1.lexeme.text.count '\n' else 0 := by
  have hgap : l.pull.1.gap.count '\n' = 0 :=
    List.count_eq_zero.mpr ((trivia_isTrivia l.options l.cursor.rest).not_mem_lineBreak h)
  rw [Emission.covered, List.count_append, hgap, Nat.zero_add]
  by_cases hkind : l.pull.1.lexeme.kind = .newline
  · have hplain : l.pull.1.lexeme = .plain .newline ['\n'] := l.pull_isLexeme.eq_of_newline hkind
    rw [hplain]
    rfl
  · cases hquoted : l.pull.1.lexeme.isQuoted with
    | true => simp [hkind]
    | false =>
      have htext := List.count_eq_zero.mpr (l.pull_isLexeme.not_mem_lineBreak hkind hquoted)
      simp [hkind, htext]

theorem emissions_count_lineBreak (h : l.finished = false) (hn : l.options.newlines = true) :
    l.emissions.countP (fun e => e.lexeme.kind = .newline) +
        ((l.emissions.filter (fun e => e.lexeme.isQuoted)).flatMap (fun e => e.lexeme.text)).count '\n' =
      l.cursor.rest.count '\n' := by
  induction l using pull_induction with
  | stop l he =>
    have hcovered : l.pull.1.covered = l.cursor.rest := by
      simpa [emissions_of_isEof h he] using emissions_covered h
    rw [← hcovered, pull_count_lineBreak hn, emissions_of_isEof h he]
    cases hquoted : l.pull.1.lexeme.isQuoted <;> simp [hquoted, List.countP_singleton]
  | step l he ih =>
    have htail := ih h hn
    have hrest : l.pull.1.covered ++ l.pull.2.cursor.rest = l.cursor.rest := pull_rest l
    rw [← hrest, List.count_append, pull_count_lineBreak hn, ← htail, emissions_cons h he]
    cases hquoted : l.pull.1.lexeme.isQuoted with
    | true =>
      simp [hquoted, List.countP_cons]
      omega
    | false =>
      simp [hquoted, List.countP_cons]
      omega

/-- Without its line breaks, the stream that reports them has the tokens of the stream that does not, but for
the reading of signs. There are as many line break tokens as there are line breaks outside strings. -/
theorem emissions_report_lineBreaks (text : List Char) (comments : Bool) (file : String) :
    SameButSigns ((ofText text ⟨comments, true⟩ file).emissions.map Emission.token)
        ((ofText text ⟨comments, false⟩ file).emissions.map Emission.token) ∧
      (ofText text ⟨comments, true⟩ file).emissions.countP (fun e => e.token.kind = .newline) +
          (((ofText text ⟨comments, true⟩ file).emissions.filter (fun e => e.lexeme.isQuoted)).flatMap
            (fun e => e.lexeme.text)).count '\n' =
        text.count '\n' := by
  have hjoins : JoinsLines [] (ofText text ⟨comments, true⟩ file) (ofText text ⟨comments, false⟩ file) :=
    ⟨⟨rfl, ⟨id, fun _ => rfl⟩, rfl, rfl⟩, .same Context.noConfusion, rfl, rfl, rfl⟩
  refine ⟨⟨hjoins.aligned.map_eq, fun before t after hsplit ht => ?_⟩, ?_⟩
  · simpa using hjoins.aligned.kind_at hsplit ht
  · exact emissions_count_lineBreak (l := ofText text ⟨comments, true⟩ file) rfl rfl

end Lexer

end ScriptLexer
