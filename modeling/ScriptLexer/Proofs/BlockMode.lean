import ScriptLexer.Proofs.ContextHistory
import ScriptLexer.Proofs.LineBreaks

/-! The part of a context that settles where lexemes end. Besides what a bar does, a context only decides whether
a sign belongs to its operand. What a bar does is a mode of three values, which goes from token to token by
itself. -/

namespace ScriptLexer

/-- What a bar does: it is a symbol, it opens block parameters, or it closes them. -/
inductive BlockMode where
  | outside
  | opening
  | inside
  deriving DecidableEq, Repr

/-- The mode after a token. Signs of either kind do the same to it. -/
def BlockMode.after (mode : BlockMode) : Kind → BlockMode
  | .eof | .illegal | .comment | .newline => mode
  | .blockParamOpen => .inside
  | .blockParamClose => .outside
  | k => if mode = .inside then .inside else if k.opensBlock then .opening else .outside

def Context.blockMode : Context → BlockMode
  | .expectBlockParams => .opening
  | .blockParams | .blockParamsOperator => .inside
  | .initial | .expectOperand | .expectOperator | .expectMember => .outside

def Kind.SameButSign (k k' : Kind) : Prop :=
  k' = k ∨ SignSplit k k' ∨ SignSplit k' k

/-- The tokens are read from the same place of the text and stand for the same, signs apart. -/
structure Emission.SameButSign (e e' : Emission) : Prop where
  gap_eq : e'.gap = e.gap
  text_eq : e'.lexeme.text = e.lexeme.text
  position_eq : e'.position = e.position
  literal_eq : e'.token.literal = e.token.literal
  line_eq : e'.token.line = e.token.line
  kind : e.token.kind.SameButSign e'.token.kind

theorem Kind.SameButSign.eof_iff {k k' : Kind} (h : k.SameButSign k') : k' = .eof ↔ k = .eof := by
  have hsign : ∀ {k k' : Kind}, SignSplit k k' → k ≠ .eof ∧ k' ≠ .eof := by
    intro k k' h
    cases h <;> exact ⟨Kind.noConfusion, Kind.noConfusion⟩
  rcases h with rfl | h | h
  · rfl
  · exact iff_of_false (hsign h).2 (hsign h).1
  · exact iff_of_false (hsign h).1 (hsign h).2

theorem Emission.SameButSign.isEof_eq {e e' : Emission} (h : e.SameButSign e') : e'.isEof = e.isEof :=
  decide_eq_decide.mpr h.kind.eof_iff

theorem Emission.SameButSign.forall_text {P : List Char → Prop} {es es' : List Emission}
    (h : List.Forall₂ SameButSign es es') (hes : ∀ e ∈ es, P e.lexeme.text) : ∀ e ∈ es', P e.lexeme.text := by
  induction h with
  | nil => exact hes
  | cons hsame _ ih =>
    obtain ⟨hhead, htail⟩ := List.forall_mem_cons.mp hes
    exact List.forall_mem_cons.mpr ⟨hsame.text_eq ▸ hhead, ih htail⟩

theorem BlockMode.after_visible {k : Kind} (mode : BlockMode) (hk : k.isAside = false)
    (hopen : k ≠ .blockParamOpen) (hclose : k ≠ .blockParamClose) :
    mode.after k = if mode = .inside then .inside else if k.opensBlock then .opening else .outside := by
  unfold after
  split <;> simp_all [Kind.isAside]

theorem BlockMode.after_sameButSign {k k' : Kind} (mode : BlockMode) (h : k.SameButSign k') :
    mode.after k = mode.after k' := by
  have hsign : ∀ {k k' : Kind}, SignSplit k k' → mode.after k = mode.after k' := by
    intro k k' h
    cases h <;> rfl
  rcases h with rfl | h | h
  · rfl
  · exact hsign h
  · exact (hsign h).symm

namespace Context

theorem inBlockParams_eq (c : Context) : c.inBlockParams = decide (c.blockMode = .inside) := by
  cases c <;> rfl

theorem delimitsBlock_eq (c : Context) : c.delimitsBlock = decide (c.blockMode ≠ .outside) := by
  cases c <;> rfl

theorem inBlockParams_congr {c d : Context} (h : c.blockMode = d.blockMode) :
    c.inBlockParams = d.inBlockParams := by
  rw [inBlockParams_eq, inBlockParams_eq, h]

theorem delimitsBlock_congr {c d : Context} (h : c.blockMode = d.blockMode) :
    c.delimitsBlock = d.delimitsBlock := by
  rw [delimitsBlock_eq, delimitsBlock_eq, h]

theorem blockMode_after (c : Context) (k : Kind) : (c.after k).blockMode = c.blockMode.after k := by
  cases haside : k.isAside with
  | true =>
    have hk : k = .eof ∨ k = .illegal ∨ k = .comment ∨ k = .newline := by
      simpa [Kind.isAside, or_assoc] using haside
    rcases hk with rfl | rfl | rfl | rfl <;> cases c <;> rfl
  | false =>
    by_cases hopen : k = .blockParamOpen
    · rw [hopen]
      rfl
    by_cases hclose : k = .blockParamClose
    · rw [hclose]
      rfl
    rw [after_eq haside hopen hclose, BlockMode.after_visible _ haside hopen hclose, inBlockParams_eq]
    by_cases hmode : c.blockMode = .inside
    · simp only [hmode, decide_true, if_true]
      split <;> rfl
    · simp only [hmode, decide_false, if_false, Bool.false_eq_true]
      cases hopens : k.opensBlock with
      | true =>
        obtain ⟨hselects, hends, hkeyword⟩ := Kind.opensBlock_exclusive hopens
        simp [hselects, hends, hkeyword, blockMode]
      | false =>
        simp only [Bool.false_eq_true, if_false]
        split_ifs <;> rfl

theorem kindOf_sameButSign (c d : Context) (s : Symbol) : (c.kindOf s).SameButSign (d.kindOf s) := by
  cases hd : d.expectsOperand with
  | false => exact (kindOf_eq_or_signSplit (by simp [hd]) s).imp_right .inl
  | true =>
    cases hc : c.expectsOperand with
    | true => exact (kindOf_eq_or_signSplit (fun _ => hc) s).imp_right .inl
    | false => exact (kindOf_eq_or_signSplit (by simp [hc]) s).imp Eq.symm .inr

end Context

/-- Where no bar is read, or where it does the same in both contexts, a lexeme is read alike but for its sign. -/
theorem Lexeme.read_of_blockMode {c d : Context} {input : List Char}
    (h : c.blockMode = d.blockMode ∨ input.head? ≠ some '|') :
    ∃ kind, read d input = { read c input with kind } ∧ (read c input).kind.SameButSign kind := by
  have hread := isLexeme_read c input
  generalize read c input = x at hread
  have hsame : IsLexeme d input x → ∃ kind, read d input = { x with kind } ∧ x.kind.SameButSign kind :=
    fun h => ⟨x.kind, h.read_eq, .inl rfl⟩
  have hother : ∀ {first : Char} {rest : List Char}, input = first :: rest → Unclaimed c first rest →
      Unclaimed d first rest := by
    rintro first rest rfl hc
    refine ⟨hc.not_lineBreak, hc.not_hash, hc.not_quote, hc.not_digit, hc.not_word, fun hbar => ?_⟩
    have hmode := h.resolve_right (by simp [hbar])
    exact (Context.delimitsBlock_congr hmode).symm.trans (hc.not_bar hbar)
  cases hread with
  | eof => exact hsame .eof
  | newline => exact hsame .newline
  | comment => exact hsame .comment
  | quoted => exact hsame .quoted
  | number hdigit => exact hsame (.number hdigit)
  | word hword => exact hsame (.word hword)
  | @bar rest hbar =>
    have hmode := h.resolve_right (by simp)
    have hd : IsLexeme d ('|' :: rest) (.blockBar d) := .bar ((Context.delimitsBlock_congr hmode).symm.trans hbar)
    refine hsame ?_
    rwa [blockBar, ← Context.inBlockParams_congr hmode, ← blockBar] at hd
  | stray hc hs => exact hsame (.stray (hother rfl hc) hs)
  | symbol hc hs => exact ⟨_, (IsLexeme.symbol (hother rfl hc) hs).read_eq, c.kindOf_sameButSign d _⟩

namespace Lexer

/-- Two lexers at one place of one text, where bars do the same in both contexts or where there are none. -/
structure SharesText (l m : Lexer) : Prop extends Follows l m where
  options_eq : m.options = l.options
  modes : l.context.blockMode = m.context.blockMode ∨ ∀ e ∈ l.emissions, e.lexeme.text.head? ≠ some '|'

variable {l m : Lexer}

theorem SharesText.pull (h : SharesText l m) : l.pull.1.SameButSign m.pull.1 ∧
    (l.pull.1.isEof = false → SharesText l.pull.2 m.pull.2) := by
  have hstop : trivia m.options false l.start.rest = [] := by
    rw [h.options_eq]
    exact trivia_start l
  have hbar : l.context.blockMode = m.context.blockMode ∨ l.start.rest.head? ≠ some '|' := by
    rw [← head?_text]
    exact h.modes.imp_right fun hbars => hbars _ (pull_mem_emissions h.unfinished)
  obtain ⟨kind, hread, hkind⟩ := Lexeme.read_of_blockMode hbar
  rw [← pull_lexeme] at hread hkind
  obtain ⟨hemit, hfollows⟩ := h.toFollows.pull hstop (by rw [hread])
  rw [hread] at hemit
  refine ⟨?_, fun he => ⟨hfollows, h.options_eq, ?_⟩⟩
  · rw [hemit]
    exact ⟨rfl, rfl, rfl, rfl, rfl, hkind⟩
  · rcases h.modes with hmode | hbars
    · left
      rw [pull_context, pull_context, hemit, Context.blockMode_after, Context.blockMode_after, hmode]
      exact BlockMode.after_sameButSign _ hkind
    · right
      rw [emissions_cons h.unfinished he] at hbars
      exact (List.forall_mem_cons.mp hbars).2

theorem SharesText.emissions (h : SharesText l m) : List.Forall₂ Emission.SameButSign l.emissions m.emissions :=
  forall₂_emissions (fun h => ⟨h.unfinished, h.unfinished'⟩) (fun h => h.isEof_eq) (fun h => h.pull) h

/-- In two contexts where a bar does the same, or in any two if no lexeme starts with a bar, a lexer cuts its text
into the same lexemes with the same literals. Only a sign can belong to its operand for the one and not for the
other. -/
theorem emissions_of_blockMode (l : Lexer) (c d : Context)
    (h : c.blockMode = d.blockMode ∨
      ∃ context, ∀ e ∈ ({ l with context } : Lexer).emissions, e.lexeme.text.head? ≠ some '|') :
    List.Forall₂ Emission.SameButSign ({ l with context := c } : Lexer).emissions
      ({ l with context := d } : Lexer).emissions := by
  have hshares : l.finished = false → ∀ c d : Context, (c.blockMode = d.blockMode ∨
      ∀ e ∈ ({ l with context := c } : Lexer).emissions, e.lexeme.text.head? ≠ some '|') →
      List.Forall₂ Emission.SameButSign ({ l with context := c } : Lexer).emissions
        ({ l with context := d } : Lexer).emissions :=
    fun hl c d hmodes => SharesText.emissions ⟨⟨rfl, ⟨id, id⟩, hl, hl⟩, rfl, hmodes⟩
  rcases Bool.eq_false_or_eq_true l.finished with hl | hl
  · have hnil : ∀ context, ({ l with context } : Lexer).emissions = [] :=
      fun context => emissions_of_finished (l := { l with context }) hl
    rw [hnil, hnil]
    exact .nil
  · rcases h with hmode | ⟨context, hbars⟩
    · exact hshares hl c d (.inl hmode)
    · -- The first of the two contexts gives the lexemes of the one without bars, and so has none either.
      have hsame := hshares hl context c (.inr hbars)
      refine hshares hl c d (.inr ?_)
      exact Emission.SameButSign.forall_text (P := fun text => text.head? ≠ some '|') hsame hbars

/-- A keyword that names a member ends an expression, so that the sign after it is read otherwise than after a
keyword that stands for itself. Where there is no bar, open block parameters make no other difference. -/
theorem emissions_of_blockMode_keyword :
    let l := ofText ['d', 'e', 'f', '-', '|'] {} defaultFile
    let m := ofText ['+', 'a'] {} defaultFile
    Context.expectMember.blockMode = Context.expectOperand.blockMode ∧
      List.Forall₂ Emission.SameButSign ({ l with context := .expectMember } : Lexer).emissions
        ({ l with context := .expectOperand } : Lexer).emissions ∧
      ({ l with context := .expectMember } : Lexer).emissions.map (fun e => e.token.kind) =
        [.keyword .kwDef, .symbol .minus, .symbol .bar, .eof] ∧
      ({ l with context := .expectOperand } : Lexer).emissions.map (fun e => e.token.kind) =
        [.keyword .kwDef, .unaryMinus, .symbol .bar, .eof] ∧
      (∀ e ∈ ({ m with context := .initial } : Lexer).emissions, e.lexeme.text.head? ≠ some '|') ∧
      List.Forall₂ Emission.SameButSign ({ m with context := .initial } : Lexer).emissions
        ({ m with context := .blockParamsOperator } : Lexer).emissions := by
  intro l m
  have hmode : Context.expectMember.blockMode = Context.expectOperand.blockMode := rfl
  have hbars : ∀ e ∈ ({ m with context := .initial } : Lexer).emissions, e.lexeme.text.head? ≠ some '|' := by
    decide
  exact ⟨hmode, emissions_of_blockMode l .expectMember .expectOperand (.inl hmode), by decide, by decide, hbars,
    emissions_of_blockMode m .initial .blockParamsOperator (.inr ⟨.initial, hbars⟩)⟩

end Lexer

end ScriptLexer
