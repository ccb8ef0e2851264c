import ScriptLexer.Proofs.ContextHistory

/-! Block parameters are well bracketed. Their delimiters open and close in turn, no bar stands between an opening
and a closing one as a symbol, and the tokens before a bar settle which of the three it is. -/

namespace ScriptLexer

/-- Delimiters in turn, where block parameters are open at the start or not. -/
inductive Alternating : Bool → List Kind → Prop
  | nil {inside : Bool} : Alternating inside []
  | opening {kinds : List Kind} (h : Alternating true kinds) : Alternating false (.blockParamOpen :: kinds)
  | closing {kinds : List Kind} (h : Alternating false kinds) : Alternating true (.blockParamClose :: kinds)

/-- The symbols that start with a bar. -/
def Symbol.bars : List Symbol :=
  [.bar, .or, .orEquals]

/-- How a bar at the front of an input is read after tokens of the kinds in the past. -/
inductive BarReading (past : List Kind) (input : List Char) : Lexeme → Prop
  | closing (hopen : blockParamsOpen past = true) : BarReading past input (.plain .blockParamClose ['|'])
  | opening (hopen : blockParamsOpen past = false) (hblock : (nearest past).any Kind.opensBlock = true) :
      BarReading past input (.plain .blockParamOpen ['|'])
  | symbol {s : Symbol} (hopen : blockParamsOpen past = false)
      (hblock : (nearest past).any Kind.opensBlock = false) (hs : s ∈ Symbol.bars)
      (hfront : s.spelling.toList <+: input)
      (hlongest : ∀ t ∈ Symbol.bars, t.spelling.toList <+: input →
        t.spelling.toList.length ≤ s.spelling.toList.length) :
      BarReading past input (.plain (.symbol s) s.spelling.toList)

theorem Symbol.mem_bars_iff (s : Symbol) : s ∈ bars ↔ s.spelling.toList.head? = some '|' := by
  cases s <;> decide

theorem Context.kindOf_of_mem_bars {s : Symbol} (hs : s ∈ Symbol.bars) (c : Context) :
    c.kindOf s = .symbol s := by
  simp only [Symbol.bars, List.mem_cons, List.not_mem_nil, or_false] at hs
  rcases hs with rfl | rfl | rfl <;> rfl

/-- The symbol that a bar starts with, where it delimits no block parameters. -/
theorem BarReading.of_longest? {past : List Kind} {input : List Char} {s : Symbol}
    (hopen : blockParamsOpen past = false) (hblock : (nearest past).any Kind.opensBlock = false)
    (hbar : input.head? = some '|') (hs : Symbol.longest? input Symbol.maxLength = some s) (c : Context) :
    BarReading past input (.plain (c.kindOf s) s.spelling.toList) := by
  obtain ⟨hfront, -, hlongest⟩ := Symbol.longest?_eq_some_iff.mp hs
  have hmem : s ∈ Symbol.bars := by
    obtain ⟨first, tail, hspelling⟩ := List.exists_cons_of_ne_nil s.spelling_ne_nil
    obtain ⟨rest, rfl⟩ := hfront
    rw [hspelling] at hbar
    rw [s.mem_bars_iff, hspelling]
    exact hbar
  rw [c.kindOf_of_mem_bars hmem]
  exact .symbol hopen hblock hmem hfront fun t _ ht => hlongest t ht t.spelling_length_le

theorem BarReading.kind_of_open {past : List Kind} {input : List Char} {x : Lexeme}
    (h : BarReading past input x) (hopen : blockParamsOpen past = true) : x.kind = .blockParamClose := by
  cases h with
  | closing => rfl
  | opening hclosed => exact absurd (hopen.symm.trans hclosed) Bool.noConfusion
  | symbol hclosed => exact absurd (hopen.symm.trans hclosed) Bool.noConfusion

theorem IsLexeme.barReading {past : List Kind} {input : List Char} {x : Lexeme}
    (h : IsLexeme (.ofPast past) input x) (hbar : x.text.head? = some '|') : BarReading past input x := by
  have hfirst : input.head? = some '|' := by
    obtain ⟨rest, hrest⟩ := h.read_eq ▸ Lexeme.read_text_isPrefix (.ofPast past) input
    rw [← hrest, List.head?_append, hbar]
    rfl
  have hdelimits := Context.ofPast_delimitsBlock past
  cases h with
  | eof => exact absurd hfirst (by decide)
  | newline => exact absurd (Option.some.inj hfirst) (by decide)
  | comment => exact absurd (Option.some.inj hfirst) (by decide)
  | @quoted q => exact absurd (Option.some.inj hfirst) (by cases q <;> decide)
  | number hdigit =>
    obtain rfl := Option.some.inj hfirst
    exact absurd hdigit (by decide)
  | word hword => exact absurd (Option.some.inj hfirst) (Word.ne_of_begins hword (by decide) (by decide))
  | bar hc =>
    rw [Lexeme.blockBar, Context.ofPast_inBlockParams]
    rw [hc] at hdelimits
    cases hopen : blockParamsOpen past with
    | true => exact .closing hopen
    | false =>
      rw [hopen, Bool.false_or] at hdelimits
      exact .opening hopen hdelimits.symm
  | symbol hother hs =>
    rw [hother.not_bar (Option.some.inj hfirst)] at hdelimits
    obtain ⟨hopen, hblock⟩ := Bool.or_eq_false_iff.mp hdelimits.symm
    exact .of_longest? hopen hblock hfirst hs _
  | @stray first rest hother hs =>
    obtain rfl : first = '|' := Option.some.inj hfirst
    have hlength := Symbol.longest?_eq_none_iff.mp hs .bar ⟨rest, rfl⟩
    exact absurd hlength (by decide)

theorem IsLexeme.text_of_symbol {c : Context} {input : List Char} {x : Lexeme} {s : Symbol}
    (h : IsLexeme c input x) (hkind : x.kind = .symbol s) : x.text = s.spelling.toList := by
  have horigin := h.origin
  simp only [Lexeme.Origin, hkind] at horigin
  obtain ⟨t, _, rfl⟩ := horigin
  have hkind' : c.kindOf t = .symbol s := hkind
  rcases c.kindOf_cases t with ht | ⟨_, ⟨_, ht⟩ | ⟨_, ht⟩⟩
  · obtain rfl : t = s := Kind.symbol.inj (ht.symm.trans hkind')
    rfl
  · exact absurd (ht.symm.trans hkind') Kind.noConfusion
  · exact absurd (ht.symm.trans hkind') Kind.noConfusion

theorem IsLexeme.kind_of_isDelimiter {c : Context} {input : List Char} {x : Lexeme} (h : IsLexeme c input x)
    (hkind : x.kind.isDelimiter = true) :
    x.kind = if c.inBlockParams then .blockParamClose else .blockParamOpen := by
  have horigin := h.origin
  simp only [Kind.isDelimiter, Bool.or_eq_true, decide_eq_true_eq] at hkind
  rcases hkind with hk | hk <;>
    · simp only [Lexeme.Origin, hk] at horigin
      obtain ⟨-, -, rfl⟩ := horigin
      rfl

theorem Context.after_inBlockParams {c : Context} {k : Kind} (hk : k.isDelimiter = false) :
    (c.after k).inBlockParams = c.inBlockParams := by
  obtain ⟨hopening, hclosing⟩ : k ≠ .blockParamOpen ∧ k ≠ .blockParamClose := by
    simpa [Kind.isDelimiter] using hk
  cases hsilent : k.isSilent with
  | true => rw [after_silent hsilent]
  | false =>
    by_cases hnewline : k = .newline
    · subst hnewline
      cases c <;> rfl
    · rw [after_eq (Kind.isAside_of_ne hsilent hnewline) hopening hclosing]
      cases hc : c.inBlockParams <;> split_ifs <;> first | rfl | contradiction

theorem blockParamsOpen_append {inner : List Kind} (hclose : Kind.blockParamClose ∉ inner)
    (earlier : List Kind) : blockParamsOpen (inner ++ .blockParamOpen :: earlier) = true := by
  induction inner with
  | nil => rfl
  | cons k inner ih =>
    obtain ⟨hk, hinner⟩ : k ≠ .blockParamClose ∧ Kind.blockParamClose ∉ inner := by
      simpa [eq_comm] using hclose
    by_cases hopening : k = .blockParamOpen
    · subst hopening
      rfl
    · rw [List.cons_append, blockParamsOpen_cons (by simp [Kind.isDelimiter, hopening, hk])]
      exact ih hinner

namespace Lexer

theorem emissions_alternating {l : Lexer} (h : l.finished = false) :
    Alternating l.context.inBlockParams
      ((l.emissions.map (fun e => e.lexeme.kind)).filter Kind.isDelimiter) := by
  induction l using pull_induction with
  | stop l he =>
    have hkind : l.pull.1.lexeme.kind = .eof := by simpa [Emission.isEof] using he
    rw [emissions_of_isEof h he, List.map_singleton, hkind]
    exact .nil
  | step l he ih =>
    have htail := ih h
    rw [emissions_cons h he, List.map_cons]
    rw [pull_context] at htail
    cases hk : l.pull.1.lexeme.kind.isDelimiter with
    | false =>
      rw [Context.after_inBlockParams hk] at htail
      rwa [List.filter_cons_of_neg (by simp [hk])]
    | true =>
      have hkind := l.pull_isLexeme.kind_of_isDelimiter hk
      rw [hkind] at htail
      rw [List.filter_cons_of_pos hk, hkind]
      cases hc : l.context.inBlockParams with
      | true =>
        rw [hc] at htail
        exact .closing htail
      | false =>
        rw [hc] at htail
        exact .opening htail

theorem kind_ne_of_blockParamsOpen {text : List Char} {o : Options} {file : String}
    {before after : List Emission} {e : Emission} (hsplit : (ofText text o file).emissions = before ++ e :: after)
    (hopen : blockParamsOpen (before.map (fun e => e.token.kind)).reverse = true) {s : Symbol}
    (hs : s ∈ Symbol.bars) : e.token.kind ≠ .symbol s := by
  intro hkind
  have hlexeme := isLexeme_of_split hsplit
  have htext := hlexeme.text_of_symbol hkind
  have hreading := hlexeme.barReading (htext ▸ s.mem_bars_iff.mp hs)
  exact absurd (hkind.symm.trans (hreading.kind_of_open hopen)) Kind.noConfusion

/-- Block parameters are opened and closed in turn, no bar is a symbol while they are open, and every bar is read
as the tokens before it demand. -/
theorem emissions_bracket_blockParams (text : List Char) (o : Options) (file : String) :
    let emissions := (ofText text o file).emissions
    let kinds := emissions.map (fun e => e.token.kind)
    Alternating false (kinds.filter Kind.isDelimiter) ∧
      (∀ before inner after, kinds = before ++ .blockParamOpen :: (inner ++ after) →
        Kind.blockParamClose ∉ inner → ∀ s ∈ Symbol.bars, Kind.symbol s ∉ inner) ∧
      ∀ before e after, emissions = before ++ e :: after → e.lexeme.text.head? = some '|' →
        BarReading (before.map (fun e => e.token.kind)).reverse (text.drop e.position) e.lexeme := by
  intro emissions kinds
  have halternating : Alternating false (kinds.filter Kind.isDelimiter) :=
    emissions_alternating (l := ofText text o file) rfl
  refine ⟨halternating, ?_, fun before e after hsplit hbar => (isLexeme_of_split hsplit).barReading hbar⟩
  intro before inner after hkinds hclose s hs hmem
  obtain ⟨inner, later, rfl⟩ := List.append_of_mem hmem
  have hsplit : kinds = (before ++ .blockParamOpen :: inner) ++ .symbol s :: (later ++ after) := by
    simpa [List.append_assoc] using hkinds
  obtain ⟨pre, rest, hemissions, hpast, hrest⟩ := List.map_eq_append_iff.mp hsplit
  obtain ⟨e, post, rfl, hkind, -⟩ := List.map_eq_cons_iff.mp hrest
  have hopen : blockParamsOpen (pre.map (fun e => e.token.kind)).reverse = true := by
    rw [hpast, List.reverse_append, List.reverse_cons, List.append_assoc]
    exact blockParamsOpen_append (by simpa using fun h => hclose (List.mem_append_left _ h)) _
  exact kind_ne_of_blockParamsOpen hemissions hopen hs hkind

end Lexer

end ScriptLexer
