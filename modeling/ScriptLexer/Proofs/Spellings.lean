import ScriptLexer.Proofs.Words

/-! Kind and literal agree. Keywords and symbols have one spelling each, the two tables of spellings share none, and
no other token is spelled like a keyword unless its literal is free text. Blanks stand in free text only. -/

namespace ScriptLexer

/-- The symbol that tokens of the kind are spelled like. -/
def Kind.symbol? : Kind → Option Symbol
  | .symbol s => some s
  | .unaryPlus => some .plus
  | .unaryMinus => some .minus
  | .blockParamOpen | .blockParamClose => some .bar
  | _ => none

def blankMarks : List Char := [' ', '\t', '\r', '\n']

/-- The literal is one that a token of the kind may have under the options. -/
structure Token.Agrees (t : Token) (o : Options) (unterminated : Bool) : Prop where
  isKeyword_iff : t.kind.isKeyword = true ↔
    t.kind ∉ [.string, .comment, .illegal] ∧ Word.IsReserved t.literal.toList
  keyword_spelling : ∀ k, t.kind = .keyword k → ∀ text, Keyword.ofSpelling? text = some k ↔ text = t.literal.toList
  symbol_spelling : ∀ s, t.kind.symbol? = some s →
    ∀ text, Symbol.ofSpelling? text = some s ↔ text = t.literal.toList
  not_isReserved : t.kind ∈ [.identifier, .constant, .instanceVariable] → ¬ Word.IsReserved t.literal.toList
  lineBreak : t.kind = .newline → t.literal = "\n" ∧ o.newlines = true
  hash : t.kind = .comment → t.literal.toList.head? = some '#' ∧ '\n' ∉ t.literal.toList ∧ o.comments = true
  not_blank : t.kind ∉ [.string, .comment, .newline] → ¬ (t.kind = .illegal ∧ unterminated = true) →
    ∀ c ∈ blankMarks, c ∉ t.literal.toList

theorem mem_triviaMarks_of_mem_blankMarks {c : Char} (h : c ∈ blankMarks) : c ∈ triviaMarks := by
  simp only [blankMarks, triviaMarks, List.mem_cons, List.not_mem_nil, or_false] at h ⊢
  rcases h with h | h | h | h <;> simp [h]

theorem Keyword.begins_spelling (k : Keyword) : Word.begins k.spelling.toList = true := by
  cases k <;> decide

theorem Symbol.not_begins_spelling (s : Symbol) : Word.begins s.spelling.toList = false := by
  cases s <;> decide

theorem Word.IsReserved.begins {text : List Char} (h : IsReserved text) : begins text = true := by
  obtain ⟨k, rfl⟩ := h
  exact k.begins_spelling

theorem Kind.isKeyword_iff_of_isWord {kind : Kind} {word : List Char} (h : kind.Classifies word) :
    kind.isKeyword = true ↔ Word.IsReserved word := by
  constructor
  · intro hkind
    cases kind with
    | keyword k => exact ⟨k, (h.keyword_iff k).mp rfl⟩
    | _ => exact absurd hkind Bool.noConfusion
  · rintro ⟨k, hk⟩
    rw [(h.keyword_iff k).mpr hk]
    rfl

section Lexeme

variable {c : Context} {input : List Char} {x : Lexeme} {o : Options}

theorem IsLexeme.classifies (h : IsLexeme c input x) (hkind : x.kind.isWord = true) : x.kind.Classifies x.literal := by
  have hbegins := h.begins_of_isWord hkind
  obtain ⟨first, rest, rfl⟩ : ∃ first rest, input = first :: rest :=
    List.exists_cons_of_ne_nil (by rintro rfl; simp [Word.begins] at hbegins)
  obtain rfl : Lexeme.word (first :: rest) = x := (IsLexeme.word hbegins).read_eq.symm.trans h.read_eq
  exact Kind.classifies_ofWord _

theorem IsLexeme.not_begins_literal (h : IsLexeme c input x) (hword : x.kind.isWord = false)
    (hkind : x.kind ∉ [.string, .comment, .illegal]) : Word.begins x.literal = false := by
  cases h with
  | eof => rfl
  | newline => decide
  | comment => simp [Lexeme.comment, Lexeme.plain] at hkind
  | @quoted q rest => rcases Lexeme.quoted_cases q rest with hq | ⟨_, hq⟩ <;> simp [hq] at hkind
  | @number first rest hdigit =>
    have hread : Numeral.read (first :: rest) =
        first :: (rest.takeWhile Char.isDigit ++ Numeral.part (first :: rest)) := by
      simp [Numeral.read, Numeral.whole, hdigit]
    have hliteral : (Lexeme.number (first :: rest)).literal = Numeral.read (first :: rest) := rfl
    rw [hliteral, hread]
    apply Bool.eq_false_iff.mpr
    intro hbegins
    simp [Word.isDigit_of_begins hbegins] at hdigit
  | @word first rest =>
    have hisWord : (Lexeme.word (first :: rest)).kind.isWord = true := Kind.isWord_ofWord _
    exact absurd (hisWord.symm.trans hword) Bool.noConfusion
  | bar =>
    show Word.begins ['|'] = false
    decide
  | @symbol first rest s => exact s.not_begins_spelling
  | stray => simp [Lexeme.plain] at hkind

theorem IsLexeme.isKeyword_iff (h : IsLexeme c input x) : x.kind.isKeyword = true ↔
    x.kind ∉ [.string, .comment, .illegal] ∧ Word.IsReserved x.literal := by
  cases hword : x.kind.isWord with
  | true =>
    have hfree : x.kind ∉ [Kind.string, .comment, .illegal] := by
      intro hmem
      simp only [List.mem_cons, List.not_mem_nil, or_false] at hmem
      rcases hmem with hk | hk | hk <;> rw [hk] at hword <;> exact absurd hword Bool.noConfusion
    rw [Kind.isKeyword_iff_of_isWord (h.classifies hword)]
    exact (and_iff_right hfree).symm
  | false =>
    refine iff_of_false (fun hkeyword => ?_) ?_
    · cases hk : x.kind <;> simp_all [Kind.isKeyword, Kind.isWord]
    · rintro ⟨hkind, hreserved⟩
      have hbegins := hreserved.begins
      rw [h.not_begins_literal hword hkind] at hbegins
      exact absurd hbegins Bool.noConfusion

theorem IsLexeme.literal_of_keyword {k : Keyword} (h : IsLexeme c input x) (hkind : x.kind = .keyword k) :
    x.literal = k.spelling.toList := by
  have hword : x.kind.isWord = true := by rw [hkind]; rfl
  exact (((h.classifies hword).keyword_iff k).mp hkind).symm

theorem IsLexeme.literal_of_symbol? {s : Symbol} (h : IsLexeme c input x) (hkind : x.kind.symbol? = some s) :
    x.literal = s.spelling.toList := by
  cases h with
  | @quoted q rest => rcases Lexeme.quoted_cases q rest with hq | ⟨_, hq⟩ <;> simp [hq, Kind.symbol?] at hkind
  | @number first rest =>
    by_cases hpart : Numeral.part (first :: rest) = [] <;>
      simp [Lexeme.number, Lexeme.plain, hpart, Kind.symbol?] at hkind
  | @word first rest =>
    have hofWord : (Kind.ofWord (Word.read (first :: rest))).symbol? = some s := hkind
    rcases Kind.ofWord_cases (Word.read (first :: rest)) with ⟨k, hk⟩ | hk | hk | hk <;>
      simp [hk, Kind.symbol?] at hofWord
  | bar =>
    obtain rfl : Symbol.bar = s := by
      cases hc : c.inBlockParams <;> simpa [Lexeme.blockBar, Lexeme.plain, hc, Kind.symbol?] using hkind
    rfl
  | @symbol first rest t =>
    have hkindOf : (c.kindOf t).symbol? = some s := hkind
    obtain rfl : t = s := by
      rcases c.kindOf_cases t with ht | ⟨_, ⟨rfl, ht⟩ | ⟨rfl, ht⟩⟩ <;> simpa [ht, Kind.symbol?] using hkindOf
    rfl
  | _ => simp [Lexeme.comment, Lexeme.plain, Kind.symbol?] at hkind

theorem IsLexeme.newlines_of_newline (h : IsLexeme c input x) (hstop : trivia o false input = [])
    (hkind : x.kind = .newline) : o.newlines = true := by
  apply Bool.of_not_eq_false
  intro hnewlines
  exact trivia_eq_nil_iff.mp hstop '\n' (h.head?_of_newline hkind) (.inr (.inl ⟨rfl, hnewlines⟩))

theorem IsLexeme.comments_of_comment (h : IsLexeme c input x) (hstop : trivia o false input = [])
    (hkind : x.kind = .comment) : o.comments = true := by
  apply Bool.of_not_eq_false
  intro hcomments
  exact trivia_eq_nil_iff.mp hstop '#' (h.head?_of_comment hkind) (.inr (.inr ⟨rfl, hcomments⟩))

theorem IsLexeme.literal_of_newline (h : IsLexeme c input x) (hkind : x.kind = .newline) : x.literal = ['\n'] := by
  obtain ⟨rest, rfl⟩ := List.head?_eq_some_iff.mp (h.head?_of_newline hkind)
  obtain rfl := IsLexeme.newline.read_eq.symm.trans h.read_eq
  rfl

theorem IsLexeme.literal_of_comment (h : IsLexeme c input x) (hkind : x.kind = .comment) :
    x.literal.head? = some '#' ∧ '\n' ∉ x.literal := by
  obtain ⟨rest, rfl⟩ := List.head?_eq_some_iff.mp (h.head?_of_comment hkind)
  obtain rfl := IsLexeme.comment.read_eq.symm.trans h.read_eq
  refine ⟨by simp [Lexeme.comment, Lexeme.plain], fun hmem => ?_⟩
  simpa using List.mem_takeWhile_imp (show '\n' ∈ ('#' :: rest).takeWhile (· ≠ '\n') from hmem)

/-- A blank that starts no trivia is a line break, and that is a token of its own. -/
theorem IsLexeme.not_blank (h : IsLexeme c input x) (hstop : trivia o false input = [])
    (hkind : x.kind ∉ [.string, .comment, .newline]) (hclosed : x.unterminated = false) {d : Char}
    (hd : d ∈ blankMarks) : d ∉ x.literal := by
  have hmark := mem_triviaMarks_of_mem_blankMarks hd
  cases h with
  | eof => simp [Lexeme.plain]
  | newline => simp [Lexeme.plain] at hkind
  | comment => simp [Lexeme.comment, Lexeme.plain] at hkind
  | @quoted q rest =>
    rcases Lexeme.quoted_cases q rest with hq | ⟨_, hq⟩
    · simp [hq] at hkind
    · simp [hq] at hclosed
  | @number first rest hdigit =>
    intro hmem
    rcases Numeral.mem_read (show d ∈ Numeral.read (first :: rest) from hmem) with hdig | rfl
    · exact List.any_eq_false.mp Numeral.any_isDigit_triviaMarks d hmark hdig
    · exact absurd hd (by decide)
  | @word first rest =>
    intro hmem
    rcases Word.mem_read (show d ∈ Word.read (first :: rest) from hmem) with hpart | rfl | rfl | rfl
    · exact List.any_eq_false.mp Word.any_isPart_triviaMarks d hmark hpart
    all_goals exact absurd hd (by decide)
  | bar =>
    intro hmem
    obtain rfl : d = '|' := by simpa [Lexeme.blockBar, Lexeme.plain] using hmem
    exact absurd hd (by decide)
  | symbol => exact Symbol.not_mem_spelling _ (List.mem_cons_of_mem '@' hmark)
  | @stray first rest hother _ =>
    intro hmem
    obtain rfl : d = first := by simpa [Lexeme.plain] using hmem
    have hnot := trivia_eq_nil_iff.mp hstop d rfl
    simp only [blankMarks, List.mem_cons, List.not_mem_nil, or_false] at hd
    rcases hd with rfl | rfl | rfl | rfl
    · exact hnot (.inl (.inl rfl))
    · exact hnot (.inl (.inr (.inl rfl)))
    · exact hnot (.inl (.inr (.inr rfl)))
    · exact hother.not_lineBreak rfl

theorem IsLexeme.agrees (h : IsLexeme c input x) (hstop : trivia o false input = []) (line : Nat) :
    Token.Agrees ⟨x.kind, String.ofList x.literal, line⟩ o x.unterminated := by
  constructor <;> simp only [String.toList_ofList]
  case isKeyword_iff => exact h.isKeyword_iff
  case keyword_spelling =>
    intro k hk text
    rw [Keyword.ofSpelling?_eq_some_iff, h.literal_of_keyword hk, eq_comm]
  case symbol_spelling =>
    intro s hs text
    rw [Symbol.ofSpelling?_eq_some_iff, h.literal_of_symbol? hs, eq_comm]
  case not_isReserved =>
    intro hname hreserved
    simp only [List.mem_cons, List.not_mem_nil, or_false] at hname
    have hkeyword := h.isKeyword_iff.mpr ⟨by rcases hname with hk | hk | hk <;> simp [hk], hreserved⟩
    rcases hname with hk | hk | hk <;> rw [hk] at hkeyword <;> exact absurd hkeyword Bool.noConfusion
  case lineBreak =>
    intro hk
    rw [h.literal_of_newline hk]
    exact ⟨rfl, h.newlines_of_newline hstop hk⟩
  case hash =>
    intro hk
    obtain ⟨hfirst, hbreak⟩ := h.literal_of_comment hk
    exact ⟨hfirst, hbreak, h.comments_of_comment hstop hk⟩
  case not_blank =>
    intro hk hclosed d hd
    have hx : x.unterminated = false := by
      apply Bool.eq_false_iff.mpr
      intro hopen
      exact hclosed ⟨(h.unterminated_eq hopen).1, hopen⟩
    exact h.not_blank hstop hk hx hd

end Lexeme

namespace Lexer

theorem pull_agrees (l : Lexer) : l.pull.1.token.Agrees l.options l.pull.1.lexeme.unterminated :=
  l.pull_isLexeme.agrees l.trivia_start l.pull.1.line

/-- Each token of a stream has a literal that suits its kind, whatever the options are. -/
theorem emissions_agree (text : List Char) (o : Options) (file : String) :
    ∀ e ∈ (ofText text o file).emissions, e.token.Agrees o e.lexeme.unterminated := by
  intro e he
  obtain ⟨n, rfl⟩ := exists_pulled_of_mem rfl he
  have hpull := pull_agrees ((ofText text o file).pulled n)
  rwa [pulled_options] at hpull

/-- The word is reserved with its suffix, and only that one spelling is read as its keyword. -/
theorem emissions_agree_keyword :
    let l := ofText ['\t', 'b', 'l', 'o', 'c', 'k', '!'] {} defaultFile
    let e := l.pull.1
    e ∈ l.emissions ∧ e.token = ⟨.keyword .kwGetBlock, "block!", 1⟩ ∧ Word.IsReserved e.token.literal.toList ∧
      ∀ text, Keyword.ofSpelling? text = some .kwGetBlock ↔ text = e.token.literal.toList := by
  intro l e
  have hmem : e ∈ l.emissions := pull_mem_emissions rfl
  have hagrees := emissions_agree ['\t', 'b', 'l', 'o', 'c', 'k', '!'] {} defaultFile e hmem
  have htoken : e.token = ⟨.keyword .kwGetBlock, "block!", 1⟩ := by decide
  refine ⟨hmem, htoken, ?_, ?_⟩
  · exact (hagrees.isKeyword_iff.mp (by rw [htoken]; rfl)).2
  · exact hagrees.keyword_spelling .kwGetBlock (by rw [htoken])

end Lexer

end ScriptLexer
