import Mathlib.Data.List.TakeWhile
import ScriptLexer.Lexeme
import ScriptLexer.Proofs.TriviaShape

/-! The lexeme at the front of an input as a relation, with one case for each way of reading. The guards of
the cases exclude each other, so that the relation holds of what is read and of nothing else. -/

namespace ScriptLexer

/-- Whether the lexeme is a string, with or without its closing quote. -/
def Lexeme.isQuoted (x : Lexeme) : Bool :=
  x.kind = .string || x.unterminated

/-- The input starts with nothing but a symbol or a stray character. -/
structure Unclaimed (c : Context) (first : Char) (rest : List Char) : Prop where
  not_lineBreak : first ≠ '\n'
  not_hash : first ≠ '#'
  not_quote : Quote.ofMark? first = none
  not_digit : first.isDigit = false
  not_word : Word.begins (first :: rest) = false
  not_bar : first = '|' → c.delimitsBlock = false

/-- The lexeme that an input without leading trivia starts with. -/
inductive IsLexeme (c : Context) : List Char → Lexeme → Prop
  | eof : IsLexeme c [] (.plain .eof [])
  | newline {rest : List Char} : IsLexeme c ('\n' :: rest) (.plain .newline ['\n'])
  | comment {rest : List Char} : IsLexeme c ('#' :: rest) (.comment ('#' :: rest))
  | quoted {q : Quote} {rest : List Char} : IsLexeme c (q.mark :: rest) (.quoted q rest)
  | number {first : Char} {rest : List Char} (hdigit : first.isDigit = true) :
      IsLexeme c (first :: rest) (.number (first :: rest))
  | word {first : Char} {rest : List Char} (hword : Word.begins (first :: rest) = true) :
      IsLexeme c (first :: rest) (.word (first :: rest))
  | bar {rest : List Char} (hbar : c.delimitsBlock = true) : IsLexeme c ('|' :: rest) (.blockBar c)
  | symbol {first : Char} {rest : List Char} {s : Symbol} (hother : Unclaimed c first rest)
      (hs : Symbol.longest? (first :: rest) Symbol.maxLength = some s) :
      IsLexeme c (first :: rest) (.plain (c.kindOf s) s.spelling.toList)
  | stray {first : Char} {rest : List Char} (hother : Unclaimed c first rest)
      (hs : Symbol.longest? (first :: rest) Symbol.maxLength = none) :
      IsLexeme c (first :: rest) (.plain .illegal [first])

theorem isLexeme_read (c : Context) (input : List Char) : IsLexeme c input (Lexeme.read c input) := by
  cases input with
  | nil => exact .eof
  | cons first rest =>
    rw [Lexeme.read]
    split
    · next h => subst h; exact .newline
    · next hbreak =>
      split
      · next h => subst h; exact .comment
      · next hhash =>
        split
        · next q hq =>
          obtain rfl := Quote.ofMark?_eq_some_iff.mp hq
          exact .quoted
        · next hquote =>
          split
          · next hdigit => exact .number hdigit
          · next hdigit =>
            split
            · next hword => exact .word hword
            · next hword =>
              split
              · next hbar =>
                obtain ⟨rfl, hc⟩ : first = '|' ∧ c.delimitsBlock = true := by simpa using hbar
                exact .bar hc
              · next hbar =>
                have hother : Unclaimed c first rest :=
                  ⟨hbreak, hhash, hquote, by simpa using hdigit, by simpa using hword, by simpa using hbar⟩
                rw [Lexeme.symbol]
                split
                · next s hs => exact .symbol hother hs
                · next hs => exact .stray hother hs

theorem Unicode.isAlphabetic_of_lt {c : Char} (h : c.toNat < 0x41) : isAlphabetic c = false := by
  have hfirst : ∀ first last ranges n, n < first → inRanges ((first, last) :: ranges) n = false := by
    intro first last ranges n hn
    simp [inRanges, hn]
  exact hfirst _ _ _ _ h

theorem toNat_of_isDigit {c : Char} (h : c.isDigit = true) : 48 ≤ c.toNat ∧ c.toNat ≤ 57 := by
  simpa [Char.isDigit, Char.le_def, UInt32.le_iff_toNat_le] using h

theorem Word.isStart_of_begins {first : Char} {rest : List Char} (h : begins (first :: rest) = true) :
    isStart first = true ∨ first = '@' := by
  simp only [begins, Bool.or_eq_true, Bool.and_eq_true, decide_eq_true_eq] at h
  exact h.imp id And.left

theorem Word.ne_of_begins {first other : Char} {rest : List Char} (h : begins (first :: rest) = true)
    (hstart : isStart other = false) (hmark : other ≠ '@') : first ≠ other := by
  rintro rfl
  rcases isStart_of_begins h with hfirst | hfirst
  · simp [hstart] at hfirst
  · exact hmark hfirst

theorem Word.isDigit_of_begins {first : Char} {rest : List Char} (h : begins (first :: rest) = true) :
    first.isDigit = false := by
  apply Bool.eq_false_iff.mpr
  intro hdigit
  have hrange := toNat_of_isDigit hdigit
  rcases isStart_of_begins h with hstart | rfl
  · have halpha := Unicode.isAlphabetic_of_lt (c := first) (by omega)
    have hne : first ≠ '_' := by rintro rfl; simp at hrange
    simp [isStart, halpha, hne] at hstart
  · simp at hrange

theorem Quote.ofMark?_eq_none {c : Char} (h : ∀ q : Quote, c ≠ q.mark) : ofMark? c = none := by
  cases hc : ofMark? c with
  | none => rfl
  | some q => exact absurd (ofMark?_eq_some_iff.mp hc) (h q)

theorem Unclaimed.read_eq {c : Context} {first : Char} {rest : List Char} (h : Unclaimed c first rest) :
    Lexeme.read c (first :: rest) = Lexeme.symbol c (first :: rest) := by
  have hbar : (first = '|' && c.delimitsBlock) = false := by simpa using h.not_bar
  simp [Lexeme.read, h.not_lineBreak, h.not_hash, h.not_quote, h.not_digit, h.not_word, hbar]

theorem IsLexeme.read_eq {c : Context} {input : List Char} {x : Lexeme} (h : IsLexeme c input x) :
    Lexeme.read c input = x := by
  cases h with
  | eof => rfl
  | newline => simp [Lexeme.read]
  | comment => simp [Lexeme.read]
  | @quoted q rest =>
    have hq : Quote.ofMark? q.mark = some q := Quote.ofMark?_eq_some_iff.mpr rfl
    have hbreak : q.mark ≠ '\n' := by cases q <;> decide
    have hhash : q.mark ≠ '#' := by cases q <;> decide
    simp [Lexeme.read, hbreak, hhash, hq]
  | @number first rest hdigit =>
    have hne : ∀ other : Char, other.isDigit = false → first ≠ other := by
      rintro other hother rfl
      simp [hdigit] at hother
    have hquote : Quote.ofMark? first = none :=
      Quote.ofMark?_eq_none fun q => hne q.mark (by cases q <;> decide)
    simp [Lexeme.read, hne '\n' (by decide), hne '#' (by decide), hquote, hdigit]
  | @word first rest hword =>
    have hbreak : first ≠ '\n' := Word.ne_of_begins hword (by decide) (by decide)
    have hhash : first ≠ '#' := Word.ne_of_begins hword (by decide) (by decide)
    have hquote : Quote.ofMark? first = none := Quote.ofMark?_eq_none fun q =>
      Word.ne_of_begins hword (by cases q <;> decide) (by cases q <;> decide)
    simp [Lexeme.read, hbreak, hhash, hquote, Word.isDigit_of_begins hword, hword]
  | @bar rest hbar =>
    have hword : Word.begins ('|' :: rest) = false :=
      Bool.eq_false_iff.mpr fun h => Word.ne_of_begins h (by decide) (by decide) rfl
    have hquote : Quote.ofMark? '|' = none := by decide
    simp [Lexeme.read, hquote, hword, hbar, Char.isDigit]
  | symbol hother hs => rw [hother.read_eq, Lexeme.symbol, hs]
  | stray hother hs =>
    rw [hother.read_eq, Lexeme.symbol, hs]
    rfl

theorem Kind.ofWord_cases (text : List Char) : (∃ k, ofWord text = .keyword k) ∨
    ofWord text = .instanceVariable ∨ ofWord text = .constant ∨ ofWord text = .identifier := by
  unfold ofWord
  split
  · next k _ => exact .inl ⟨k, rfl⟩
  · split
    · exact .inr (.inl rfl)
    · split
      · exact .inr (.inr (.inl rfl))
      · exact .inr (.inr (.inr rfl))
    · exact .inr (.inr (.inr rfl))

theorem Context.kindOf_cases (c : Context) (s : Symbol) : c.kindOf s = .symbol s ∨
    c.expectsOperand = true ∧
      (s = .plus ∧ c.kindOf s = .unaryPlus ∨ s = .minus ∧ c.kindOf s = .unaryMinus) := by
  unfold kindOf
  split
  · cases hc : c.expectsOperand with
    | true => exact .inr ⟨rfl, .inl ⟨rfl, rfl⟩⟩
    | false => exact .inl rfl
  · cases hc : c.expectsOperand with
    | true => exact .inr ⟨rfl, .inr ⟨rfl, rfl⟩⟩
    | false => exact .inl rfl
  · exact .inl rfl

theorem Lexeme.quoted_of_drop_nil {q : Quote} {rest : List Char} (h : rest.drop (quotedBody q rest).length = []) :
    quoted q rest = { kind := .illegal, text := q.mark :: quotedBody q rest,
                      literal := unescape q (quotedBody q rest), unterminated := true } := by
  rw [quoted, h]

theorem Lexeme.quoted_of_drop_cons {q : Quote} {rest after : List Char}
    (h : rest.drop (quotedBody q rest).length = q.mark :: after) :
    quoted q rest = { kind := .string, text := q.mark :: quotedBody q rest ++ [q.mark],
                      literal := unescape q (quotedBody q rest) } := by
  rw [quoted, h]

theorem Lexeme.quoted_cases (q : Quote) (input : List Char) :
    quoted q input = { kind := .string, text := q.mark :: quotedBody q input ++ [q.mark],
                       literal := unescape q (quotedBody q input) } ∨
      input = quotedBody q input ∧
        quoted q input = { kind := .illegal, text := q.mark :: quotedBody q input,
                           literal := unescape q (quotedBody q input), unterminated := true } := by
  have hsplit := List.prefix_iff_eq_append.mp (quotedBody_isPrefix q input)
  rcases quotedBody_stops hsplit.symm with hnil | ⟨after, hcons⟩
  · rw [hnil, List.append_nil] at hsplit
    exact .inr ⟨hsplit.symm, quoted_of_drop_nil hnil⟩
  · exact .inl (quoted_of_drop_cons hcons)

/-- What the kind of a lexeme tells about the input it is read from. -/
def Lexeme.Origin (c : Context) (input : List Char) (x : Lexeme) : Prop :=
  match x.kind with
  | .eof => input = []
  | .newline => ∃ rest, input = '\n' :: rest
  | .comment => ∃ rest, input = '#' :: rest
  | .string => ∃ q rest, input = q.mark :: rest ∧ x = .quoted q rest
  | .illegal => (∃ q rest, input = q.mark :: rest ∧ x = .quoted q rest) ∨
      ∃ first rest, input = first :: rest ∧ Unclaimed c first rest ∧ x = .plain .illegal [first]
  | .integer | .float => ∃ first rest, input = first :: rest ∧ first.isDigit = true ∧ x = .number input
  | .identifier | .constant | .instanceVariable | .keyword _ => Word.begins input = true ∧ x = .word input
  | .blockParamOpen | .blockParamClose =>
    (∃ rest, input = '|' :: rest) ∧ c.delimitsBlock = true ∧ x = .blockBar c
  | .symbol _ | .unaryPlus | .unaryMinus =>
    ∃ s, Symbol.longest? input Symbol.maxLength = some s ∧ x = .plain (c.kindOf s) s.spelling.toList

theorem IsLexeme.origin {c : Context} {input : List Char} {x : Lexeme} (h : IsLexeme c input x) :
    x.Origin c input := by
  cases h with
  | eof => exact rfl
  | newline => exact ⟨_, rfl⟩
  | comment => exact ⟨_, rfl⟩
  | @quoted q rest =>
    rcases Lexeme.quoted_cases q rest with hq | ⟨_, hq⟩
    · have hkind : (Lexeme.quoted q rest).kind = .string := by rw [hq]
      simp only [Lexeme.Origin, hkind]
      exact ⟨q, rest, rfl, rfl⟩
    · have hkind : (Lexeme.quoted q rest).kind = .illegal := by rw [hq]
      simp only [Lexeme.Origin, hkind]
      exact .inl ⟨q, rest, rfl, rfl⟩
  | @number first rest hdigit =>
    have horigin : ∃ first' rest', first :: rest = first' :: rest' ∧ first'.isDigit = true ∧
        Lexeme.number (first :: rest) = .number (first :: rest) := ⟨first, rest, rfl, hdigit, rfl⟩
    by_cases hpart : Numeral.part (first :: rest) = []
    · have hkind : (Lexeme.number (first :: rest)).kind = .integer := by
        simp [Lexeme.number, Lexeme.plain, hpart]
      simpa only [Lexeme.Origin, hkind] using horigin
    · have hkind : (Lexeme.number (first :: rest)).kind = .float := by
        simp [Lexeme.number, Lexeme.plain, hpart]
      simpa only [Lexeme.Origin, hkind] using horigin
  | @word first rest hword =>
    have hkind : (Lexeme.word (first :: rest)).kind = Kind.ofWord (Word.read (first :: rest)) := rfl
    rcases Kind.ofWord_cases (Word.read (first :: rest)) with ⟨k, hk⟩ | hk | hk | hk <;>
      simpa only [Lexeme.Origin, hkind, hk, and_true] using hword
  | @bar rest hbar =>
    have hfirst : ∃ rest', '|' :: rest = '|' :: rest' := ⟨rest, rfl⟩
    cases hc : c.inBlockParams with
    | true =>
      have hkind : (Lexeme.blockBar c).kind = .blockParamClose := by simp [Lexeme.blockBar, Lexeme.plain, hc]
      simpa only [Lexeme.Origin, hkind, and_true] using ⟨hfirst, hbar⟩
    | false =>
      have hkind : (Lexeme.blockBar c).kind = .blockParamOpen := by simp [Lexeme.blockBar, Lexeme.plain, hc]
      simpa only [Lexeme.Origin, hkind, and_true] using ⟨hfirst, hbar⟩
  | @symbol first rest s _ hs =>
    rcases Context.kindOf_cases c s with hk | ⟨_, ⟨_, hk⟩ | ⟨_, hk⟩⟩ <;>
      simp only [Lexeme.Origin, Lexeme.plain, hk] <;> exact ⟨s, hs, by rw [hk]⟩
  | @stray first rest hother _ => exact .inr ⟨first, rest, rfl, hother, rfl⟩

theorem IsLexeme.head?_of_comment {c : Context} {input : List Char} {x : Lexeme} (h : IsLexeme c input x)
    (hkind : x.kind = .comment) : input.head? = some '#' := by
  have horigin := h.origin
  rw [Lexeme.Origin, hkind] at horigin
  obtain ⟨rest, rfl⟩ := horigin
  rfl

theorem IsLexeme.head?_of_newline {c : Context} {input : List Char} {x : Lexeme} (h : IsLexeme c input x)
    (hkind : x.kind = .newline) : input.head? = some '\n' := by
  have horigin := h.origin
  rw [Lexeme.Origin, hkind] at horigin
  obtain ⟨rest, rfl⟩ := horigin
  rfl

theorem IsLexeme.literal_eq_text {c : Context} {input : List Char} {x : Lexeme} (h : IsLexeme c input x)
    (hquoted : x.isQuoted = false) : x.literal = x.text := by
  cases h with
  | @quoted q rest =>
    rcases Lexeme.quoted_cases q rest with hq | ⟨_, hq⟩ <;> simp [hq, Lexeme.isQuoted] at hquoted
  | _ => rfl

theorem IsLexeme.string_eq {c : Context} {input : List Char} {x : Lexeme} (h : IsLexeme c input x)
    (hkind : x.kind = .string) :
    ∃ q body, x.text = q.mark :: body ++ [q.mark] ∧ x.literal = unescape q body := by
  have horigin := h.origin
  simp only [Lexeme.Origin, hkind] at horigin
  obtain ⟨q, rest, _, rfl⟩ := horigin
  rcases Lexeme.quoted_cases q rest with hq | ⟨_, hq⟩
  · exact ⟨q, quotedBody q rest, by rw [hq], by rw [hq]⟩
  · simp [hq] at hkind

theorem IsLexeme.unterminated_eq {c : Context} {input : List Char} {x : Lexeme} (h : IsLexeme c input x)
    (hx : x.unterminated = true) : x.kind = .illegal ∧ x.text = input ∧
      ∃ q body, x.text = q.mark :: body ∧ x.literal = unescape q body := by
  cases h with
  | @quoted q rest =>
    rcases Lexeme.quoted_cases q rest with hq | ⟨hrest, hq⟩
    · simp [hq] at hx
    · refine ⟨by rw [hq], ?_, q, quotedBody q rest, by rw [hq], by rw [hq]⟩
      rw [hq, ← hrest]
  | _ => exact absurd hx Bool.false_ne_true

theorem Numeral.fraction_cases (input : List Char) : fraction input = [] ∨
    ∃ c digits, fraction input = '.' :: c :: digits ∧ c.isDigit = true ∧ ∀ d ∈ digits, d.isDigit = true := by
  unfold fraction
  split
  · next point c rest =>
    split
    · next hpoint =>
      obtain ⟨hp, hc⟩ := Bool.and_eq_true_iff.mp hpoint
      obtain rfl : point = '.' := by simpa using hp
      exact .inr ⟨c, _, rfl, hc, fun d hd => List.mem_takeWhile_imp hd⟩
    · exact .inl rfl
  · exact .inl rfl

theorem Numeral.mem_read {d : Char} {input : List Char} (h : d ∈ read input) :
    d.isDigit = true ∨ d = '.' := by
  rw [read, List.mem_append] at h
  rcases h with h | h
  · exact .inl (List.mem_takeWhile_imp h)
  · rcases fraction_cases (input.drop (whole input).length) with hnil | ⟨c, digits, hcons, hc, hdigits⟩
    · simp [part, hnil] at h
    · rw [part, hcons, List.mem_cons, List.mem_cons] at h
      rcases h with rfl | rfl | h
      · exact .inr rfl
      · exact .inl hc
      · exact .inl (hdigits d h)

theorem Word.suffix_cases (input : List Char) :
    suffix input = [] ∨ suffix input = ['?'] ∨ suffix input = ['!'] := by
  unfold suffix
  split
  · next c rest =>
    split
    · next hmark =>
      rcases (by simpa using (Bool.and_eq_true_iff.mp hmark).1 : c = '?' ∨ c = '!') with rfl | rfl
      · exact .inr (.inl rfl)
      · exact .inr (.inr rfl)
    · exact .inl rfl
  · exact .inl rfl

theorem Word.mem_suffix {d : Char} {input : List Char} (h : d ∈ suffix input) : d = '?' ∨ d = '!' := by
  rcases suffix_cases input with hs | hs | hs <;> simp_all

theorem Word.mem_read {d : Char} {input : List Char} (h : d ∈ read input) :
    isPart d = true ∨ d = '@' ∨ d = '?' ∨ d = '!' := by
  have hunmarked : ∀ {input : List Char}, d ∈ unmarked input → isPart d = true ∨ d = '?' ∨ d = '!' := by
    intro input h
    rcases List.mem_append.mp h with h | h
    · exact .inl (List.mem_takeWhile_imp h)
    · exact .inr (mem_suffix h)
  unfold read at h
  split at h
  · simp at h
  · split at h
    · rcases List.mem_cons.mp h with rfl | h
      · exact .inr (.inl (by assumption))
      · exact (hunmarked h).imp_right .inr
    · exact (hunmarked h).imp_right .inr

theorem Symbol.not_mem_spelling (s : Symbol) {d : Char} (hd : d ∈ '@' :: triviaMarks) :
    d ∉ s.spelling.toList := by
  have hnone : s.spelling.toList.any ('@' :: triviaMarks).contains = false := by
    cases s <;> decide
  intro hmem
  have hmark := List.any_eq_false.mp hnone d hmem
  exact hmark (List.contains_iff_mem.mpr hd)

theorem IsLexeme.not_mem_lineBreak {c : Context} {input : List Char} {x : Lexeme} (h : IsLexeme c input x)
    (hkind : x.kind ≠ .newline) (hquoted : x.isQuoted = false) : '\n' ∉ x.text := by
  cases h with
  | eof => simp [Lexeme.plain]
  | newline => simp [Lexeme.plain] at hkind
  | comment =>
    intro hmem
    simpa using List.mem_takeWhile_imp hmem
  | @quoted q rest => rcases Lexeme.quoted_cases q rest with hq | ⟨_, hq⟩ <;> simp [hq, Lexeme.isQuoted] at hquoted
  | number =>
    intro hmem
    have hdigit := Numeral.mem_read hmem
    revert hdigit
    decide
  | word =>
    intro hmem
    have hpart := Word.mem_read (show '\n' ∈ Word.read (_ :: _) from hmem)
    revert hpart
    decide
  | bar => simp [Lexeme.blockBar, Lexeme.plain]
  | symbol => exact Symbol.not_mem_spelling _ (by decide)
  | stray hother _ => simpa [Lexeme.plain] using hother.not_lineBreak.symm

end ScriptLexer
