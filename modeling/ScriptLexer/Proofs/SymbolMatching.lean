import Mathlib.Data.List.Infix
import ScriptLexer.Proofs.LongestPrefix
import ScriptLexer.Proofs.Tiling

/-! The symbol at the front of an input is the longest one there. Looking it up from the longest candidate down finds
it, and so does growing a text one character at a time, since every nonempty beginning of a spelling is one. -/

namespace ScriptLexer

namespace Symbol

def IsSpelling (text : List Char) : Prop :=
  ∃ s : Symbol, s.spelling.toList = text

/-- Appends the characters of an input to a text, one after another, as long as the longer text spells a symbol. -/
def grow (text : List Char) : List Char → List Char
  | [] => text
  | c :: rest => if (ofSpelling? (text ++ [c])).isSome then grow (text ++ [c]) rest else text

variable {text front input rest : List Char} {first : Char} {s : Symbol}

theorem isSpelling_iff : IsSpelling text ↔ (ofSpelling? text).isSome = true := by
  rw [Option.isSome_iff_exists]
  exact exists_congr fun s => ofSpelling?_eq_some_iff.symm

theorem isSpelling_spelling (s : Symbol) : IsSpelling s.spelling.toList :=
  ⟨s, rfl⟩

theorem isSpelling_of_isPrefix (h : front <+: s.spelling.toList) (hne : front ≠ []) : IsSpelling front := by
  have hclosed : s.spelling.toList.inits.all (fun front => front = [] || (ofSpelling? front).isSome) = true := by
    cases s <;> decide
  have hfront := List.all_eq_true.mp hclosed front ((List.mem_inits _ _).mpr h)
  simpa [hne, isSpelling_iff] using hfront

theorem isLongestPrefix_grow (htext : IsSpelling text) :
    IsLongestPrefix IsSpelling (text ++ rest) (grow text rest) := by
  induction rest generalizing text with
  | nil =>
    rw [grow, List.append_nil]
    exact ⟨htext, List.prefix_rfl, fun other _ hother => hother.length_le⟩
  | cons c rest ih =>
    rw [grow]
    split
    · next hnext =>
      have hgrown := ih (isSpelling_iff.mpr hnext)
      rwa [List.append_assoc, List.singleton_append] at hgrown
    · next hnext =>
      -- A longer spelling would begin with the text and the next character, and so would spell a symbol there.
      refine isLongestPrefix_of_stop htext ?_
      rintro _ ⟨s, rfl⟩ hfront
      exact hnext (isSpelling_iff.mp (isSpelling_of_isPrefix hfront (by simp)))

theorem isLongestPrefix_of_longest? (h : longest? input maxLength = some s) :
    IsLongestPrefix IsSpelling input s.spelling.toList := by
  obtain ⟨hfront, -, hlongest⟩ := longest?_eq_some_iff.mp h
  refine ⟨isSpelling_spelling s, hfront, ?_⟩
  rintro _ ⟨t, rfl⟩ ht
  exact hlongest t ht t.spelling_length_le

theorem not_isSpelling_of_longest? (h : longest? input maxLength = none) (hfront : front <+: input) :
    ¬ IsSpelling front := by
  rintro ⟨s, rfl⟩
  exact Nat.not_lt.mpr s.spelling_length_le (longest?_eq_none_iff.mp h s hfront)

theorem grow_of_longest? (h : longest? (first :: rest) maxLength = some s) :
    grow [first] rest = s.spelling.toList := by
  have hlongest := isLongestPrefix_of_longest? h
  have hfirst : [first] <+: s.spelling.toList := by
    have hlength := List.length_pos_iff.mpr s.spelling_ne_nil
    exact List.prefix_of_prefix_length_le (List.prefix_append [first] rest) hlongest.isPrefix hlength
  have hspelling := isSpelling_of_isPrefix hfirst (List.cons_ne_nil first [])
  exact (isLongestPrefix_grow hspelling).eq hlongest

theorem grow_of_not_longest? (h : longest? (first :: rest) maxLength = none) : grow [first] rest = [first] := by
  cases rest with
  | nil => rfl
  | cons c rest =>
    have hpair : ¬ IsSpelling ([first] ++ [c]) := not_isSpelling_of_longest? h ⟨rest, by simp⟩
    rw [isSpelling_iff] at hpair
    rw [grow, if_neg hpair]

end Symbol

/-- The symbol that a text grows to, or else the character that it starts from. -/
def Lexeme.grown (c : Context) (first : Char) (rest : List Char) : Lexeme :=
  let text := Symbol.grow [first] rest
  plain ((Symbol.ofSpelling? text).elim .illegal c.kindOf) text

theorem Lexeme.symbol_eq_grown (c : Context) (first : Char) (rest : List Char) :
    symbol c (first :: rest) = grown c first rest := by
  cases h : Symbol.longest? (first :: rest) Symbol.maxLength with
  | some s => rw [symbol, grown, h, Symbol.grow_of_longest? h, Symbol.ofSpelling?_spelling, Option.elim_some]
  | none =>
    have hnone : Symbol.ofSpelling? [first] = none := by
      have hfirst := Symbol.not_isSpelling_of_longest? h (List.prefix_append [first] rest)
      simpa [Symbol.isSpelling_iff] using hfirst
    rw [symbol, grown, h, Symbol.grow_of_not_longest? h, hnone, Option.elim_none]
    rfl

theorem Context.kindOf_eq_unaryPlus_iff {c : Context} {s : Symbol} :
    c.kindOf s = .unaryPlus ↔ c.expectsOperand = true ∧ s.spelling = "+" := by
  cases hc : c.expectsOperand <;> cases s <;> simp [kindOf, Symbol.spelling, hc]

theorem Context.kindOf_eq_unaryMinus_iff {c : Context} {s : Symbol} :
    c.kindOf s = .unaryMinus ↔ c.expectsOperand = true ∧ s.spelling = "-" := by
  cases hc : c.expectsOperand <;> cases s <;> simp [kindOf, Symbol.spelling, hc]

namespace Lexer

/-- Where neither trivia nor any other lexeme begins, the longest symbol there is read, and without one a stray
character. A sign is unary where an operand is expected. Growing a text gives the same lexeme. -/
theorem pull_symbol (l : Lexer) (gap : List Char) (first : Char) (rest : List Char)
    (hrest : l.cursor.rest = gap ++ first :: rest) (hgap : IsTrivia l.options (some first) gap)
    (hfirst : ¬ startsTrivia l.options first) (hother : Unclaimed l.context first rest) :
    let input := first :: rest
    let e := l.pull.1
    let m := l.pull.2
    let line := l.cursor.line + gap.count '\n'
    ((∃ text, Symbol.IsSpelling text ∧ text <+: input) → ∃ s : Symbol,
        IsLongestPrefix Symbol.IsSpelling input s.spelling.toList ∧
        e.token = ⟨e.lexeme.kind, s.spelling, line⟩ ∧
        (e.lexeme.kind = .unaryPlus ↔ l.context.expectsOperand = true ∧ s.spelling = "+") ∧
        (e.lexeme.kind = .unaryMinus ↔ l.context.expectsOperand = true ∧ s.spelling = "-") ∧
        (e.lexeme.kind ∉ [Kind.unaryPlus, Kind.unaryMinus] → e.lexeme.kind = .symbol s) ∧
        m.cursor.rest = input.drop s.spelling.length ∧
        m.cursor.position = l.cursor.position + gap.length + s.spelling.length) ∧
      ((¬ ∃ text, Symbol.IsSpelling text ∧ text <+: input) →
        e.token = ⟨.illegal, String.ofList [first], line⟩ ∧ m.cursor.rest = rest ∧
          m.cursor.position = l.cursor.position + gap.length + 1) ∧
      e.lexeme = Lexeme.grown l.context first rest := by
  intro input e m line
  obtain ⟨hstart, hpullgap, hlexeme⟩ := pull_of_first hrest hgap hfirst
  rw [hother.read_eq] at hlexeme
  have hline : e.line = line := by rw [line_of_pull, hpullgap]
  have hsplit : e.lexeme.text ++ m.cursor.rest = input := l.text_append_rest.trans hstart
  have hposition : m.cursor.position = l.cursor.position + gap.length + e.lexeme.text.length := by
    rw [pull_position, Emission.covered, hpullgap, List.length_append, Nat.add_assoc]
  refine ⟨fun hsome => ?_, fun hnone => ?_, hlexeme.trans (Lexeme.symbol_eq_grown _ _ _)⟩
  · obtain ⟨text, hspelling, htext⟩ := hsome
    cases h : Symbol.longest? input Symbol.maxLength with
    | none => exact absurd hspelling (Symbol.not_isSpelling_of_longest? h htext)
    | some s =>
      have hlongest := Symbol.isLongestPrefix_of_longest? h
      have hx : e.lexeme = .plain (l.context.kindOf s) s.spelling.toList := by
        rw [hlexeme, Lexeme.symbol, h]
      rw [hx] at hsplit hposition
      refine ⟨s, hlongest, ?_, ?_, ?_, ?_, ?_, ?_⟩
      · rw [Emission.token, hx, hline]
        simp [Lexeme.plain]
      · rw [hx]
        exact Context.kindOf_eq_unaryPlus_iff
      · rw [hx]
        exact Context.kindOf_eq_unaryMinus_iff
      · rw [hx]
        rcases Context.kindOf_cases l.context s with hk | ⟨-, ⟨-, hk⟩ | ⟨-, hk⟩⟩ <;> simp [Lexeme.plain, hk]
      · rw [← hsplit, ← String.length_toList]
        exact (List.drop_left).symm
      · rw [hposition, ← String.length_toList]
        rfl
  · cases h : Symbol.longest? input Symbol.maxLength with
    | some s =>
      have hlongest := Symbol.isLongestPrefix_of_longest? h
      exact absurd ⟨_, hlongest.holds, hlongest.isPrefix⟩ hnone
    | none =>
      have hx : e.lexeme = .plain .illegal [first] := by
        rw [hlexeme, Lexeme.symbol, h]
        rfl
      rw [hx] at hsplit hposition
      refine ⟨?_, ?_, hposition⟩
      · rw [Emission.token, hx, hline]
        rfl
      · exact (List.cons.inj hsplit).2

/-- The longest symbol is one of three characters with two shorter ones before it, and an equals sign is left over. -/
theorem pull_symbol_compare :
    let gap := [' ', '#', '\n']
    let rest := ['=', '>', '=', '-']
    let l : Lexer := { ofText (gap ++ '<' :: rest) {} defaultFile with context := .expectOperand }
    l.cursor.rest = gap ++ '<' :: rest ∧ IsTrivia l.options (some '<') gap ∧ ¬ startsTrivia l.options '<' ∧
      Unclaimed l.context '<' rest ∧ (∃ text, Symbol.IsSpelling text ∧ text <+: '<' :: rest) ∧
      l.pull.1.lexeme = .plain (.symbol .compare) ['<', '=', '>'] := by
  intro gap rest l
  have hrest : l.cursor.rest = gap ++ '<' :: rest := rfl
  have hgap : IsTrivia l.options (some '<') gap :=
    .blank (.inl rfl) (.comment [] rfl (by simp) (.inr rfl) (.lineBreak rfl .nil))
  have hfirst : ¬ startsTrivia l.options '<' := by simp [startsTrivia]
  have hother : Unclaimed l.context '<' rest :=
    ⟨by decide, by decide, by decide, by decide, by decide, by decide⟩
  obtain ⟨-, -, hgrown⟩ := pull_symbol l gap '<' rest hrest hgap hfirst hother
  exact ⟨hrest, hgap, hfirst, hother, ⟨['<'], Symbol.isSpelling_spelling .less, rest, rfl⟩, hgrown⟩

end Lexer

end ScriptLexer
