/-! Operators and separators. Each has one spelling of at most three code points, and every nonempty
beginning of a spelling is a spelling too, so the longest match can be found by looking ahead or by
growing a match one code point at a time. -/

namespace ScriptLexer

inductive Symbol where
  | assign
  | plus
  | plusEquals
  | minus
  | minusEquals
  | bang
  | star
  | pow
  | slash
  | dot
  | and
  | or
  | orEquals
  | percent
  | amp
  | patternMatch
  | less
  | lessEquals
  | greater
  | greaterEquals
  | compare
  | equals
  | notEquals
  | isSame
  | isNotSame
  | range
  | rangeExclusive
  | resolution
  | rightArrow
  | leftArrow
  | comma
  | semicolon
  | colon
  | bar
  | openParen
  | closeParen
  | openCurly
  | closeCurly
  | openBracket
  | closeBracket
  deriving DecidableEq, Repr

namespace Symbol

def all : List Symbol := [
  .assign, .plus, .plusEquals, .minus, .minusEquals, .bang, .star, .pow, .slash, .dot, .and, .or,
  .orEquals, .percent, .amp, .patternMatch, .less, .lessEquals, .greater, .greaterEquals, .compare,
  .equals, .notEquals, .isSame, .isNotSame, .range, .rangeExclusive, .resolution, .rightArrow,
  .leftArrow, .comma, .semicolon, .colon, .bar, .openParen, .closeParen, .openCurly, .closeCurly,
  .openBracket, .closeBracket]

theorem mem_all (s : Symbol) : s ∈ all := by
  cases s <;> decide

def spelling : Symbol → String
  | .assign => "="
  | .plus => "+"
  | .plusEquals => "+="
  | .minus => "-"
  | .minusEquals => "-="
  | .bang => "!"
  | .star => "*"
  | .pow => "**"
  | .slash => "/"
  | .dot => "."
  | .and => "&&"
  | .or => "||"
  | .orEquals => "||="
  | .percent => "%"
  | .amp => "&"
  | .patternMatch => "=~"
  | .less => "<"
  | .lessEquals => "<="
  | .greater => ">"
  | .greaterEquals => ">="
  | .compare => "<=>"
  | .equals => "=="
  | .notEquals => "!="
  | .isSame => "==="
  | .isNotSame => "!=="
  | .range => ".."
  | .rangeExclusive => "..."
  | .resolution => "::"
  | .rightArrow => "->"
  | .leftArrow => "<-"
  | .comma => ","
  | .semicolon => ";"
  | .colon => ":"
  | .bar => "|"
  | .openParen => "("
  | .closeParen => ")"
  | .openCurly => "\x7b"
  | .closeCurly => "\x7d"
  | .openBracket => "["
  | .closeBracket => "]"

/-- The name by which tokens of this kind are reported. -/
def name : Symbol → String
  | .assign => "Assign"
  | .plus => "Plus"
  | .plusEquals => "PlusEquals"
  | .minus => "Minus"
  | .minusEquals => "MinusEquals"
  | .bang => "Bang"
  | .star => "Star"
  | .pow => "Pow"
  | .slash => "Slash"
  | .dot => "Dot"
  | .and => "And"
  | .or => "Or"
  | .orEquals => "OrEquals"
  | .percent => "Percent"
  | .amp => "Amp"
  | .patternMatch => "Match"
  | .less => "Less"
  | .lessEquals => "LessEquals"
  | .greater => "Greater"
  | .greaterEquals => "GreaterEquals"
  | .compare => "Compare"
  | .equals => "Equals"
  | .notEquals => "NotEquals"
  | .isSame => "IsSame"
  | .isNotSame => "IsNotSame"
  | .range => "Range"
  | .rangeExclusive => "RangeExclusive"
  | .resolution => "Resolution"
  | .rightArrow => "RightArrow"
  | .leftArrow => "LeftArrow"
  | .comma => "Comma"
  | .semicolon => "Semicolon"
  | .colon => "Colon"
  | .bar => "Bar"
  | .openParen => "OpenParen"
  | .closeParen => "CloseParen"
  | .openCurly => "OpenCurly"
  | .closeCurly => "CloseCurly"
  | .openBracket => "OpenBracket"
  | .closeBracket => "CloseBracket"

def maxLength : Nat := 3

def ofSpelling? (text : List Char) : Option Symbol :=
  all.find? (·.spelling.toList == text)

theorem ofSpelling?_spelling (s : Symbol) : ofSpelling? s.spelling.toList = some s := by
  cases s <;> decide

theorem spelling_eq_of_ofSpelling? {text : List Char} {s : Symbol} (h : ofSpelling? text = some s) :
    s.spelling.toList = text := by
  simpa only [beq_iff_eq] using List.find?_some h

theorem ofSpelling?_eq_some_iff {text : List Char} {s : Symbol} :
    ofSpelling? text = some s ↔ s.spelling.toList = text :=
  ⟨spelling_eq_of_ofSpelling?, fun h => h ▸ ofSpelling?_spelling s⟩

theorem spelling_ne_nil (s : Symbol) : s.spelling.toList ≠ [] := by
  cases s <;> decide

theorem spelling_length_le (s : Symbol) : s.spelling.toList.length ≤ maxLength := by
  cases s <;> decide

/-- The longest symbol at the front of the input among those of at most `n` code points. -/
def longest? (input : List Char) : Nat → Option Symbol
  | 0 => none
  | n + 1 => ofSpelling? (input.take (n + 1)) <|> longest? input n

theorem longest?_isPrefix {input : List Char} {n : Nat} {s : Symbol} (h : longest? input n = some s) :
    s.spelling.toList <+: input := by
  induction n with
  | zero => cases h
  | succ n ih =>
    cases hlookup : ofSpelling? (input.take (n + 1)) with
    | none => exact ih (by simpa [longest?, hlookup] using h)
    | some t =>
      obtain rfl : t = s := by simpa [longest?, hlookup] using h
      exact spelling_eq_of_ofSpelling? hlookup ▸ List.take_prefix _ _

theorem length_le_of_longest? {input : List Char} {n : Nat} {s : Symbol} (h : longest? input n = some s) :
    s.spelling.toList.length ≤ n := by
  induction n with
  | zero => cases h
  | succ n ih =>
    cases hlookup : ofSpelling? (input.take (n + 1)) with
    | none => exact Nat.le_succ_of_le (ih (by simpa [longest?, hlookup] using h))
    | some t =>
      obtain rfl : t = s := by simpa [longest?, hlookup] using h
      rw [spelling_eq_of_ofSpelling? hlookup]
      exact List.length_take_le _ _

/-- No symbol at the front of the input is longer than the one that is found. -/
theorem exists_longest? {input : List Char} {n : Nat} {s : Symbol} (hs : s.spelling.toList <+: input)
    (hn : s.spelling.toList.length ≤ n) :
    ∃ t, longest? input n = some t ∧ s.spelling.toList.length ≤ t.spelling.toList.length := by
  induction n with
  | zero => exact absurd (List.eq_nil_of_length_eq_zero (Nat.le_zero.mp hn)) s.spelling_ne_nil
  | succ n ih =>
    cases hlookup : ofSpelling? (input.take (n + 1)) with
    | some t =>
      have hfront : s.spelling.toList <+: t.spelling.toList := by
        rw [spelling_eq_of_ofSpelling? hlookup, List.prefix_take_iff]
        exact ⟨hs, hn⟩
      exact ⟨t, by simp [longest?, hlookup], hfront.length_le⟩
    | none =>
      have hne : s.spelling.toList ≠ input.take (n + 1) := by
        intro heq
        rw [← heq, ofSpelling?_spelling] at hlookup
        exact absurd hlookup (Option.some_ne_none s)
      have hlt : s.spelling.toList.length < n + 1 := by
        refine Nat.lt_of_le_of_ne hn fun heq => hne ?_
        rw [← heq]
        exact List.prefix_iff_eq_take.mp hs
      obtain ⟨t, ht, hle⟩ := ih (Nat.le_of_lt_succ hlt)
      exact ⟨t, by simp [longest?, hlookup, ht], hle⟩

theorem longest?_eq_some_iff {input : List Char} {n : Nat} {s : Symbol} : longest? input n = some s ↔
    s.spelling.toList <+: input ∧ s.spelling.toList.length ≤ n ∧ ∀ t : Symbol, t.spelling.toList <+: input →
      t.spelling.toList.length ≤ n → t.spelling.toList.length ≤ s.spelling.toList.length := by
  constructor
  · intro h
    refine ⟨longest?_isPrefix h, length_le_of_longest? h, fun t ht hn => ?_⟩
    obtain ⟨u, hu, hle⟩ := exists_longest? ht hn
    obtain rfl : u = s := Option.some.inj (hu.symm.trans h)
    exact hle
  · rintro ⟨hs, hn, hmax⟩
    obtain ⟨t, ht, hle⟩ := exists_longest? hs hn
    have hback := hmax t (longest?_isPrefix ht) (length_le_of_longest? ht)
    have hsame : t.spelling.toList = s.spelling.toList :=
      (List.prefix_of_prefix_length_le (longest?_isPrefix ht) hs hback).eq_of_length (Nat.le_antisymm hback hle)
    rw [ht, ← ofSpelling?_spelling t, hsame, ofSpelling?_spelling]

theorem longest?_eq_none_iff {input : List Char} {n : Nat} : longest? input n = none ↔
    ∀ s : Symbol, s.spelling.toList <+: input → n < s.spelling.toList.length := by
  constructor
  · intro h s hs
    refine Nat.lt_of_not_le fun hn => ?_
    obtain ⟨t, ht, -⟩ := exists_longest? hs hn
    exact absurd (ht.symm.trans h) (Option.some_ne_none t)
  · intro h
    cases hlongest : longest? input n with
    | none => rfl
    | some s => exact absurd (length_le_of_longest? hlongest) (Nat.not_le.mpr (h s (longest?_isPrefix hlongest)))

end Symbol

end ScriptLexer
