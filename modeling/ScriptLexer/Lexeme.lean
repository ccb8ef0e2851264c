import ScriptLexer.Context
import ScriptLexer.Numeral
import ScriptLexer.Quotation
import ScriptLexer.Word

/-! The lexeme at the front of an input that starts with no trivia. It is read from the text and the
context alone. Its text is the front of the input, and its literal is what the text stands for; the two
differ only for quoted text. -/

namespace ScriptLexer

structure Lexeme where
  kind : Kind
  text : List Char
  literal : List Char
  /-- The lexeme is quoted text and the input ends before its closing quote. -/
  unterminated : Bool := false
  deriving DecidableEq, Repr

namespace Lexeme

/-- A lexeme that stands for its own text. -/
def plain (kind : Kind) (text : List Char) : Lexeme :=
  { kind, text, literal := text }

def comment (input : List Char) : Lexeme :=
  plain .comment (input.takeWhile (· ≠ '\n'))

def number (input : List Char) : Lexeme :=
  plain (if Numeral.part input = [] then .integer else .float) (Numeral.read input)

def word (input : List Char) : Lexeme :=
  plain (.ofWord (Word.read input)) (Word.read input)

/-- Quoted text, from the input after its opening quote. -/
def quoted (q : Quote) (input : List Char) : Lexeme :=
  let body := quotedBody q input
  match input.drop body.length with
  | [] =>
    { kind := .illegal, text := q.mark :: body, literal := unescape q body, unterminated := true }
  | closing :: _ =>
    { kind := .string, text := q.mark :: body ++ [closing], literal := unescape q body }

def blockBar (c : Context) : Lexeme :=
  plain (if c.inBlockParams then .blockParamClose else .blockParamOpen) ['|']

/-- The longest symbol at the front of the input, or else its first character as it is. -/
def symbol (c : Context) (input : List Char) : Lexeme :=
  match Symbol.longest? input Symbol.maxLength with
  | some s => plain (c.kindOf s) s.spelling.toList
  | none => plain .illegal (input.take 1)

def read (c : Context) : List Char → Lexeme
  | [] => plain .eof []
  | first :: rest =>
    if first = '\n' then plain .newline [first]
    else if first = '#' then comment (first :: rest)
    else match Quote.ofMark? first with
    | some q => quoted q rest
    | none =>
      if first.isDigit then number (first :: rest)
      else if Word.begins (first :: rest) then word (first :: rest)
      else if first = '|' && c.delimitsBlock then blockBar c
      else symbol c (first :: rest)

theorem quoted_text_isPrefix (q : Quote) (input : List Char) :
    (quoted q input).text <+: q.mark :: input := by
  obtain ⟨after, h⟩ := quotedBody_isPrefix q input
  have hdrop : input.drop (quotedBody q input).length = after :=
    List.append_cancel_left ((List.prefix_iff_eq_append.mp (quotedBody_isPrefix q input)).trans h.symm)
  cases after with
  | nil => simp [quoted, hdrop, List.cons_prefix_cons, quotedBody_isPrefix]
  | cons closing after =>
    refine ⟨after, ?_⟩
    simpa [quoted, hdrop] using h

theorem symbol_text_isPrefix (c : Context) (input : List Char) : (symbol c input).text <+: input := by
  cases h : Symbol.longest? input Symbol.maxLength with
  | none => simpa [symbol, h, plain] using List.take_prefix 1 input
  | some s => simpa [symbol, h, plain] using Symbol.longest?_isPrefix h

theorem read_text_isPrefix (c : Context) (input : List Char) : (read c input).text <+: input := by
  cases input with
  | nil => exact List.nil_prefix
  | cons first rest =>
    rw [read]
    split
    · exact ⟨rest, rfl⟩
    · split
      · exact List.takeWhile_prefix _
      · split
        · next q hq =>
          rw [Quote.ofMark?_eq_some_iff.mp hq]
          exact quoted_text_isPrefix q rest
        · split
          · exact Numeral.read_isPrefix (first :: rest)
          · split
            · exact Word.read_isPrefix (first :: rest)
            · split
              · next hbar => exact ⟨rest, by simp_all [blockBar, plain]⟩
              · exact symbol_text_isPrefix c _

theorem quoted_text_ne_nil (q : Quote) (input : List Char) : (quoted q input).text ≠ [] := by
  rw [quoted]
  split <;> simp

theorem symbol_text_ne_nil (c : Context) (first : Char) (rest : List Char) :
    (symbol c (first :: rest)).text ≠ [] := by
  rw [symbol]
  split
  · exact Symbol.spelling_ne_nil _
  · exact List.cons_ne_nil first []

theorem read_text_eq_nil_iff {c : Context} {input : List Char} : (read c input).text = [] ↔ input = [] := by
  cases input with
  | nil => simp [read, plain]
  | cons first rest =>
    refine iff_of_false ?_ (List.cons_ne_nil _ _)
    rw [read]
    split
    · exact List.cons_ne_nil _ _
    · split
      · simp_all [comment, plain]
      · split
        · exact quoted_text_ne_nil _ _
        · split
          · simp_all [number, plain, Numeral.read, Numeral.whole]
          · split
            · next h => exact Word.read_ne_nil h
            · split
              · exact List.cons_ne_nil _ _
              · exact symbol_text_ne_nil c first rest

theorem read_kind_eq_eof_iff {c : Context} {input : List Char} :
    (read c input).kind = .eof ↔ input = [] := by
  cases input with
  | nil => simp [read, plain]
  | cons first rest =>
    refine iff_of_false ?_ (List.cons_ne_nil _ _)
    rw [read]
    split
    · exact Kind.noConfusion
    · split
      · exact Kind.noConfusion
      · split
        · rw [quoted]
          split <;> exact Kind.noConfusion
        · split
          · rw [number, plain]
            split <;> exact Kind.noConfusion
          · split
            · exact Kind.ofWord_ne_eof _
            · split
              · rw [blockBar, plain]
                split <;> exact Kind.noConfusion
              · rw [symbol]
                split
                · exact Context.kindOf_ne_eof _ _
                · exact Kind.noConfusion

end Lexeme

end ScriptLexer
