import ScriptLexer.Cursor
import ScriptLexer.DecodeError
import ScriptLexer.Lexeme
import ScriptLexer.Token
import ScriptLexer.Trivia

/-! The lexer: a cursor and a context, from which tokens are pulled one after another. Pulling never
fails; at the end of the text it gives the same end token again and again, whereas the stream of tokens
ends with the first of them. -/

namespace ScriptLexer

structure Lexer where
  cursor : Cursor
  context : Context
  options : Options
  file : String
  /-- The stream has yielded its end token. -/
  finished : Bool
  deriving DecidableEq, Repr

/-- All there is to know about one pulled token. -/
structure Emission where
  gap : List Char
  lexeme : Lexeme
  position : Nat
  line : Nat
  /-- The context in which the lexeme was read. -/
  before : Context
  deriving DecidableEq, Repr

namespace Emission

def token (e : Emission) : Token :=
  ⟨e.lexeme.kind, String.ofList e.lexeme.literal, e.line⟩

/-- The context that the token leaves behind. -/
def after (e : Emission) : Context :=
  e.before.after e.lexeme.kind

def isEof (e : Emission) : Bool :=
  e.lexeme.kind = .eof

end Emission

namespace Lexer

def defaultFile : String := "shell"

def ofText (text : List Char) (options : Options) (file : String) : Lexer :=
  ⟨Cursor.ofText text, .initial, options, file, false⟩

def ofBytes (bytes : List UInt8) (file : Option String) (options : Options) :
    Except DecodeError Lexer :=
  let name := file.getD defaultFile
  (decodeSource bytes name).map (ofText · options name)

def pull (l : Lexer) : Emission × Lexer :=
  let gap := trivia l.options false l.cursor.rest
  let start := l.cursor.advanceN gap.length
  let lexeme := Lexeme.read l.context start.rest
  let e : Emission := ⟨gap, lexeme, start.position, start.line, l.context⟩
  (e, { l with cursor := start.advanceN lexeme.text.length, context := e.after })

/-- The next token of the stream, which ends with the first end token. -/
def next? (l : Lexer) : Option (Emission × Lexer) :=
  if l.finished then none
  else
    let (e, l) := l.pull
    some (e, { l with finished := e.isEof })

/-- The next tokens of the stream, at most `n` of them. -/
def take (l : Lexer) : Nat → List Emission × Lexer
  | 0 => ([], l)
  | n + 1 =>
    match l.next? with
    | none => ([], l)
    | some (e, l) =>
      let (es, l) := l.take n
      (e :: es, l)

/-- The rest of the stream. Every token but the end token takes a character, so there are no more tokens
than that. -/
def collect (l : Lexer) : List Emission × Lexer :=
  l.take (l.cursor.rest.length + 1)

def emissions (l : Lexer) : List Emission :=
  l.collect.1

theorem pull_rest (l : Lexer) :
    l.pull.1.gap ++ l.pull.1.lexeme.text ++ l.pull.2.cursor.rest = l.cursor.rest := by
  have hgap := List.prefix_iff_eq_append.mp (trivia_isPrefix l.options false l.cursor.rest)
  have htext := List.prefix_iff_eq_append.mp
    (Lexeme.read_text_isPrefix l.context (l.cursor.advanceN l.pull.1.gap.length).rest)
  rw [List.append_assoc, ← hgap]
  exact congrArg (l.pull.1.gap ++ ·) htext

theorem pull_isEof_iff (l : Lexer) : l.pull.1.isEof = true ↔ l.pull.1.lexeme.text = [] := by
  rw [Emission.isEof, decide_eq_true_iff]
  exact Lexeme.read_kind_eq_eof_iff.trans Lexeme.read_text_eq_nil_iff.symm

theorem pull_rest_length_lt {l : Lexer} (h : l.pull.1.isEof = false) :
    l.pull.2.cursor.rest.length < l.cursor.rest.length := by
  have htext : l.pull.1.lexeme.text ≠ [] := fun hnil => by simp [(pull_isEof_iff l).mpr hnil] at h
  have := List.length_pos_iff.mpr htext
  rw [← pull_rest l]
  simp only [List.length_append]
  omega

theorem take_finished {l : Lexer} {n : Nat} (h : l.cursor.rest.length < n) :
    (l.take n).2.finished = true := by
  induction n generalizing l with
  | zero => omega
  | succ n ih =>
    cases hf : l.finished with
    | true => simp [take, next?, hf]
    | false =>
      cases he : l.pull.1.isEof with
      | true =>
        cases n <;> simp [take, next?, hf, he]
      | false =>
        have := pull_rest_length_lt he
        simp only [take, next?, hf]
        exact ih (by simp; omega)

theorem collect_finished (l : Lexer) : l.collect.2.finished = true :=
  take_finished (Nat.lt_succ_self _)

end Lexer

def tokenize (text : String) (options : Options := {}) : List Token :=
  (Lexer.ofText text.toList options Lexer.defaultFile).emissions.map Emission.token

def tokenizeBytes (bytes : List UInt8) (file : Option String) (options : Options) :
    Except DecodeError (List Token) :=
  (Lexer.ofBytes bytes file options).map (·.emissions.map Emission.token)

end ScriptLexer
