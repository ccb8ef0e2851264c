/-! A cursor in a text. Positions count code points from zero and lines count from one. The cursor never
leaves the text: at its end there is no current character, and moving on changes nothing. -/

namespace ScriptLexer

structure Cursor where
  source : List Char
  /-- The text from the cursor on. -/
  rest : List Char
  position : Nat
  line : Nat
  deriving DecidableEq, Repr

namespace Cursor

def ofText (text : List Char) : Cursor :=
  ⟨text, text, 0, 1⟩

def size (c : Cursor) : Nat :=
  c.source.length

def current (c : Cursor) : Option Char :=
  c.rest.head?

def peekNth (c : Cursor) (n : Nat) : Option Char :=
  c.rest[n]?

def peek (c : Cursor) : Option Char :=
  c.peekNth 1

def isAtEnd (c : Cursor) : Bool :=
  c.rest.isEmpty

def advance (c : Cursor) : Cursor :=
  match c.rest with
  | [] => c
  | char :: rest =>
    { c with
      rest
      position := c.position + 1
      line := if char = '\n' then c.line + 1 else c.line }

/-- Moves on by `n` characters, or to the end of the text if it comes first. -/
def advanceN (c : Cursor) (n : Nat) : Cursor :=
  let passed := c.rest.take n
  { c with
    rest := c.rest.drop n
    position := c.position + passed.length
    line := c.line + passed.count '\n' }

/-- The text from one position up to another, as far as the text has these positions. -/
def slice (c : Cursor) (start stop : Nat) : List Char :=
  (c.source.take stop).drop start

@[simp] theorem advanceN_zero (c : Cursor) : c.advanceN 0 = c := by
  simp [advanceN]

theorem advanceN_one (c : Cursor) : c.advanceN 1 = c.advance := by
  obtain ⟨source, rest, position, line⟩ := c
  cases rest with
  | nil => simp [advanceN, advance]
  | cons char rest =>
    by_cases h : char = '\n' <;> simp [advanceN, advance, h]

theorem advanceN_add (c : Cursor) (m n : Nat) : c.advanceN (m + n) = (c.advanceN m).advanceN n := by
  simp only [advanceN, List.drop_drop, List.take_add, List.length_append, List.count_append, Nat.add_assoc]

end Cursor

end ScriptLexer
