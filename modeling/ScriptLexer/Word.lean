import ScriptLexer.Unicode.Alphabetic

/-! Words: names and reserved words. A word is a run of letters, digits and underscores that does not
start with a digit. A mark `@` may stand before it, and one `?` or `!` after it belongs to it unless an
equals sign follows. -/

namespace ScriptLexer.Word

def isStart (c : Char) : Bool :=
  Unicode.isAlphabetic c || c = '_'

def isPart (c : Char) : Bool :=
  Unicode.isAlphabetic c || c.isDigit || c = '_'

def begins : List Char → Bool
  | [] => false
  | c :: rest => isStart c || (c = '@' && rest.head?.any isStart)

/-- The question or exclamation mark that ends a word, if the input after its run has one. -/
def suffix : List Char → List Char
  | c :: rest => if (c = '?' || c = '!') && rest.head? ≠ some '=' then [c] else []
  | [] => []

/-- The longest run of word characters at the front of the input, with the suffix after it. -/
def unmarked (input : List Char) : List Char :=
  let run := input.takeWhile isPart
  run ++ suffix (input.drop run.length)

def read : List Char → List Char
  | [] => []
  | c :: rest => if c = '@' then c :: unmarked rest else unmarked (c :: rest)

theorem suffix_isPrefix (input : List Char) : suffix input <+: input := by
  cases input with
  | nil => exact List.nil_prefix
  | cons c rest =>
    rw [suffix]
    split
    · exact ⟨rest, rfl⟩
    · exact List.nil_prefix

theorem unmarked_isPrefix (input : List Char) : unmarked input <+: input := by
  obtain ⟨after, h⟩ := suffix_isPrefix (input.drop (input.takeWhile isPart).length)
  refine ⟨after, ?_⟩
  rw [unmarked, List.append_assoc, h]
  exact List.prefix_iff_eq_append.mp (List.takeWhile_prefix isPart)

theorem read_isPrefix (input : List Char) : read input <+: input := by
  cases input with
  | nil => exact List.nil_prefix
  | cons c rest =>
    rw [read]
    split
    · exact List.cons_prefix_cons.mpr ⟨rfl, unmarked_isPrefix rest⟩
    · exact unmarked_isPrefix (c :: rest)

theorem isPart_of_isStart {c : Char} (h : isStart c = true) : isPart c = true := by
  simp only [isStart, Bool.or_eq_true] at h
  rcases h with h | h <;> simp [isPart, h]

theorem read_ne_nil {input : List Char} (h : begins input = true) : read input ≠ [] := by
  cases input with
  | nil => simp [begins] at h
  | cons c rest =>
    rw [read]
    split
    · exact List.cons_ne_nil _ _
    · next hmark =>
      have hc : isStart c = true := by simpa [begins, hmark] using h
      simp [unmarked, isPart_of_isStart hc]

end ScriptLexer.Word
