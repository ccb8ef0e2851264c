import ScriptLexer.Proofs.LexemeBoundary
import ScriptLexer.Proofs.LineNumbers
import ScriptLexer.Proofs.LongestPrefix

/-! Words said without their reader: a mark, the longest run of word characters, and a suffix that what follows the run
decides on. The kind of a word depends on its whole spelling and on nothing else. -/

namespace ScriptLexer

/-- Whether tokens of the kind are words, reserved ones among them. -/
def Kind.isWord : Kind → Bool
  | .identifier | .constant | .instanceVariable | .keyword _ => true
  | _ => false

/-- How a word lies at the front of an input. Its run starts with a letter or an underscore, and a question or
exclamation mark right behind the run belongs to it unless an equals sign comes next. -/
structure Word.Splits (input mark run suffix after : List Char) : Prop where
  input_eq : input = mark ++ run ++ suffix ++ after
  mark_eq : mark = [] ∨ mark = ['@']
  starts : run.head?.any isStart = true
  longest : IsLongestPrefix (fun front => ∀ c ∈ front, isPart c = true) (run ++ suffix ++ after) run
  suffix_length : suffix.length ≤ 1
  suffix_eq_iff : ∀ c, suffix = [c] ↔
    (c = '?' ∨ c = '!') ∧ ∃ more, suffix ++ after = c :: more ∧ more.head? ≠ some '='

def Word.IsReserved (word : List Char) : Prop :=
  ∃ k : Keyword, k.spelling.toList = word

/-- The kind is the one that the spelling of a word calls for. -/
structure Kind.Classifies (kind : Kind) (word : List Char) : Prop where
  keyword_iff : ∀ k, kind = .keyword k ↔ k.spelling.toList = word
  instanceVariable_iff : kind = .instanceVariable ↔ ¬ Word.IsReserved word ∧ word.head? = some '@'
  constant_iff : kind = .constant ↔
    ¬ Word.IsReserved word ∧ word.head? ≠ some '@' ∧ word.head?.any Unicode.isUppercase = true
  identifier_iff : kind = .identifier ↔
    ¬ Word.IsReserved word ∧ word.head? ≠ some '@' ∧ word.head?.any Unicode.isUppercase = false

theorem Kind.isWord_ofWord (word : List Char) : (ofWord word).isWord = true := by
  rcases ofWord_cases word with ⟨k, hk⟩ | hk | hk | hk <;> rw [hk] <;> rfl

theorem Word.isReserved_iff {word : List Char} : IsReserved word ↔ Keyword.ofSpelling? word ≠ none := by
  rw [Option.ne_none_iff_exists']
  exact exists_congr fun k => Keyword.ofSpelling?_eq_some_iff.symm

theorem Kind.ofWord_of_isReserved {word : List Char} {k : Keyword} (h : k.spelling.toList = word) :
    ofWord word = .keyword k := by
  rw [ofWord.eq_def, Keyword.ofSpelling?_eq_some_iff.mpr h]

theorem Kind.ofWord_of_not_isReserved {word : List Char} (h : ¬ Word.IsReserved word) : ofWord word =
    if word.head? = some '@' then .instanceVariable
    else if word.head?.any Unicode.isUppercase then .constant
    else .identifier := by
  rw [Word.isReserved_iff, not_not] at h
  rw [ofWord.eq_def, h]
  cases word with
  | nil => rfl
  | cons c rest =>
    by_cases hmark : c = '@'
    · subst hmark
      rfl
    · by_cases hupper : Unicode.isUppercase c = true <;> simp [hmark, hupper]

theorem Kind.classifies_ofWord (word : List Char) : (ofWord word).Classifies word := by
  by_cases hreserved : Word.IsReserved word
  · obtain ⟨k, hk⟩ := hreserved
    rw [ofWord_of_isReserved hk]
    have hreserved : Word.IsReserved word := ⟨k, hk⟩
    refine ⟨fun k' => ⟨?_, fun hk' => ?_⟩, by simp [hreserved], by simp [hreserved], by simp [hreserved]⟩
    · rintro ⟨⟩
      exact hk
    · rw [← ofWord_of_isReserved hk, ofWord_of_isReserved hk']
  · have hspelling : ∀ k : Keyword, k.spelling.toList ≠ word := fun k hk => hreserved ⟨k, hk⟩
    rw [ofWord_of_not_isReserved hreserved]
    by_cases hmark : word.head? = some '@'
    · rw [if_pos hmark]
      exact ⟨by simp [hspelling], by simp [hreserved, hmark], by simp [hmark], by simp [hmark]⟩
    rw [if_neg hmark]
    by_cases hupper : word.head?.any Unicode.isUppercase = true
    · rw [if_pos hupper]
      exact ⟨by simp [hspelling], by simp [hmark], by simp [hreserved, hmark, hupper], by simp [hupper]⟩
    · rw [if_neg hupper]
      exact ⟨by simp [hspelling], by simp [hmark], by simp [hupper], by simp [hreserved, hmark, hupper]⟩

namespace Word

variable {input rest : List Char} {first : Char}

theorem not_startsTrivia {o : Options} (h : begins (first :: rest) = true) : ¬ startsTrivia o first := by
  intro hfirst
  rcases isStart_of_begins h with hstart | rfl
  · exact List.any_eq_false.mp any_isPart_triviaMarks first hfirst.mem (isPart_of_isStart hstart)
  · exact absurd hfirst.mem (by decide)

theorem suffix_eq_singleton_iff {c : Char} : suffix input = [c] ↔
    (c = '?' ∨ c = '!') ∧ ∃ more, input = c :: more ∧ more.head? ≠ some '=' := by
  cases input with
  | nil => simp [suffix]
  | cons first more =>
    by_cases hfirst : first = '?' ∨ first = '!'
    · by_cases hequals : more.head? = some '='
      · rw [suffix_cons hfirst, if_pos hequals]
        simp_all
      · rw [suffix_cons hfirst, if_neg hequals]
        constructor
        · rintro ⟨⟩
          exact ⟨hfirst, more, rfl, hequals⟩
        · rintro ⟨-, _, ⟨⟩, -⟩
          rfl
    · have hnone : suffix (first :: more) = [] := by simp_all [suffix]
      rw [hnone]
      refine iff_of_false (by simp) ?_
      rintro ⟨hc, _, ⟨⟩, -⟩
      exact hfirst hc

theorem splits_unmarked {mark : List Char} (hmark : mark = [] ∨ mark = ['@'])
    (hstart : input.head?.any isStart = true) : ∃ run suffix after,
      Splits (mark ++ input) mark run suffix after ∧ unmarked input = run ++ suffix := by
  obtain ⟨run, hrun⟩ : ∃ run, input.takeWhile isPart = run := ⟨_, rfl⟩
  obtain ⟨after, hafter⟩ := suffix_isPrefix (input.drop run.length)
  have hsplit : run ++ input.drop run.length = input := by
    rw [← hrun]
    exact List.prefix_iff_eq_append.mp (List.takeWhile_prefix isPart)
  rw [← hafter, ← List.append_assoc] at hsplit
  refine ⟨run, suffix (input.drop run.length), after, ⟨?_, hmark, ?_, ?_, ?_, ?_⟩, by rw [unmarked, hrun]⟩
  · rw [List.append_assoc mark, List.append_assoc mark, hsplit]
  · obtain ⟨c, more, rfl, hc⟩ : ∃ c more, input = c :: more ∧ isStart c = true := by
      cases input with
      | nil => simp at hstart
      | cons c more => exact ⟨c, more, rfl, by simpa using hstart⟩
    rw [← hrun]
    simp [isPart_of_isStart hc, hc]
  · rw [hsplit, ← hrun]
    exact isLongestPrefix_takeWhile isPart input
  · rcases suffix_cases (input.drop run.length) with hs | hs | hs <;> simp [hs]
  · intro c
    rw [hafter]
    exact suffix_eq_singleton_iff

theorem splits_read (h : begins input = true) : ∃ mark run suffix after,
    Splits input mark run suffix after ∧ read input = mark ++ run ++ suffix := by
  cases input with
  | nil => simp [begins] at h
  | cons first rest =>
    by_cases hat : first = '@'
    · have hstart : rest.head?.any isStart = true := by
        have hnot : isStart '@' = false := by decide
        simpa [begins, hat, hnot] using h
      obtain ⟨run, suffix, after, hsplits, hread⟩ := splits_unmarked (.inr rfl) hstart
      refine ⟨['@'], run, suffix, after, by simpa [hat] using hsplits, ?_⟩
      rw [read, if_pos hat, hread, hat, List.append_assoc, List.singleton_append]
    · have hstart : (first :: rest).head?.any isStart = true := by simpa [begins, hat] using h
      obtain ⟨run, suffix, after, hsplits, hread⟩ := splits_unmarked (.inl rfl) hstart
      refine ⟨[], run, suffix, after, hsplits, ?_⟩
      rw [read, if_neg hat, hread, List.nil_append]

end Word

theorem IsLexeme.begins_of_isWord {c : Context} {input : List Char} {x : Lexeme} (h : IsLexeme c input x)
    (hkind : x.kind.isWord = true) : Word.begins input = true := by
  have horigin := h.origin
  unfold Lexeme.Origin at horigin
  cases hx : x.kind <;> simp_all [Kind.isWord]

namespace Lexer

theorem pull_of_begins {l : Lexer} {gap rest : List Char} (hrest : l.cursor.rest = gap ++ rest)
    (hgap : IsTrivia l.options rest.head? gap) (hbegins : Word.begins rest = true) :
    l.start.rest = rest ∧ l.pull.1.gap = gap ∧ l.pull.1.lexeme = .word rest := by
  cases rest with
  | nil => simp [Word.begins] at hbegins
  | cons first rest =>
    have hread := pull_of_first hrest hgap (Word.not_startsTrivia hbegins)
    rwa [(IsLexeme.word hbegins).read_eq] at hread

/-- A word is read where a letter or an underscore is the next character besides trivia, or a mark with one of them
behind it, and nowhere else. Neither the context nor the options matter for it. -/
theorem pull_word (text : List Char) (n : Nat) (context : Context) (o : Options) (file : String) (finished : Bool) :
    let l : Lexer := ⟨(Cursor.ofText text).advanceN n, context, o, file, finished⟩
    let e := l.pull.1
    (e.lexeme.kind.isWord = true ↔ ∃ gap rest, text.drop n = gap ++ rest ∧ IsTrivia o rest.head? gap ∧
        Word.begins rest = true) ∧
      ∀ gap rest, text.drop n = gap ++ rest → IsTrivia o rest.head? gap → Word.begins rest = true →
        (∃ mark run suffix after, Word.Splits rest mark run suffix after ∧
          e.lexeme.text = mark ++ run ++ suffix ∧ l.pull.2.cursor.rest = after) ∧
        e.lexeme.kind.Classifies e.lexeme.text ∧
        e.position = n + gap.length ∧
        e.token = ⟨e.lexeme.kind, String.ofList e.lexeme.text, 1 + (text.take (n + gap.length)).count '\n'⟩ ∧
        ∀ (m : Lexer) (gap' : List Char), m.cursor.rest = gap' ++ rest → IsTrivia m.options rest.head? gap' →
          m.pull.1.lexeme = e.lexeme := by
  intro l e
  have hword : ∀ {gap rest}, text.drop n = gap ++ rest → IsTrivia o rest.head? gap →
      Word.begins rest = true → l.start.rest = rest ∧ e.gap = gap ∧ e.lexeme = .word rest :=
    fun htext hgap hbegins => pull_of_begins (l := l) htext hgap hbegins
  refine ⟨⟨fun hkind => ?_, ?_⟩, fun gap rest htext hgap hbegins => ?_⟩
  · refine ⟨e.gap, l.start.rest, l.pull_gap_append_start.symm, trivia_isTrivia o _, ?_⟩
    exact l.pull_isLexeme.begins_of_isWord hkind
  · rintro ⟨gap, rest, htext, hgap, hbegins⟩
    rw [(hword htext hgap hbegins).2.2]
    exact Kind.isWord_ofWord _
  · obtain ⟨hstart, hpullgap, hlexeme⟩ := hword htext hgap hbegins
    obtain ⟨mark, run, suffix, after, hsplits, hread⟩ := Word.splits_read hbegins
    have htext' : e.lexeme.text = mark ++ run ++ suffix := by
      rw [hlexeme]
      exact hread
    have hrest : l.pull.2.cursor.rest = after := by
      have hsplit : e.lexeme.text ++ l.pull.2.cursor.rest = rest := l.text_append_rest.trans hstart
      rw [htext', hsplits.input_eq] at hsplit
      exact List.append_cancel_left hsplit
    refine ⟨⟨mark, run, suffix, after, hsplits, htext', hrest⟩, ?_, ?_⟩
    · rw [hlexeme]
      exact Kind.classifies_ofWord _
    · obtain ⟨first, more, rfl⟩ : ∃ first more, rest = first :: more :=
        List.exists_cons_of_ne_nil (by rintro rfl; simp [Word.begins] at hbegins)
      obtain ⟨hposition, hline⟩ : e.position = n + gap.length ∧ e.line = _ := place_of_pull rfl htext hpullgap
      refine ⟨hposition, ?_, fun m gap' hrest' hgap' => ?_⟩
      · rw [Emission.token, hline, hlexeme]
        rfl
      · rw [hlexeme, (pull_of_begins hrest' hgap' hbegins).2.2]

/-- With an equals sign behind it the question mark is no part of the word, which is reserved only with the mark. -/
theorem pull_word_before_equals :
    let gap := [' ', '#', '\n']
    let rest := ['b', 'l', 'o', 'c', 'k', '?', '=', '1']
    let l : Lexer := ⟨(Cursor.ofText ('@' :: gap ++ rest)).advanceN 1, .expectMember, {}, defaultFile, false⟩
    ('@' :: gap ++ rest).drop 1 = gap ++ rest ∧ IsTrivia {} rest.head? gap ∧ Word.begins rest = true ∧
      l.pull.1.token = ⟨.identifier, "block", 2⟩ ∧ l.pull.1.position = 4 := by
  intro gap rest l
  have hgap : IsTrivia {} rest.head? gap :=
    .blank (.inl rfl) (.comment [] rfl (by simp) (.inr rfl) (.lineBreak rfl .nil))
  have hbegins : Word.begins rest = true := by decide
  obtain ⟨-, -, hposition, htoken, -⟩ :=
    (pull_word ('@' :: gap ++ rest) 1 .expectMember {} defaultFile false).2 gap rest rfl hgap hbegins
  exact ⟨rfl, hgap, hbegins, htoken.trans rfl, hposition⟩

end Lexer

end ScriptLexer
