import ScriptLexer.Proofs.LexemeShape

/-! The lookahead of a lexeme: two characters of what follows it, and nothing across trivia. A lexeme is read again
from its own text wherever it sees nothing new behind it. -/

namespace ScriptLexer

/-- The second text stops a lexeme before it where the first one does. What a lexeme sees of the second it sees of
the first as well, and an equals sign that it sees behind a character of the first is there in the second, too. -/
structure StopsLike (after after' : List Char) : Prop where
  shown : ∀ seen, seen.length ≤ 2 → (∀ c ∈ seen, c ∉ triviaMarks) → seen <+: after' → seen <+: after
  equals : ∀ c, c ∉ triviaMarks → after'.head? = some c → [c, '='] <+: after → [c, '='] <+: after'

/-- Nothing follows, or trivia does. -/
def IsApart (after : List Char) : Prop :=
  ∀ c, after.head? = some c → startsTrivia {} c

theorem isApart_nil : IsApart [] := fun _ h => nomatch h

theorem IsApart.stopsLike {after' : List Char} (h : IsApart after') (after : List Char) :
    StopsLike after after' := by
  refine ⟨fun seen _ hseen hfront => ?_, fun c hc hhead _ => absurd (h c hhead).mem hc⟩
  cases seen with
  | nil => exact List.nil_prefix
  | cons c seen =>
    obtain ⟨rest, rfl⟩ := hfront
    exact absurd (h c rfl).mem (hseen c List.mem_cons_self)

theorem takeWhile_append_eq_iff {p : Char → Bool} {run rest : List Char} : (run ++ rest).takeWhile p = run ↔
    (∀ c ∈ run, p c = true) ∧ ∀ c, rest.head? = some c → p c = false := by
  constructor
  · intro h
    have hrun : ∀ c ∈ run, p c = true := fun c hc => List.mem_takeWhile_imp (h ▸ hc)
    rw [List.takeWhile_append_of_pos hrun, List.append_right_eq_self] at h
    refine ⟨hrun, fun c hc => ?_⟩
    obtain ⟨rest, rfl⟩ := List.head?_eq_some_iff.mp hc
    simpa using h
  · rintro ⟨hrun, hstop⟩
    rw [List.takeWhile_append_of_pos hrun]
    cases rest with
    | nil => simp
    | cons c rest => simp [hstop c rfl]

namespace StopsLike

variable {after after' : List Char} {p : Char → Bool}

theorem isPrefix_of_rel {R : List Char → List Char → Prop} {seen : List Char}
    (hback : ∀ {c text text'}, c ∉ triviaMarks → R text (c :: text') → ∃ rest, text = c :: rest ∧ R rest text')
    (hmarks : ∀ c ∈ seen, c ∉ triviaMarks) (h : R after after') (hseen : seen <+: after') : seen <+: after := by
  induction seen generalizing after after' with
  | nil => exact List.nil_prefix
  | cons c seen ih =>
    obtain ⟨hc, hmarks⟩ := List.forall_mem_cons.mp hmarks
    obtain ⟨more, rfl⟩ := hseen
    obtain ⟨rest, rfl, hrest⟩ := hback hc h
    exact List.cons_prefix_cons.mpr ⟨rfl, ih hmarks hrest (List.prefix_append seen more)⟩

/-- Texts stop a lexeme alike where a relation between them gives back all but marks and keeps the equals signs. -/
theorem of_rel {R : List Char → List Char → Prop}
    (hback : ∀ {c text text'}, c ∉ triviaMarks → R text (c :: text') → ∃ rest, text = c :: rest ∧ R rest text')
    (hequals : ∀ {rest text'}, R ('=' :: rest) text' → text'.head? = some '=') (h : R after after') :
    StopsLike after after' := by
  refine ⟨fun seen _ hmarks => isPrefix_of_rel hback hmarks h, fun c hc hhead hfront => ?_⟩
  obtain ⟨rest', rfl⟩ := List.head?_eq_some_iff.mp hhead
  obtain ⟨rest, rfl, hrest⟩ := hback hc h
  obtain ⟨-, more, rfl⟩ := List.cons_prefix_cons.mp hfront
  obtain ⟨more', rfl⟩ := List.head?_eq_some_iff.mp (hequals hrest)
  exact ⟨more', rfl⟩

theorem head_eq_false (h : StopsLike after after') (hp : triviaMarks.any p = false)
    (hstop : ∀ c, after.head? = some c → p c = false) : ∀ c, after'.head? = some c → p c = false := by
  intro c hc
  apply Bool.eq_false_iff.mpr
  intro hpc
  have hmark : c ∉ triviaMarks := fun hmem => List.any_eq_false.mp hp c hmem hpc
  obtain ⟨rest', rfl⟩ := List.head?_eq_some_iff.mp hc
  obtain ⟨rest, rfl⟩ := h.shown [c] (by simp) (by simpa using hmark) ⟨rest', rfl⟩
  exact absurd hpc (by simp [hstop c rfl])

/-- The character that stops a run may stand before what is replaced. -/
theorem append_head_eq_false (h : StopsLike after after') (hp : triviaMarks.any p = false) (text : List Char)
    (hstop : ∀ c, (text ++ after).head? = some c → p c = false) :
    ∀ c, (text ++ after').head? = some c → p c = false := by
  cases text with
  | nil => exact h.head_eq_false hp hstop
  | cons d text => exact hstop

theorem takeWhile_append (h : StopsLike after after') (hp : triviaMarks.any p = false) {run : List Char}
    (text : List Char) (hrun : (run ++ (text ++ after)).takeWhile p = run) :
    (run ++ (text ++ after')).takeWhile p = run := by
  obtain ⟨hall, hstop⟩ := takeWhile_append_eq_iff.mp hrun
  exact takeWhile_append_eq_iff.mpr ⟨hall, h.append_head_eq_false hp text hstop⟩

/-- What stands at the front with the help of what is behind a text stands there without the replacement, too. -/
theorem symbol_isPrefix (h : StopsLike after after') {s : Symbol} {text : List Char} (htext : text ≠ [])
    (hs : s.spelling.toList <+: text ++ after') : s.spelling.toList <+: text ++ after := by
  rcases List.prefix_or_prefix_of_prefix hs (List.prefix_append text after') with hfront | ⟨seen, hseen⟩
  · exact hfront.trans (List.prefix_append text after)
  · have hlength : seen.length ≤ 2 := by
      have hbound : s.spelling.toList.length ≤ 3 := s.spelling_length_le
      have hpos := List.length_pos_iff.mpr htext
      rw [← hseen, List.length_append] at hbound
      omega
    have hmarks : ∀ c ∈ seen, c ∉ triviaMarks := fun c hc hmem =>
      s.not_mem_spelling (List.mem_cons_of_mem _ hmem) (hseen ▸ List.mem_append_right text hc)
    rw [← hseen, List.prefix_append_right_inj] at hs ⊢
    exact h.shown seen hlength hmarks hs

end StopsLike

namespace Numeral

variable {after after' text : List Char}

theorem any_isDigit_triviaMarks : triviaMarks.any Char.isDigit = false := by
  decide

theorem fraction_append (h : StopsLike after after') (htext : fraction (text ++ after) = text) :
    fraction (text ++ after') = text := by
  rcases fraction_cases (text ++ after) with hnil | ⟨c, digits, hcons, hc, -⟩
  · obtain rfl : text = [] := htext.symm.trans hnil
    rcases fraction_cases after' with hnil' | ⟨c, digits, hcons, hc, -⟩
    · exact hnil'
    · have hpoint : ['.', c] <+: after' :=
        List.IsPrefix.trans ⟨digits, hcons.symm⟩ (fraction_isPrefix after')
      have hmark : c ∉ triviaMarks := fun hmem => List.any_eq_false.mp any_isDigit_triviaMarks c hmem hc
      obtain ⟨rest, rfl⟩ := h.shown ['.', c] (by simp) (by simpa using ⟨by decide, hmark⟩) hpoint
      simp [fraction, hc] at htext
  · obtain rfl : text = '.' :: c :: digits := htext.symm.trans hcons
    have hdigits : (digits ++ ([] ++ after)).takeWhile Char.isDigit = digits := by
      simpa [fraction, hc] using htext
    have hdigits' := h.takeWhile_append any_isDigit_triviaMarks [] hdigits
    rw [List.nil_append] at hdigits'
    simp [fraction, hc, hdigits']

theorem part_of_whole {run : List Char} (h : whole (run ++ text) = run) : part (run ++ text) = fraction text := by
  rw [part, h, List.drop_left]

theorem read_append (h : StopsLike after after') (htext : read (text ++ after) = text) :
    read (text ++ after') = text ∧ part (text ++ after') = part (text ++ after) := by
  obtain ⟨run, rest, hrun, hrest, rfl⟩ : ∃ run rest, whole (text ++ after) = run ∧
      part (text ++ after) = rest ∧ run ++ rest = text := ⟨_, _, rfl, rfl, htext⟩
  rw [List.append_assoc] at hrun hrest
  have hrun' : whole (run ++ (rest ++ after')) = run :=
    h.takeWhile_append any_isDigit_triviaMarks rest hrun
  have hrest' : part (run ++ (rest ++ after')) = rest := by
    rw [part_of_whole hrun']
    rw [part_of_whole hrun] at hrest
    exact fraction_append h hrest
  rw [List.append_assoc, List.append_assoc, read, hrun', hrest', hrest]
  exact ⟨rfl, rfl⟩

end Numeral

namespace Word

variable {after after' text : List Char}

theorem any_isPart_triviaMarks : triviaMarks.any isPart = false := by
  decide

theorem suffix_cons {c : Char} (hc : c = '?' ∨ c = '!') (rest : List Char) :
    suffix (c :: rest) = if rest.head? = some '=' then [] else [c] := by
  rcases hc with rfl | rfl <;> simp [suffix]

theorem suffix_nil_append (h : StopsLike after after') (htext : suffix after = []) : suffix after' = [] := by
  cases after' with
  | nil => rfl
  | cons c rest' =>
    by_cases hc : c = '?' ∨ c = '!'
    · have hmark : c ∉ triviaMarks := by rcases hc with rfl | rfl <;> decide
      obtain ⟨rest, rfl⟩ := h.shown [c] (by simp) (by simpa using hmark) ⟨rest', rfl⟩
      have hrest : rest.head? = some '=' := by
        by_contra hne
        simp [suffix_cons hc, hne] at htext
      obtain ⟨more, rfl⟩ := List.head?_eq_some_iff.mp hrest
      obtain ⟨more', hmore⟩ := h.equals c hmark rfl ⟨more, rfl⟩
      rw [← hmore]
      exact suffix_cons hc ('=' :: more')
    · obtain ⟨hquestion, hbang⟩ := not_or.mp hc
      simp [suffix, hquestion, hbang]

theorem suffix_append (h : StopsLike after after') (htext : suffix (text ++ after) = text) :
    suffix (text ++ after') = text := by
  have hmarked : ∀ c : Char, c = '?' ∨ c = '!' → suffix (c :: after) = [c] → suffix (c :: after') = [c] := by
    intro c hc hsuffix
    have hne : ∀ d, after.head? = some d → decide (d = '=') = false := by
      rintro d hd
      apply decide_eq_false
      rintro rfl
      simp [suffix_cons hc, hd] at hsuffix
    have hne' := h.head_eq_false (p := fun d => d = '=') (by decide) hne
    rw [suffix_cons hc, if_neg fun hd => absurd (hne' _ hd) (by decide)]
  rcases suffix_cases (text ++ after) with hs | hs | hs
  · obtain rfl := htext.symm.trans hs
    exact suffix_nil_append h htext
  · obtain rfl := htext.symm.trans hs
    exact hmarked _ (.inl rfl) htext
  · obtain rfl := htext.symm.trans hs
    exact hmarked _ (.inr rfl) htext

theorem unmarked_append (h : StopsLike after after') (htext : unmarked (text ++ after) = text) :
    unmarked (text ++ after') = text := by
  obtain ⟨run, hrun⟩ : ∃ run, (text ++ after).takeWhile isPart = run := ⟨_, rfl⟩
  obtain ⟨mark, hmark⟩ : ∃ mark, suffix ((text ++ after).drop run.length) = mark := ⟨_, rfl⟩
  obtain rfl : run ++ mark = text := by
    rw [← htext, unmarked, hrun, hmark]
  rw [List.append_assoc] at hrun hmark
  rw [List.drop_left] at hmark
  have hrun' := h.takeWhile_append any_isPart_triviaMarks mark hrun
  rw [List.append_assoc, unmarked, hrun', List.drop_left, suffix_append h hmark]

theorem unmarked_ne_nil {c : Char} (hc : isStart c = true) (rest : List Char) : unmarked (c :: rest) ≠ [] := by
  simp [unmarked, isPart_of_isStart hc]

theorem read_append (h : StopsLike after after') (htext : read (text ++ after) = text)
    (hbegins : begins (text ++ after) = true) :
    read (text ++ after') = text ∧ begins (text ++ after') = true := by
  cases text with
  | nil => exact absurd htext (read_ne_nil hbegins)
  | cons c text =>
    by_cases hmark : c = '@'
    · subst hmark
      have htail : unmarked (text ++ after) = text := by simpa [read] using htext
      have hstart : (text ++ after).head?.any isStart = true := by
        have hat : isStart '@' = false := by decide
        simpa [begins, hat] using hbegins
      cases text with
      | nil =>
        cases after with
        | nil => exact absurd hstart Bool.noConfusion
        | cons d after => exact absurd htail (unmarked_ne_nil hstart after)
      | cons d text =>
        have hd : isStart d = true := hstart
        refine ⟨?_, by simp [begins, hd]⟩
        rw [List.cons_append, read, if_pos rfl, unmarked_append h htail]
    · have hc : isStart c = true := by simpa [begins, hmark] using hbegins
      have htail : unmarked (c :: text ++ after) = c :: text := by simpa [read, hmark] using htext
      refine ⟨?_, by simp [begins, hc]⟩
      rw [List.cons_append, read, if_neg hmark]
      exact unmarked_append h htail

end Word

namespace Symbol

variable {after after' : List Char}

theorem longest?_append {s : Symbol} (h : StopsLike after after')
    (hs : longest? (s.spelling.toList ++ after) maxLength = some s) :
    longest? (s.spelling.toList ++ after') maxLength = some s := by
  obtain ⟨-, hlength, hlongest⟩ := longest?_eq_some_iff.mp hs
  refine longest?_eq_some_iff.mpr ⟨List.prefix_append _ _, hlength, fun t ht => ?_⟩
  exact hlongest t (h.symbol_isPrefix s.spelling_ne_nil ht)

theorem longest?_stray {c : Char} (h : StopsLike after after')
    (hc : longest? (c :: after) maxLength = none) : longest? (c :: after') maxLength = none :=
  longest?_eq_none_iff.mpr fun t ht =>
    longest?_eq_none_iff.mp hc t (h.symbol_isPrefix (List.cons_ne_nil c []) ht)

end Symbol

section Quoted

variable {q : Quote}

theorem quotedBody_append {input : List Char} (h : input ≠ quotedBody q input) (after : List Char) :
    quotedBody q (quotedBody q input ++ q.mark :: after) = quotedBody q input := by
  fun_induction quotedBody q input with
  | case1 => exact absurd rfl h
  | case2 => exact quotedBody_mark
  | case3 => exact absurd rfl h
  | case4 escaped rest hmark ih =>
    have htail := ih (by simpa using h)
    rw [List.cons_append, List.cons_append, quotedBody_escape hmark, htail]
  | case5 c rest hmark hslash ih =>
    have htail := ih (by simpa using h)
    rw [List.cons_append, quotedBody_cons hmark hslash, htail]

theorem Lexeme.quoted_append {input after : List Char} (h : (quoted q input).unterminated = false) :
    ∃ rest, (quoted q input).text ++ after = q.mark :: rest ∧ quoted q rest = quoted q input := by
  rcases quoted_cases q input with hq | ⟨_, hq⟩
  · have hne : input ≠ quotedBody q input := by
      intro hbody
      have hdrop : input.drop (quotedBody q input).length = [] := by
        rw [← hbody]
        exact List.drop_length
      simp [quoted, hdrop] at h
    have hagain := quotedBody_append hne after
    refine ⟨quotedBody q input ++ q.mark :: after, by simp [hq], ?_⟩
    rw [hq, quoted, hagain, List.drop_left]
  · simp [hq] at h

end Quoted

theorem Unclaimed.append {c : Context} {first : Char} {text after after' : List Char}
    (h : Unclaimed c first (text ++ after)) (hlike : StopsLike after after') :
    Unclaimed c first (text ++ after') := by
  refine ⟨h.not_lineBreak, h.not_hash, h.not_quote, h.not_digit, ?_, h.not_bar⟩
  have hword := h.not_word
  rw [Word.begins, Bool.or_eq_false_iff, Bool.and_eq_false_iff] at hword ⊢
  refine ⟨hword.1, hword.2.imp_right fun hstop => ?_⟩
  have hhead : ∀ d, (text ++ after).head? = some d → Word.isStart d = false := by
    intro d hd
    simpa [hd] using hstop
  have hhead' := hlike.append_head_eq_false (by decide) text hhead
  cases hd : (text ++ after').head? with
  | none => rfl
  | some d => exact hhead' d hd

section Append

variable {c : Context} {first : Char} {rest after after' : List Char}

theorem IsLexeme.number_append (hlike : StopsLike after after') (hdigit : first.isDigit = true)
    (hinput : Numeral.read (first :: rest) ++ after = first :: rest) :
    IsLexeme c (Numeral.read (first :: rest) ++ after') (.number (first :: rest)) := by
  have hread : Numeral.read (Numeral.read (first :: rest) ++ after) = Numeral.read (first :: rest) := by
    rw [hinput]
  obtain ⟨hread', hpart'⟩ := Numeral.read_append hlike hread
  rw [hinput] at hpart'
  have hsame : Lexeme.number (Numeral.read (first :: rest) ++ after') = .number (first :: rest) := by
    rw [Lexeme.number, hread', hpart', ← Lexeme.number]
  obtain ⟨tail, htail⟩ : ∃ tail, Numeral.read (first :: rest) = first :: tail := by
    simp [Numeral.read, Numeral.whole, hdigit]
  have hagain : IsLexeme c (first :: (tail ++ after')) (.number (first :: (tail ++ after'))) := .number hdigit
  rwa [← List.cons_append, ← htail, hsame] at hagain

theorem IsLexeme.of_begins {input : List Char} (h : Word.begins input = true) :
    IsLexeme c input (.word input) := by
  cases input with
  | nil => exact absurd h Bool.noConfusion
  | cons first rest => exact .word h

theorem IsLexeme.word_append (hlike : StopsLike after after') (hword : Word.begins (first :: rest) = true)
    (hinput : Word.read (first :: rest) ++ after = first :: rest) :
    IsLexeme c (Word.read (first :: rest) ++ after') (.word (first :: rest)) := by
  have hread : Word.read (Word.read (first :: rest) ++ after) = Word.read (first :: rest) := by
    rw [hinput]
  obtain ⟨hread', hbegins'⟩ := Word.read_append hlike hread (by rw [hinput]; exact hword)
  have hsame : Lexeme.word (Word.read (first :: rest) ++ after') = .word (first :: rest) := by
    rw [Lexeme.word, hread', ← Lexeme.word]
  have hagain : IsLexeme c (Word.read (first :: rest) ++ after') _ := .of_begins hbegins'
  rwa [hsame] at hagain

theorem IsLexeme.symbol_append {s : Symbol} (hlike : StopsLike after after') (hother : Unclaimed c first rest)
    (hs : Symbol.longest? (first :: rest) Symbol.maxLength = some s)
    (hinput : s.spelling.toList ++ after = first :: rest) :
    IsLexeme c (s.spelling.toList ++ after') (.plain (c.kindOf s) s.spelling.toList) := by
  rw [← hinput] at hs
  have hs' := Symbol.longest?_append hlike hs
  obtain ⟨d, text, hspelling⟩ := List.exists_cons_of_ne_nil s.spelling_ne_nil
  rw [hspelling, List.cons_append, List.cons.injEq] at hinput
  obtain ⟨rfl, rfl⟩ := hinput
  rw [hspelling, List.cons_append] at hs'
  have hagain := IsLexeme.symbol (hother.append hlike) hs'
  rwa [← List.cons_append, ← hspelling] at hagain

theorem IsLexeme.comment_append (hend : endsComment after'.head?) :
    IsLexeme c ((Lexeme.comment ('#' :: rest)).text ++ after') (.comment ('#' :: rest)) := by
  obtain ⟨text, htext⟩ : ∃ text, ('#' :: rest).takeWhile (· ≠ '\n') = '#' :: text := by simp
  have hrun : (('#' :: text) ++ after').takeWhile (· ≠ '\n') = '#' :: text := by
    have hline : ∀ d ∈ '#' :: text, decide (d ≠ '\n') = true := by
      intro d hd
      rw [← htext] at hd
      simpa using List.mem_takeWhile_imp hd
    refine takeWhile_append_eq_iff.mpr ⟨hline, fun d hd => ?_⟩
    rcases hend with hnone | hbreak
    · rw [hd] at hnone
      exact absurd hnone (Option.some_ne_none d)
    · obtain rfl : d = '\n' := Option.some.inj (hd.symm.trans hbreak)
      decide
  have hsame : Lexeme.comment ('#' :: (text ++ after')) = .comment ('#' :: rest) := by
    rw [Lexeme.comment, Lexeme.comment, htext, ← List.cons_append, hrun]
  have hagain : IsLexeme c ('#' :: (text ++ after')) _ := .comment
  rw [hsame] at hagain
  rw [Lexeme.comment, Lexeme.plain, htext]
  rwa [Lexeme.comment, Lexeme.plain, htext] at hagain

end Append

/-- A lexeme that closes itself is read from its own text as well, wherever what follows stops it. -/
theorem IsLexeme.append {c : Context} {input after after' : List Char} {x : Lexeme} (h : IsLexeme c input x)
    (hinput : x.text ++ after = input) (hne : input ≠ []) (hquoted : x.unterminated = false)
    (hcomment : x.kind = .comment → endsComment after'.head?) (hlike : StopsLike after after') :
    IsLexeme c (x.text ++ after') x := by
  cases h with
  | eof => exact absurd rfl hne
  | newline => exact .newline
  | comment => exact .comment_append (hcomment rfl)
  | quoted =>
    obtain ⟨rest, htext, hsame⟩ := Lexeme.quoted_append hquoted
    rw [htext, ← hsame]
    exact .quoted
  | number hdigit => exact .number_append hlike hdigit hinput
  | word hword => exact .word_append hlike hword hinput
  | bar hbar => exact .bar hbar
  | symbol hother hs => exact .symbol_append hlike hother hs hinput
  | stray hother hs =>
    obtain rfl := (List.cons.inj hinput).2
    have hother' : Unclaimed c _ ([] ++ after') := Unclaimed.append hother hlike
    exact .stray hother' (Symbol.longest?_stray hlike hs)

end ScriptLexer
