import ScriptLexer.Proofs.LexemeBoundary
import ScriptLexer.Proofs.LongestPrefix
import ScriptLexer.Proofs.Progress

/-! Numerals said without their reader: digits, or digits on both sides of a point. The longest one at the front of an
input is read, so that each point in a chain of digits belongs to a fraction, selects a member or is part of a range,
and which of these it is does not depend on the context. -/

namespace ScriptLexer

namespace Numeral

structure IsDigits (text : List Char) : Prop where
  ne_nil : text ≠ []
  isDigit : ∀ c ∈ text, c.isDigit = true

inductive IsNumeral : List Char → Prop
  | whole {digits : List Char} (h : IsDigits digits) : IsNumeral digits
  | fraction {digits more : List Char} (h : IsDigits digits) (hmore : IsDigits more) :
      IsNumeral (digits ++ '.' :: more)

/-- The lexemes of groups of digits with points between them. A point between two groups makes a fraction of them, and
the point after a fraction stands by itself. -/
def chain : List (List Char) → List Lexeme
  | [] => []
  | [digits] => [.plain .integer digits]
  | [digits, more] => [.plain .float (digits ++ '.' :: more)]
  | digits :: more :: groups =>
    .plain .float (digits ++ '.' :: more) :: .plain (.symbol .dot) ['.'] :: chain groups

variable {first c : Char} {digits more rest after : List Char}

theorem IsDigits.exists_cons (h : IsDigits digits) :
    ∃ c more, digits = c :: more ∧ c.isDigit = true ∧ ∀ d ∈ more, d.isDigit = true := by
  obtain ⟨c, more, rfl⟩ := List.exists_cons_of_ne_nil h.ne_nil
  exact ⟨c, more, rfl, List.forall_mem_cons.mp h.isDigit⟩

theorem whole_append (h : IsDigits digits) (hstop : ∀ c, rest.head? = some c → c.isDigit = false) :
    whole (digits ++ rest) = digits :=
  takeWhile_append_eq_iff.mpr ⟨h.isDigit, hstop⟩

theorem whole_append_point (h : IsDigits digits) : whole (digits ++ '.' :: rest) = digits := by
  refine whole_append h fun c hc => ?_
  obtain rfl : '.' = c := by simpa using hc
  decide

theorem fraction_point (hc : c.isDigit = true) :
    fraction ('.' :: c :: rest) = '.' :: c :: rest.takeWhile Char.isDigit := by
  simp [fraction, hc]

theorem isDigits_whole (hfirst : first.isDigit = true) : IsDigits (whole (first :: rest)) :=
  ⟨by simp [whole, hfirst], fun _ hc => List.mem_takeWhile_imp hc⟩

theorem isNumeral_read (hfirst : first.isDigit = true) : IsNumeral (read (first :: rest)) := by
  have hwhole : IsDigits (whole (first :: rest)) := isDigits_whole hfirst
  rcases fraction_cases ((first :: rest).drop (whole (first :: rest)).length) with hnil | ⟨c, digits, hcons, hdigits⟩
  · rw [read, part, hnil, List.append_nil]
    exact .whole hwhole
  · rw [read, part, hcons]
    exact .fraction hwhole ⟨List.cons_ne_nil c digits, List.forall_mem_cons.mpr hdigits⟩

theorem length_le_read {input text : List Char} (h : IsNumeral text) (htext : text <+: input) :
    text.length ≤ (read input).length := by
  cases h with
  | whole h =>
    have hle := (isLongestPrefix_takeWhile Char.isDigit input).longest text h.isDigit htext
    rw [read, List.length_append]
    exact Nat.le_add_right_of_le hle
  | @fraction digits more h hmore =>
    -- The run of digits stops at the point, and the digits behind it go at least as far as the others.
    obtain ⟨after, rfl⟩ := htext
    obtain ⟨c, tail, rfl, hc, htail⟩ := hmore.exists_cons
    have hle := (isLongestPrefix_takeWhile Char.isDigit (tail ++ after)).longest tail htail (List.prefix_append _ _)
    rw [List.append_assoc, List.cons_append, List.cons_append, read, part_of_whole (whole_append_point h),
      whole_append_point h, fraction_point hc]
    simp only [List.length_append, List.length_cons]
    omega

theorem isLongestPrefix_read (hfirst : first.isDigit = true) :
    IsLongestPrefix IsNumeral (first :: rest) (read (first :: rest)) :=
  ⟨isNumeral_read hfirst, read_isPrefix _, fun _ => length_le_read⟩

theorem point_mem_read_iff {input : List Char} : '.' ∈ read input ↔ part input ≠ [] := by
  have hwhole : '.' ∉ whole input := fun hmem => by simpa using List.mem_takeWhile_imp hmem
  rcases fraction_cases (input.drop (whole input).length) with hnil | ⟨c, digits, hcons, -⟩
  · simp [read, part, hnil, hwhole]
  · simp [read, part, hcons]

theorem not_mem_triviaMarks (h : c.isDigit = true ∨ c = '.') : c ∉ triviaMarks := by
  rcases h with hdigit | rfl
  · exact fun hmem => List.any_eq_false.mp any_isDigit_triviaMarks c hmem hdigit
  · decide

theorem IsNumeral.mem {text : List Char} (h : IsNumeral text) (hc : c ∈ text) : c.isDigit = true ∨ c = '.' := by
  cases h with
  | whole h => exact .inl (h.isDigit c hc)
  | fraction h hmore =>
    rcases List.mem_append.mp hc with hc | hc
    · exact .inl (h.isDigit c hc)
    · exact (List.mem_cons.mp hc).symm.imp_left (hmore.isDigit c)

theorem IsNumeral.ne_nil {text : List Char} (h : IsNumeral text) : text ≠ [] := by
  cases h with
  | whole h => exact h.ne_nil
  | fraction h _ => simp [h.ne_nil]

end Numeral

open Numeral

theorem Lexeme.number_kind_eq_float_iff {input : List Char} :
    (number input).kind = .float ↔ '.' ∈ Numeral.read input := by
  rw [point_mem_read_iff]
  by_cases hpart : part input = [] <;> simp [number, plain, hpart]

theorem Lexeme.number_kind_eq_integer_iff {input : List Char} :
    (number input).kind = .integer ↔ '.' ∉ Numeral.read input := by
  rw [point_mem_read_iff, not_not]
  by_cases hpart : part input = [] <;> simp [number, plain, hpart]

section Pieces

variable {context : Context} {digits more rest : List Char}

theorem IsLexeme.integer (h : IsDigits digits) (hstop : ∀ c, rest.head? = some c → c.isDigit = false)
    (hfraction : fraction rest = []) : IsLexeme context (digits ++ rest) (.plain .integer digits) := by
  have hwhole := whole_append h hstop
  have hpart := part_of_whole hwhole
  have hnumber : Lexeme.number (digits ++ rest) = .plain .integer digits := by
    rw [Lexeme.number, Numeral.read, hpart, hfraction, hwhole, if_pos rfl, List.append_nil]
  obtain ⟨c, tail, rfl, hc, -⟩ := h.exists_cons
  exact hnumber ▸ IsLexeme.number hc

theorem IsLexeme.float (h : IsDigits digits) (hmore : IsDigits more)
    (hstop : ∀ c, rest.head? = some c → c.isDigit = false) :
    IsLexeme context (digits ++ '.' :: more ++ rest) (.plain .float (digits ++ '.' :: more)) := by
  have hwhole : whole (digits ++ ('.' :: more ++ rest)) = digits := whole_append_point h
  have hpart := part_of_whole hwhole
  obtain ⟨d, tail, rfl, hd, htail⟩ := hmore.exists_cons
  have hrun : (tail ++ rest).takeWhile Char.isDigit = tail := takeWhile_append_eq_iff.mpr ⟨htail, hstop⟩
  have hfraction : fraction ('.' :: d :: tail ++ rest) = '.' :: d :: tail := by
    rw [List.cons_append, List.cons_append, fraction_point hd, hrun]
  have hnumber : Lexeme.number (digits ++ '.' :: d :: tail ++ rest) = .plain .float (digits ++ '.' :: d :: tail) := by
    rw [List.append_assoc, Lexeme.number, Numeral.read, hpart, hfraction, hwhole, if_neg (List.cons_ne_nil _ _)]
  obtain ⟨c, front, rfl, hc, -⟩ := h.exists_cons
  exact hnumber ▸ IsLexeme.number hc

theorem Symbol.longest?_append_digit (s : Symbol) {d : Char} (hd : d.isDigit = true) :
    longest? (s.spelling.toList ++ d :: rest) maxLength = some s := by
  refine longest?_eq_some_iff.mpr ⟨List.prefix_append _ _, s.spelling_length_le, fun t ht _ => ?_⟩
  by_contra hlonger
  have hnone : t.spelling.toList.any Char.isDigit = false := by cases t <;> decide
  have hseen := append_singleton_isPrefix ht (Nat.not_le.mp hlonger)
  exact List.any_eq_false.mp hnone d (hseen.subset (by simp)) hd

theorem unclaimed_point : Unclaimed context '.' rest := by
  refine ⟨by decide, by decide, by decide, by decide, ?_, fun h => absurd h (by decide)⟩
  exact Bool.eq_false_iff.mpr fun h => Word.ne_of_begins h (by decide) (by decide) rfl

theorem IsLexeme.points {s : Symbol} {tail : List Char} (hs : s.spelling.toList = '.' :: tail)
    (hdigit : ∃ d, rest.head? = some d ∧ d.isDigit = true) :
    IsLexeme context (s.spelling.toList ++ rest) (.plain (.symbol s) s.spelling.toList) := by
  obtain ⟨d, hhead, hd⟩ := hdigit
  obtain ⟨rest, rfl⟩ := List.head?_eq_some_iff.mp hhead
  have hlongest : Symbol.longest? (s.spelling.toList ++ d :: rest) Symbol.maxLength = some s :=
    s.longest?_append_digit hd
  have hkind : context.kindOf s = .symbol s := by
    rcases Context.kindOf_cases context s with hk | ⟨-, ⟨rfl, -⟩ | ⟨rfl, -⟩⟩
    · exact hk
    · simp [Symbol.spelling] at hs
    · simp [Symbol.spelling] at hs
  rw [hs, List.cons_append] at hlongest
  have hread := IsLexeme.symbol (c := context) unclaimed_point hlongest
  rwa [hkind, ← List.cons_append, ← hs] at hread

end Pieces

/-- The lexemes stand one upon the other without trivia, and each is read in whatever context. -/
inductive Lexeme.Adjoin : List Lexeme → Prop
  | nil : Adjoin []
  | cons {x : Lexeme} {xs : List Lexeme} (hread : ∀ c, IsLexeme c (x.text ++ xs.flatMap text) x) (hne : x.text ≠ [])
      (hmarks : ∀ d ∈ x.text, d ∉ triviaMarks) (h : Adjoin xs) : Adjoin (x :: xs)

theorem Lexer.tokens_of_adjoin {l : Lexer} {xs : List Lexeme} (h : Lexeme.Adjoin xs) (hl : l.finished = false)
    (hrest : l.cursor.rest = xs.flatMap Lexeme.text) : l.emissions.map Emission.token =
      xs.map (fun x => ⟨x.kind, String.ofList x.literal, l.cursor.line⟩) ++ [⟨.eof, "", l.cursor.line⟩] := by
  induction h generalizing l with
  | nil =>
    have hpull := pull_of_rest_nil hrest
    rw [emissions_of_isEof hl (by rw [hpull]; rfl), hpull]
    rfl
  | @cons x xs hread hne hmarks _ ih =>
    obtain ⟨first, tail, htext⟩ := List.exists_cons_of_ne_nil hne
    have hfirst : ¬ startsTrivia l.options first := fun hstarts => hmarks first (by simp [htext]) hstarts.mem
    have hrest' : l.cursor.rest = [] ++ first :: (tail ++ xs.flatMap Lexeme.text) := by
      rw [hrest, List.flatMap_cons, htext]
      rfl
    obtain ⟨-, hgap, hlexeme⟩ := pull_of_first hrest' .nil hfirst
    rw [← List.cons_append, ← htext, (hread l.context).read_eq] at hlexeme
    have hcovered : l.pull.1.covered = x.text := by rw [Emission.covered, hgap, hlexeme, List.nil_append]
    have he : l.pull.1.isEof = false := by
      rw [Bool.eq_false_iff, Ne, pull_isEof_iff, hlexeme]
      exact hne
    have hsplit : l.cursor.rest = l.pull.1.covered ++ xs.flatMap Lexeme.text := by
      rw [hcovered, hrest, List.flatMap_cons]
    have hnext := pull_next hsplit
    have hcount : x.text.count '\n' = 0 :=
      List.count_eq_zero.mpr fun hmem => hmarks '\n' hmem (by decide)
    have hline : l.pull.2.cursor.line = l.cursor.line := by rw [pull_line, hcovered, hcount, Nat.add_zero]
    have htail := ih (l := l.pull.2) hl (by rw [hnext])
    rw [emissions_cons hl he, List.map_cons, htail, hline, Emission.token, hlexeme, line_of_pull, hgap]
    rfl

section Chains

variable {xs : List Lexeme} {groups : List (List Char)}

theorem Lexeme.Adjoin.numeral {kind : Kind} {text : List Char} (h : Adjoin xs) (htext : IsNumeral text)
    (hread : ∀ c, IsLexeme c (text ++ xs.flatMap Lexeme.text) (plain kind text)) : Adjoin (plain kind text :: xs) :=
  .cons hread htext.ne_nil (fun _ hd => not_mem_triviaMarks (htext.mem hd)) h

theorem Lexeme.Adjoin.points {s : Symbol} (h : Adjoin xs) (hs : s.spelling.toList.all (· = '.') = true)
    (hdigit : ∃ d, (xs.flatMap Lexeme.text).head? = some d ∧ d.isDigit = true) :
    Adjoin (plain (.symbol s) s.spelling.toList :: xs) := by
  have hpoints : ∀ c ∈ s.spelling.toList, c = '.' := by simpa using hs
  obtain ⟨c, tail, htail⟩ := List.exists_cons_of_ne_nil s.spelling_ne_nil
  obtain rfl : c = '.' := hpoints c (by simp [htail])
  exact .cons (fun _ => .points htail hdigit) s.spelling_ne_nil
    (fun d hd => not_mem_triviaMarks (.inr (hpoints d hd))) h

theorem Numeral.flatMap_chain (groups : List (List Char)) :
    (chain groups).flatMap Lexeme.text = ['.'].intercalate groups := by
  fun_induction chain groups with
  | case1 => rfl
  | case2 => simp [Lexeme.plain]
  | case3 => simp [Lexeme.plain, List.intercalate_cons_cons]
  | case4 digits more groups hgroups ih =>
    obtain ⟨next, groups, rfl⟩ := List.exists_cons_of_ne_nil hgroups
    simp [Lexeme.plain, List.intercalate_cons_cons, ih]

theorem Numeral.head?_chain {digits : List Char} (h : IsDigits digits) :
    ∃ d, ((chain (digits :: groups)).flatMap Lexeme.text).head? = some d ∧ d.isDigit = true := by
  obtain ⟨d, tail, rfl, hd, -⟩ := h.exists_cons
  refine ⟨d, ?_, hd⟩
  rw [flatMap_chain]
  cases groups <;> simp [List.intercalate_cons_cons]

theorem Numeral.adjoin_chain (h : ∀ digits ∈ groups, IsDigits digits) : Lexeme.Adjoin (chain groups) := by
  have hpoint : ∀ c, some '.' = some c → c.isDigit = false := by
    rintro _ ⟨⟩
    decide
  fun_induction chain groups with
  | case1 => exact .nil
  | case2 digits =>
    have hdigits := h digits (by simp)
    exact Lexeme.Adjoin.nil.numeral (.whole hdigits) fun _ => .integer hdigits (by simp) rfl
  | case3 digits more =>
    have hdigits := h digits (by simp)
    have hmore := h more (by simp)
    exact Lexeme.Adjoin.nil.numeral (.fraction hdigits hmore) fun _ => .float hdigits hmore (by simp)
  | case4 digits more groups hgroups ih =>
    have hdigits := h digits (by simp)
    have hmore := h more (by simp)
    have htail := ih fun digits hmem => h digits (by simp [hmem])
    obtain ⟨next, groups, rfl⟩ := List.exists_cons_of_ne_nil hgroups
    have hdot := htail.points (s := .dot) (by decide) (head?_chain (h next (by simp)))
    exact hdot.numeral (.fraction hdigits hmore) fun _ => .float hdigits hmore hpoint

theorem tokenize_of_adjoin {xs : List Lexeme} (h : Lexeme.Adjoin xs) {text : List Char}
    (htext : xs.flatMap Lexeme.text = text) (o : Options) : tokenize (String.ofList text) o =
      xs.map (fun x => ⟨x.kind, String.ofList x.literal, 1⟩) ++ [⟨.eof, "", 1⟩] := by
  have hrest : (Lexer.ofText text o Lexer.defaultFile).cursor.rest = xs.flatMap Lexeme.text := htext.symm
  rw [tokenize, String.toList_ofList]
  exact Lexer.tokens_of_adjoin h rfl hrest

theorem tokenize_range {a b : List Char} (ha : IsDigits a) (hb : IsDigits b) {s : Symbol}
    (hs : s.spelling.toList.all (· = '.') = true) (hlength : 1 < s.spelling.toList.length) (o : Options) :
    tokenize (String.ofList (a ++ s.spelling.toList ++ b)) o =
      [⟨.integer, String.ofList a, 1⟩, ⟨.symbol s, s.spelling, 1⟩, ⟨.integer, String.ofList b, 1⟩,
        ⟨.eof, "", 1⟩] := by
  obtain ⟨tail, htail⟩ : ∃ tail, s.spelling.toList = '.' :: '.' :: tail := by
    rcases hspelling : s.spelling.toList with _ | ⟨c, _ | ⟨d, tail⟩⟩ <;> simp_all
  have hlast : Lexeme.Adjoin (chain [b]) := Numeral.adjoin_chain (by simpa using hb)
  have hpoints := hlast.points hs (Numeral.head?_chain hb)
  have hall := hpoints.numeral (.whole ha) fun _ => .integer ha (by simp [Lexeme.plain, htail]) (by
    simp [Lexeme.plain, htail, fraction])
  rw [tokenize_of_adjoin hall (by simp [Lexeme.plain, Numeral.chain])]
  simp [Lexeme.plain, Numeral.chain]

end Chains

/-- From a digit on, the longest numeral is read, a float if it has a point. So in digits with single points between
them the points make fractions of two groups at a time and select members between those, and two or three points make
a range. -/
theorem numerals_read :
    (∀ (l : Lexer) (gap : List Char) (first : Char) (rest : List Char), l.cursor.rest = gap ++ first :: rest →
        IsTrivia l.options (some first) gap → first.isDigit = true →
        let e := l.pull.1
        IsLongestPrefix IsNumeral (first :: rest) e.lexeme.text ∧
          (e.lexeme.kind = .float ↔ '.' ∈ e.lexeme.text) ∧ (e.lexeme.kind = .integer ↔ '.' ∉ e.lexeme.text) ∧
          e.token = ⟨e.lexeme.kind, String.ofList e.lexeme.text, l.cursor.line + gap.count '\n'⟩ ∧
          e.lexeme.text ++ l.pull.2.cursor.rest = first :: rest) ∧
      (∀ (groups : List (List Char)) (o : Options), (∀ digits ∈ groups, IsDigits digits) →
        tokenize (String.ofList (['.'].intercalate groups)) o =
          (chain groups).map (fun x => ⟨x.kind, String.ofList x.literal, 1⟩) ++ [⟨.eof, "", 1⟩]) ∧
      ∀ (a b : List Char) (o : Options), IsDigits a → IsDigits b →
        tokenize (String.ofList (a ++ ['.', '.'] ++ b)) o =
            [⟨.integer, String.ofList a, 1⟩, ⟨.symbol .range, "..", 1⟩, ⟨.integer, String.ofList b, 1⟩,
              ⟨.eof, "", 1⟩] ∧
          tokenize (String.ofList (a ++ ['.', '.', '.'] ++ b)) o =
            [⟨.integer, String.ofList a, 1⟩, ⟨.symbol .rangeExclusive, "...", 1⟩, ⟨.integer, String.ofList b, 1⟩,
              ⟨.eof, "", 1⟩] := by
  refine ⟨fun l gap first rest hrest hgap hdigit => ?_, fun groups o h => ?_, fun a b o ha hb => ⟨?_, ?_⟩⟩
  · intro e
    have hfirst : ¬ startsTrivia l.options first := fun hstarts => not_mem_triviaMarks (.inl hdigit) hstarts.mem
    obtain ⟨hstart, hpullgap, hread⟩ := Lexer.pull_of_first hrest hgap hfirst
    have hlexeme : e.lexeme = .number (first :: rest) := hread.trans (IsLexeme.number hdigit).read_eq
    have hline : e.line = l.cursor.line + gap.count '\n' := by rw [Lexer.line_of_pull, hpullgap]
    refine ⟨?_, ?_, ?_, ?_, l.text_append_rest.trans hstart⟩
    · rw [hlexeme]
      exact isLongestPrefix_read hdigit
    · rw [hlexeme]
      exact Lexeme.number_kind_eq_float_iff
    · rw [hlexeme]
      exact Lexeme.number_kind_eq_integer_iff
    · rw [Emission.token, hline, hlexeme]
      rfl
  · exact tokenize_of_adjoin (Numeral.adjoin_chain h) (Numeral.flatMap_chain groups) o
  · exact tokenize_range (s := .range) ha hb (by decide) (by decide) o
  · exact tokenize_range (s := .rangeExclusive) ha hb (by decide) (by decide) o

/-- The second point of the chain belongs to no fraction, and two points in a row to none either. -/
theorem numerals_read_points :
    let l := Lexer.ofText [' ', '1', '.', '2', '.', '3'] {} Lexer.defaultFile
    l.cursor.rest = [' '] ++ '1' :: ['.', '2', '.', '3'] ∧ IsTrivia l.options (some '1') [' '] ∧
      ('1').isDigit = true ∧ l.pull.1.token = ⟨.float, "1.2", 1⟩ ∧
      (∀ digits ∈ [['1'], ['2'], ['3']], IsDigits digits) ∧
      tokenize "1.2.3" {} = [⟨.float, "1.2", 1⟩, ⟨.symbol .dot, ".", 1⟩, ⟨.integer, "3", 1⟩, ⟨.eof, "", 1⟩] ∧
      tokenize "1..3" {} = [⟨.integer, "1", 1⟩, ⟨.symbol .range, "..", 1⟩, ⟨.integer, "3", 1⟩, ⟨.eof, "", 1⟩] ∧
      tokenize "1...3" {} =
        [⟨.integer, "1", 1⟩, ⟨.symbol .rangeExclusive, "...", 1⟩, ⟨.integer, "3", 1⟩, ⟨.eof, "", 1⟩] := by
  intro l
  have hgap : IsTrivia l.options (some '1') [' '] := .blank (.inl rfl) .nil
  have hone : IsDigits ['1'] := ⟨by simp, by simp⟩
  have hthree : IsDigits ['3'] := ⟨by simp, by simp⟩
  have hdigits : ∀ digits ∈ [['1'], ['2'], ['3']], IsDigits digits := by
    simp [hone, hthree, show IsDigits ['2'] from ⟨by simp, by simp⟩]
  obtain ⟨hread, hchain, hrange⟩ := numerals_read
  obtain ⟨-, -, -, htoken, -⟩ := hread l [' '] '1' ['.', '2', '.', '3'] rfl hgap rfl
  have hmembers := hchain [['1'], ['2'], ['3']] {} hdigits
  obtain ⟨htwo, hthree⟩ := hrange ['1'] ['3'] {} hone hthree
  have htext : String.ofList (['.'].intercalate [['1'], ['2'], ['3']]) = "1.2.3" := rfl
  rw [htext] at hmembers
  exact ⟨rfl, hgap, rfl, htoken.trans rfl, hdigits, hmembers, htwo, hthree⟩

end ScriptLexer
