import ScriptLexer.Token

/-! Rendered tokens are read back. No name of a kind has a bracket in it, so the first bracket ends the name. The
printed literal behind it is read one character at a time: a quote that ends it is never escaped, and the characters
that an escape takes are settled by what stands at its front. -/

namespace ScriptLexer

def hexValue (c : Char) : Nat :=
  if c.isDigit then c.toNat - '0'.toNat else c.toNat - 'a'.toNat + 10

/-- The number that has been read, after one more hexadecimal digit. -/
def hexStep (n : Nat) (c : Char) : Nat :=
  16 * n + hexValue c

/-- What a backslash and the character after it stand for, if they are a whole escape. -/
def escaped? (c : Char) : Option Char :=
  if c = '0' then some '\x00'
  else if c = 't' then some '\t'
  else if c = 'n' then some '\n'
  else if c = 'r' then some '\r'
  else if c = '"' || c = '\\' then some c
  else none

/-- Where in a printed text one character has been read and the next is to come. -/
inductive PrintedPlace where
  | outside
  | backslash
  | letter
  | number (n : Nat)
  deriving DecidableEq, Repr

/-- Reads a printed text from a place in it up to the quote that ends it. Gives the text that it stands for and what
follows the quote. -/
def readPrinted : PrintedPlace → List Char → Option (List Char × List Char)
  | _, [] => none
  | .outside, c :: rest =>
    if c = '"' then some ([], rest)
    else if c = '\\' then readPrinted .backslash rest
    else (readPrinted .outside rest).map (Prod.map (c :: ·) id)
  | .backslash, c :: rest =>
    if c = 'u' then readPrinted .letter rest
    else (escaped? c).bind fun d => (readPrinted .outside rest).map (Prod.map (d :: ·) id)
  | .letter, c :: rest => if c = '\x7b' then readPrinted (.number 0) rest else none
  | .number n, c :: rest =>
    if c = '\x7d' then (readPrinted .outside rest).map (Prod.map (Char.ofNat n :: ·) id)
    else readPrinted (.number (hexStep n c)) rest

theorem hexValue_digitChar {n : Nat} (h : n < 16) : hexValue n.digitChar = n := by
  have hall : ∀ n < 16, hexValue n.digitChar = n := by decide
  exact hall n h

theorem foldl_hexStep_toDigits (n : Nat) : (Nat.toDigits 16 n).foldl hexStep 0 = n := by
  induction n using Nat.strongRecOn with
  | ind n ih =>
    by_cases hn : n < 16
    · simp [Nat.toDigits_of_lt_base hn, hexStep, hexValue_digitChar hn]
    · rw [Nat.toDigits_of_base_le (by omega) (by omega), List.foldl_append, ih (n / 16) (by omega)]
      have hlast : hexValue (n % 16).digitChar = n % 16 := hexValue_digitChar (by omega)
      simp only [List.foldl_cons, List.foldl_nil, hexStep, hlast]
      omega

theorem brace_not_mem_toDigits (n : Nat) : '\x7d' ∉ Nat.toDigits 16 n := by
  have hdigit : ∀ m : Nat, '\x7d' ≠ m.digitChar := fun m => (Nat.digitChar_ne '\x7d' (by decide)).symm
  induction n using Nat.strongRecOn with
  | ind n ih =>
    by_cases hn : n < 16
    · simp [Nat.toDigits_of_lt_base hn, hdigit]
    · rw [Nat.toDigits_of_base_le (by omega) (by omega)]
      simp [ih (n / 16) (by omega), hdigit]

section Printed

variable (c : Char) (text rest : List Char)

theorem printedChar_cases : (∃ e, printedChar c = ['\\', e] ∧ e ≠ 'u' ∧ escaped? e = some c) ∨
    printedChar c = ['\\', 'u', '\x7b'] ++ hexDigits c ++ ['\x7d'] ∨
    printedChar c = [c] ∧ c ≠ '"' ∧ c ≠ '\\' := by
  by_cases hnul : c = '\x00'
  · exact .inl ⟨'0', by simp [printedChar, hnul], by decide, by simp [escaped?, hnul]⟩
  by_cases htab : c = '\t'
  · exact .inl ⟨'t', by simp [printedChar, htab], by decide, by simp [escaped?, htab]⟩
  by_cases hbreak : c = '\n'
  · exact .inl ⟨'n', by simp [printedChar, hbreak], by decide, by simp [escaped?, hbreak]⟩
  by_cases hreturn : c = '\r'
  · exact .inl ⟨'r', by simp [printedChar, hreturn], by decide, by simp [escaped?, hreturn]⟩
  by_cases hquote : c = '"'
  · exact .inl ⟨'"', by simp [printedChar, hquote], by decide, by simp [escaped?, hquote]⟩
  by_cases hslash : c = '\\'
  · exact .inl ⟨'\\', by simp [printedChar, hslash], by decide, by simp [escaped?, hslash]⟩
  refine .inr ?_
  by_cases hmark : Unicode.isExtendingMark c || Unicode.isUnprintable c
  · exact .inl (by simp [printedChar, hnul, htab, hbreak, hreturn, hquote, hslash, hmark])
  · exact .inr ⟨by simp [printedChar, hnul, htab, hbreak, hreturn, hquote, hslash, hmark], hquote, hslash⟩

theorem readPrinted_number {digits : List Char} (h : '\x7d' ∉ digits) (n : Nat) :
    readPrinted (.number n) (digits ++ '\x7d' :: rest) =
      (readPrinted .outside rest).map (Prod.map (Char.ofNat (digits.foldl hexStep n) :: ·) id) := by
  induction digits generalizing n with
  | nil => simp [readPrinted]
  | cons d digits ih =>
    have hd : d ≠ '\x7d' := fun hd => h (by simp [hd])
    rw [List.cons_append, readPrinted, if_neg hd]
    exact ih (fun hmem => h (List.mem_cons_of_mem d hmem)) (hexStep n d)

/-- The printed form of a character is read whole, whatever follows it. -/
theorem readPrinted_printedChar : readPrinted .outside (printedChar c ++ rest) =
    (readPrinted .outside rest).map (Prod.map (c :: ·) id) := by
  rcases printedChar_cases c with ⟨e, hc, hu, he⟩ | hc | ⟨hc, hquote, hslash⟩
  · simp [hc, readPrinted, hu, he]
  · have hnumber : (hexDigits c).foldl hexStep 0 = c.toNat := foldl_hexStep_toDigits c.toNat
    have hread := readPrinted_number rest (brace_not_mem_toDigits c.toNat) 0
    rw [← hexDigits, hnumber, Char.ofNat_toNat] at hread
    simpa [hc, readPrinted] using hread
  · simp [hc, readPrinted, hquote, hslash]

/-- The quote that ends a printed text is found, whatever the text has in it and whatever follows. -/
theorem readPrinted_flatMap :
    readPrinted .outside (text.flatMap printedChar ++ '"' :: rest) = some (text, rest) := by
  induction text with
  | nil => simp [readPrinted]
  | cons c text ih =>
    rw [List.flatMap_cons, List.append_assoc, readPrinted_printedChar, ih]
    rfl

end Printed

theorem Kind.bracket_not_mem_name (k : Kind) : '(' ∉ k.name.toList := by
  have hall : Kind.all.all (fun k => !k.name.toList.contains '(') = true := by decide +kernel
  have hk := List.all_eq_true.mp hall k (mem_all k)
  simpa using hk

namespace Token

/-- The text between the literal and the line of a rendered token. -/
def beforeLine : String := ") at line "

/-- The token that a rendered text stands for. -/
def ofRendered? (text : String) : Option Token :=
  let name := text.toList.takeWhile (· ≠ '(')
  (Kind.ofName? (String.ofList name)).bind fun kind =>
    (readPrinted .outside (text.toList.drop (name.length + 2))).map fun read =>
      let digits := read.2.drop beforeLine.toList.length
      ⟨kind, String.ofList read.1, Nat.ofDigitChars 10 digits 0⟩

theorem toList_render (t : Token) : t.render.toList = t.kind.name.toList ++ '(' :: '"' ::
    (t.literal.toList.flatMap printedChar ++ '"' :: (beforeLine.toList ++ Nat.toDigits 10 t.line)) := by
  simp [render, printedText, beforeLine]

theorem takeWhile_name (t : Token) : t.render.toList.takeWhile (· ≠ '(') = t.kind.name.toList := by
  have hname := t.kind.bracket_not_mem_name
  rw [toList_render, List.takeWhile_append_of_pos]
  · simp
  · intro c hc
    simpa using fun h : c = '(' => hname (h ▸ hc)

theorem ofRendered?_render (t : Token) : ofRendered? t.render = some t := by
  have hdrop : t.render.toList.drop (t.kind.name.toList.length + 2) =
      t.literal.toList.flatMap printedChar ++ '"' :: (beforeLine.toList ++ Nat.toDigits 10 t.line) := by
    rw [toList_render, ← List.drop_drop, List.drop_left]
    rfl
  simp only [ofRendered?, takeWhile_name, hdrop, readPrinted_flatMap, String.ofList_toList, Kind.ofName?_name,
    Option.bind_some, Option.map_some, List.drop_left, Nat.ofDigitChars_ten_toDigits]

/-- Kind, literal and line of every token are read back from its rendered text, so no two tokens render alike. -/
theorem render_eq_render_iff (a b : Token) :
    ofRendered? a.render = some a ∧ (a.render = b.render ↔ a = b) := by
  refine ⟨ofRendered?_render a, fun h => ?_, fun h => h ▸ rfl⟩
  apply Option.some.inj
  calc
    some a = ofRendered? a.render := (ofRendered?_render a).symm
    _ = ofRendered? b.render := congrArg ofRendered? h
    _ = some b := ofRendered?_render b

/-- A literal that looks like the end of a rendered token is none. -/
example : ofRendered? (render ⟨.string, "\") at line 3\\u\x7b", 7⟩) = some ⟨.string, "\") at line 3\\u\x7b", 7⟩ := by
  decide +kernel

end Token

end ScriptLexer
