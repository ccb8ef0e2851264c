/-! Quoted text. A backslash takes the next character with it, so that a quote after a backslash does not
close the text. A few escapes stand for one character; every other one stands for itself, backslash
included. -/

namespace ScriptLexer

inductive Quote where
  | single
  | double
  deriving DecidableEq, Repr

namespace Quote

def mark : Quote → Char
  | .single => '\x27'
  | .double => '"'

def ofMark? (c : Char) : Option Quote :=
  if c = '"' then some .double else if c = '\x27' then some .single else none

theorem ofMark?_eq_some_iff {c : Char} {q : Quote} : ofMark? c = some q ↔ c = q.mark := by
  cases q <;> grind [ofMark?, mark]

end Quote

/-- The text that follows an opening quote, up to the quote that closes it or else all of it. -/
def quotedBody (q : Quote) : List Char → List Char
  | [] => []
  | c :: rest =>
    if c = q.mark then []
    else if c = '\\' then
      match rest with
      | [] => [c]
      | escaped :: rest => c :: escaped :: quotedBody q rest
    else c :: quotedBody q rest

theorem quotedBody_isPrefix (q : Quote) (input : List Char) : quotedBody q input <+: input := by
  fun_induction quotedBody q input with
  | case1 => exact List.nil_prefix
  | case2 => exact List.nil_prefix
  | case3 => exact List.prefix_rfl
  | case4 _ _ _ ih => simpa [List.cons_prefix_cons] using ih
  | case5 _ _ _ _ ih => simpa [List.cons_prefix_cons] using ih

theorem quotedBody_stops {q : Quote} {input rest : List Char} (h : input = quotedBody q input ++ rest) :
    rest = [] ∨ ∃ after, rest = q.mark :: after := by
  fun_induction quotedBody q input with
  | case1 => simp_all
  | case2 after => exact .inr ⟨after, by simpa using h.symm⟩
  | case3 => simp_all
  | case4 _ _ _ ih => exact ih (by simpa using h)
  | case5 _ _ _ _ ih => exact ih (by simpa using h)

/-- What a backslash and the character after it stand for. -/
def unescapePair (q : Quote) (c : Char) : List Char :=
  if c = 'n' then ['\n']
  else if c = 't' then ['\t']
  else if c = '\\' || c = q.mark then [c]
  else ['\\', c]

def unescape (q : Quote) : List Char → List Char
  | [] => []
  | c :: rest =>
    if c = '\\' then
      match rest with
      | [] => [c]
      | escaped :: rest => unescapePair q escaped ++ unescape q rest
    else c :: unescape q rest

section Steps

variable {q : Quote} {c : Char} {rest : List Char}

theorem quotedBody_mark : quotedBody q (q.mark :: rest) = [] := by
  rw [quotedBody.eq_def]
  exact if_pos rfl

theorem quotedBody_escape (hmark : ¬ '\\' = q.mark) :
    quotedBody q ('\\' :: c :: rest) = '\\' :: c :: quotedBody q rest := by
  rw [quotedBody.eq_def]
  simp [hmark]

theorem quotedBody_cons (hmark : ¬ c = q.mark) (hslash : ¬ c = '\\') :
    quotedBody q (c :: rest) = c :: quotedBody q rest := by
  rw [quotedBody.eq_def]
  simp [hmark, hslash]

theorem unescape_escape : unescape q ('\\' :: c :: rest) = unescapePair q c ++ unescape q rest := by
  rw [unescape.eq_def]
  exact if_pos rfl

theorem unescape_cons (hslash : ¬ c = '\\') : unescape q (c :: rest) = c :: unescape q rest := by
  rw [unescape.eq_def]
  exact if_neg hslash

end Steps

end ScriptLexer
