import ScriptLexer.Proofs.LineNumbers

/-! Quoted text said without its reader. A quote closes the text when the backslashes directly before it pair off, the
first such quote closes it, and what stands before it is undone escape by escape. So a text is read back from every
spelling of it, whichever of its line breaks and tabs are escaped. -/

namespace ScriptLexer

theorem Quote.mark_ne_backslash (q : Quote) : q.mark ≠ '\\' := by
  cases q <;> decide

/-- How many backslashes stand in a row at the end of the text. -/
def slashesAtEnd (text : List Char) : Nat :=
  (text.reverse.takeWhile (· = '\\')).length

/-- Whether the quote at the place `k` behind an opening quote closes the quoted text. -/
structure ClosesAt (q : Quote) (input : List Char) (k : Nat) : Prop where
  mark : input[k]? = some q.mark
  paired : slashesAtEnd (input.take k) % 2 = 0

instance (q : Quote) (input : List Char) (k : Nat) : Decidable (ClosesAt q input k) :=
  decidable_of_iff (input[k]? = some q.mark ∧ slashesAtEnd (input.take k) % 2 = 0)
    ⟨fun h => ⟨h.1, h.2⟩, fun h => ⟨h.mark, h.paired⟩⟩

section Closing

variable {q : Quote} {c : Char} {front text input rest : List Char} {k : Nat}

theorem slashesAtEnd_cons (hslash : c ≠ '\\') : slashesAtEnd (c :: text) = slashesAtEnd text := by
  simp only [slashesAtEnd, List.reverse_cons, List.takeWhile_append]
  split
  · next hall => simp [hslash, hall]
  · rfl

theorem slashesAtEnd_escape : slashesAtEnd ('\\' :: c :: text) % 2 = slashesAtEnd text % 2 := by
  simp only [slashesAtEnd, List.reverse_cons, List.append_assoc, List.takeWhile_append]
  split
  · next hall =>
    -- The run goes on into the pair, which adds two backslashes to it or none.
    by_cases hc : c = '\\'
    · simp [hc, hall]
    · simp [hc, hall]
  · rfl

theorem not_closesAt_zero (hmark : c ≠ q.mark) : ¬ ClosesAt q (c :: rest) 0 := by
  intro h
  simpa [hmark] using h.mark

theorem not_closesAt_escaped : ¬ ClosesAt q ('\\' :: rest) 1 := by
  intro h
  have hpaired := h.paired
  simp [slashesAtEnd] at hpaired

theorem closesAt_append (hfront : ∀ text, slashesAtEnd (front ++ text) % 2 = slashesAtEnd text % 2) :
    ClosesAt q (front ++ rest) (k + front.length) ↔ ClosesAt q rest k := by
  have hplace : (front ++ rest)[k + front.length]? = rest[k]? := by
    rw [List.getElem?_append_right (Nat.le_add_left _ _), Nat.add_sub_cancel]
  have htake : (front ++ rest).take (k + front.length) = front ++ rest.take k := by
    rw [Nat.add_comm, List.take_length_add_append]
  constructor
  · rintro ⟨hmark, hpaired⟩
    rw [htake, hfront] at hpaired
    exact ⟨hplace.symm.trans hmark, hpaired⟩
  · rintro ⟨hmark, hpaired⟩
    refine ⟨hplace.trans hmark, ?_⟩
    rw [htake, hfront, hpaired]

theorem closesAt_succ (hslash : c ≠ '\\') : ClosesAt q (c :: rest) (k + 1) ↔ ClosesAt q rest k := by
  show ClosesAt q ([c] ++ rest) (k + [c].length) ↔ _
  exact closesAt_append fun text => congrArg (· % 2) (slashesAtEnd_cons hslash)

theorem closesAt_escape : ClosesAt q ('\\' :: c :: rest) (k + 2) ↔ ClosesAt q rest k := by
  show ClosesAt q (['\\', c] ++ rest) (k + ['\\', c].length) ↔ _
  exact closesAt_append fun text => slashesAtEnd_escape

theorem not_closesAt_of_lt (hk : k < (quotedBody q input).length) : ¬ ClosesAt q input k := by
  fun_induction quotedBody q input generalizing k with
  | case1 => simp at hk
  | case2 => simp at hk
  | case3 hmark =>
    obtain rfl : k = 0 := by simpa using hk
    exact not_closesAt_zero hmark
  | case4 escaped rest hmark ih =>
    -- The escaped character itself is the one place where a mark may stand and not close.
    cases k with
    | zero => exact not_closesAt_zero hmark
    | succ k =>
      cases k with
      | zero => exact not_closesAt_escaped
      | succ k => exact fun h => ih (by simpa using hk) (closesAt_escape.mp h)
  | case5 c rest hmark hslash ih =>
    cases k with
    | zero => exact not_closesAt_zero hmark
    | succ k => exact fun h => ih (by simpa using hk) ((closesAt_succ hslash).mp h)

theorem closesAt_quotedBody (q : Quote) (input : List Char) :
    input = quotedBody q input ∨ ClosesAt q input (quotedBody q input).length := by
  fun_induction quotedBody q input with
  | case1 => exact .inl rfl
  | case2 rest => exact .inr ⟨rfl, rfl⟩
  | case3 => exact .inl rfl
  | case4 escaped rest hmark ih =>
    rcases ih with hall | hcloses
    · exact .inl (by rw [← hall])
    · exact .inr (closesAt_escape.mpr hcloses)
  | case5 c rest hmark hslash ih =>
    rcases ih with hall | hcloses
    · exact .inl (by rw [← hall])
    · exact .inr ((closesAt_succ hslash).mpr hcloses)

theorem quotedBody_eq_self (h : ∀ k, ¬ ClosesAt q input k) : quotedBody q input = input := by
  rcases closesAt_quotedBody q input with hall | hcloses
  · exact hall.symm
  · exact absurd hcloses (h _)

theorem length_quotedBody (h : ClosesAt q input k) (hfirst : ∀ j < k, ¬ ClosesAt q input j) :
    (quotedBody q input).length = k := by
  have hge : ¬ k < (quotedBody q input).length := fun hlt => not_closesAt_of_lt hlt h
  have hle : ¬ (quotedBody q input).length < k := by
    intro hlt
    rcases closesAt_quotedBody q input with hall | hcloses
    · obtain ⟨hk, -⟩ := List.getElem?_eq_some_iff.mp h.mark
      rw [← hall] at hlt
      omega
    · exact hfirst _ hlt hcloses
  omega

theorem Lexeme.quoted_of_closesAt (h : ClosesAt q input k) (hfirst : ∀ j < k, ¬ ClosesAt q input j) :
    quoted q input = { kind := .string, text := q.mark :: input.take (k + 1),
                       literal := unescape q (input.take k) } := by
  have hlength := length_quotedBody h hfirst
  have hbody : quotedBody q input = input.take k := by
    rw [← hlength]
    exact List.prefix_iff_eq_take.mp (quotedBody_isPrefix q input)
  obtain ⟨hk, hmark⟩ := List.getElem?_eq_some_iff.mp h.mark
  have hdrop : input.drop (quotedBody q input).length = q.mark :: input.drop (k + 1) := by
    rw [hlength, List.drop_eq_getElem_cons hk, hmark]
  rw [quoted_of_drop_cons hdrop, hbody, List.take_add_one, h.mark]
  rfl

theorem Lexeme.quoted_of_not_closesAt (h : ∀ k, ¬ ClosesAt q input k) :
    quoted q input = { kind := .illegal, text := q.mark :: input,
                       literal := unescape q input, unterminated := true } := by
  have hbody := quotedBody_eq_self h
  have hdrop : input.drop (quotedBody q input).length = [] := by
    rw [hbody, List.drop_length]
  rw [quoted_of_drop_nil hdrop, hbody]

end Closing

/-- The text that a quoted body stands for, escape by escape from the left. -/
inductive Unescapes (q : Quote) : List Char → List Char → Prop
  | nil : Unescapes q [] []
  | char {c : Char} {body text : List Char} (hslash : c ≠ '\\') (h : Unescapes q body text) :
      Unescapes q (c :: body) (c :: text)
  | lineBreak {body text : List Char} (h : Unescapes q body text) :
      Unescapes q ('\\' :: 'n' :: body) ('\n' :: text)
  | tab {body text : List Char} (h : Unescapes q body text) :
      Unescapes q ('\\' :: 't' :: body) ('\t' :: text)
  | backslash {body text : List Char} (h : Unescapes q body text) :
      Unescapes q ('\\' :: '\\' :: body) ('\\' :: text)
  | mark {body text : List Char} (h : Unescapes q body text) :
      Unescapes q ('\\' :: q.mark :: body) (q.mark :: text)
  | unknown {c : Char} {body text : List Char} (hc : c ∉ ['n', 't', '\\', q.mark]) (h : Unescapes q body text) :
      Unescapes q ('\\' :: c :: body) ('\\' :: c :: text)
  | lone : Unescapes q ['\\'] ['\\']

section Escapes

variable {q : Quote} {body text : List Char}

theorem unescapePair_unknown {c : Char} (hc : c ∉ ['n', 't', '\\', q.mark]) : unescapePair q c = ['\\', c] := by
  simp only [List.mem_cons, List.not_mem_nil, or_false, not_or] at hc
  simp [unescapePair, hc]

theorem unescapePair_mark : unescapePair q q.mark = [q.mark] := by
  cases q <;> rfl

theorem Unescapes.unescape_eq (h : Unescapes q body text) : unescape q body = text := by
  induction h with
  | nil => rfl
  | char hslash _ ih => rw [unescape_cons hslash, ih]
  | lineBreak _ ih => simp [unescape_escape, unescapePair, ih]
  | tab _ ih => simp [unescape_escape, unescapePair, ih]
  | backslash _ ih => simp [unescape_escape, unescapePair, ih]
  | mark _ ih => simp [unescape_escape, unescapePair_mark, ih]
  | unknown hc _ ih => simp [unescape_escape, unescapePair_unknown hc, ih]
  | lone => rfl

theorem unescapes_unescape (q : Quote) (body : List Char) : Unescapes q body (unescape q body) := by
  fun_induction unescape q body with
  | case1 => exact .nil
  | case2 => exact .lone
  | case3 escaped rest ih =>
    by_cases hbreak : escaped = 'n'
    · subst hbreak
      exact .lineBreak ih
    by_cases htab : escaped = 't'
    · subst htab
      exact .tab ih
    by_cases hslash : escaped = '\\'
    · subst hslash
      exact .backslash ih
    by_cases hmark : escaped = q.mark
    · subst hmark
      rw [unescapePair_mark]
      exact .mark ih
    · have hc : escaped ∉ ['n', 't', '\\', q.mark] := by simp [hbreak, htab, hslash, hmark]
      rw [unescapePair_unknown hc]
      exact .unknown hc ih
  | case4 c rest hslash ih => exact .char hslash ih

theorem unescapes_iff : Unescapes q body text ↔ unescape q body = text :=
  ⟨Unescapes.unescape_eq, fun h => h ▸ unescapes_unescape q body⟩

end Escapes

/-- The ways to write a text between quotes. Backslashes and the quotes that would close it are escaped, and line
breaks and tabs may be, each on its own. -/
inductive Spells (q : Quote) : List Char → List Char → Prop
  | nil : Spells q [] []
  | plain {c : Char} {text spelling : List Char} (hslash : c ≠ '\\') (hmark : c ≠ q.mark)
      (h : Spells q text spelling) : Spells q (c :: text) (c :: spelling)
  | backslash {text spelling : List Char} (h : Spells q text spelling) :
      Spells q ('\\' :: text) ('\\' :: '\\' :: spelling)
  | mark {text spelling : List Char} (h : Spells q text spelling) :
      Spells q (q.mark :: text) ('\\' :: q.mark :: spelling)
  | lineBreak {text spelling : List Char} (h : Spells q text spelling) :
      Spells q ('\n' :: text) ('\\' :: 'n' :: spelling)
  | tab {text spelling : List Char} (h : Spells q text spelling) :
      Spells q ('\t' :: text) ('\\' :: 't' :: spelling)

section Spelling

variable {q : Quote} {text spelling : List Char}

theorem Spells.unescapes (h : Spells q text spelling) : Unescapes q spelling text := by
  induction h with
  | nil => exact .nil
  | plain hslash _ _ ih => exact .char hslash ih
  | backslash _ ih => exact .backslash ih
  | mark _ ih => exact .mark ih
  | lineBreak _ ih => exact .lineBreak ih
  | tab _ ih => exact .tab ih

theorem Spells.quotedBody_append (h : Spells q text spelling) (rest : List Char) :
    quotedBody q (spelling ++ q.mark :: rest) = spelling := by
  have hslash := q.mark_ne_backslash.symm
  induction h with
  | nil => exact quotedBody_mark
  | plain hc hmark _ ih => rw [List.cons_append, quotedBody_cons hmark hc, ih]
  | backslash _ ih | mark _ ih | lineBreak _ ih | tab _ ih =>
    rw [List.cons_append, List.cons_append, quotedBody_escape hslash, ih]

theorem Spells.quoted_append (h : Spells q text spelling) (rest : List Char) :
    Lexeme.quoted q (spelling ++ q.mark :: rest) =
      { kind := .string, text := q.mark :: spelling ++ [q.mark], literal := text } := by
  have hbody := h.quotedBody_append rest
  have hdrop : (spelling ++ q.mark :: rest).drop (quotedBody q (spelling ++ q.mark :: rest)).length =
      q.mark :: rest := by
    rw [hbody, List.drop_left]
  rw [Lexeme.quoted_of_drop_cons hdrop, hbody, h.unescapes.unescape_eq]

end Spelling

theorem Context.after_string (c : Context) :
    c.after .string = if c.inBlockParams then .blockParamsOperator else .expectOperator := by
  cases c <;> rfl

theorem not_startsTrivia_mark (o : Options) (q : Quote) : ¬ startsTrivia o q.mark := by
  intro h
  have hmem := h.mem
  revert hmem
  cases q <;> decide

namespace Lexer

theorem pull_of_quote {l : Lexer} {q : Quote} {gap rest : List Char} (hrest : l.cursor.rest = gap ++ q.mark :: rest)
    (hgap : IsTrivia l.options (some q.mark) gap) :
    l.start.rest = q.mark :: rest ∧ l.pull.1.gap = gap ∧ l.pull.1.lexeme = .quoted q rest := by
  have hread := pull_of_first hrest hgap (not_startsTrivia_mark l.options q)
  rwa [IsLexeme.quoted.read_eq] at hread

/-- A lexer whose next character besides trivia is a quote reads quoted text from it. The first quote that closes it
ends a string, and without one all the rest is an unterminated string, behind which the text ends. The context does not
matter. -/
theorem pull_quoted (text : List Char) (n : Nat) (context : Context) (o : Options) (file : String) (finished : Bool)
    (q : Quote) (gap rest : List Char) (hgap : IsTrivia o (some q.mark) gap)
    (htext : text.drop n = gap ++ q.mark :: rest) :
    let l : Lexer := ⟨(Cursor.ofText text).advanceN n, context, o, file, finished⟩
    let e := l.pull.1
    let m := l.pull.2
    let line := 1 + (text.take (n + gap.length)).count '\n'
    e.position = n + gap.length ∧
      (∀ k, ClosesAt q rest k → (∀ j < k, ¬ ClosesAt q rest j) →
        e.token = ⟨.string, String.ofList (unescape q (rest.take k)), line⟩ ∧
          e.lexeme.text = q.mark :: rest.take (k + 1) ∧ m.cursor.rest = rest.drop (k + 1)) ∧
      ((∀ k, ¬ ClosesAt q rest k) →
        e.token = ⟨.illegal, String.ofList (unescape q rest), line⟩ ∧
          e.lexeme.text = q.mark :: rest ∧ m.cursor.isAtEnd = true ∧ m.pull.1.isEof = true) ∧
      (∀ body literal, Unescapes q body literal ↔ unescape q body = literal) ∧
      ∀ context', ({ l with context := context' } : Lexer).pull.1.token = e.token ∧
        ({ l with context := context' } : Lexer).pull.2.cursor = m.cursor := by
  intro l e m line
  obtain ⟨hstart, hpullgap, hlexeme⟩ := pull_of_quote (l := l) htext hgap
  obtain ⟨hposition, hline⟩ : e.position = n + gap.length ∧ e.line = line := place_of_pull rfl htext hpullgap
  have hsplit : e.lexeme.text ++ m.cursor.rest = q.mark :: rest := (text_append_rest l).trans hstart
  refine ⟨hposition, fun k hk hfirst => ?_, fun hnone => ?_, fun _ _ => unescapes_iff, fun context' => ?_⟩
  · have hx : e.lexeme = _ := hlexeme.trans (Lexeme.quoted_of_closesAt hk hfirst)
    rw [hx, List.cons_append, List.cons.injEq] at hsplit
    refine ⟨by rw [Emission.token, hx, hline], by rw [hx], ?_⟩
    exact List.append_cancel_left (hsplit.2.trans (List.take_append_drop (k + 1) rest).symm)
  · have hx : e.lexeme = _ := hlexeme.trans (Lexeme.quoted_of_not_closesAt hnone)
    rw [hx] at hsplit
    have hend : m.cursor.rest = [] := List.append_right_eq_self.mp hsplit
    refine ⟨by rw [Emission.token, hx, hline], by rw [hx], by simp [Cursor.isAtEnd, hend], ?_⟩
    rw [pull_of_rest_nil hend]
    rfl
  · obtain ⟨-, -, hlexeme'⟩ := pull_of_quote (l := { l with context := context' }) htext hgap
    constructor
    · rw [Emission.token, Emission.token, hlexeme, hlexeme']
      rfl
    · rw [pull_cursor, pull_cursor, hlexeme, hlexeme']
      rfl

/-- The first of the three quotes behind the opening one is escaped, and the second one has an escaped backslash
before it. -/
theorem pull_quoted_backslashes :
    let rest := ['a', '\\', '\x27', 'b', '\\', '\\', '\x27', 'y', '\x27']
    let text := ['x', ' ', '#', '\n'] ++ '\x27' :: rest
    IsTrivia {} (some Quote.single.mark) [' ', '#', '\n'] ∧
      text.drop 1 = [' ', '#', '\n'] ++ Quote.single.mark :: rest ∧
      ClosesAt .single rest 6 ∧ (∀ j < 6, ¬ ClosesAt .single rest j) ∧
      (⟨(Cursor.ofText text).advanceN 1, .expectMember, {}, defaultFile, false⟩ : Lexer).pull.1.token =
        ⟨.string, "a'b\\", 2⟩ := by
  intro rest text
  have hgap : IsTrivia {} (some Quote.single.mark) [' ', '#', '\n'] :=
    .blank (.inl rfl) (.comment [] rfl (by simp) (.inr rfl) (.lineBreak rfl .nil))
  have htext : text.drop 1 = [' ', '#', '\n'] ++ Quote.single.mark :: rest := rfl
  have hcloses : ClosesAt .single rest 6 := by decide
  have hfirst : ∀ j < 6, ¬ ClosesAt .single rest j := by decide
  obtain ⟨-, hstring, -⟩ := pull_quoted text 1 .expectMember {} defaultFile false .single _ rest hgap htext
  exact ⟨hgap, htext, hcloses, hfirst, (hstring 6 hcloses hfirst).1⟩

/-- A string that spells a text is read back as that text wherever a lexer comes to it. Nothing more is read, the
lines count on by the line breaks that are written as they are, and the string ends an expression. -/
theorem pull_spelling (l : Lexer) (q : Quote) (text spelling rest : List Char) (h : Spells q text spelling)
    (hrest : l.cursor.rest = q.mark :: spelling ++ q.mark :: rest) :
    l.pull.1.token = ⟨.string, String.ofList text, l.cursor.line⟩ ∧
      l.pull.1.covered = q.mark :: spelling ++ [q.mark] ∧
      l.pull.2 =
        { l with
          cursor :=
            { l.cursor with
              rest
              position := l.cursor.position + (spelling.length + 2)
              line := l.cursor.line + spelling.count '\n' }
          context := if l.context.inBlockParams then .blockParamsOperator else .expectOperator } := by
  have hopen : l.cursor.rest = [] ++ q.mark :: (spelling ++ q.mark :: rest) := hrest
  obtain ⟨-, hgap, hlexeme⟩ := pull_of_quote hopen .nil
  rw [h.quoted_append] at hlexeme
  have hcovered : l.pull.1.covered = q.mark :: spelling ++ [q.mark] := by
    rw [Emission.covered, hgap, hlexeme, List.nil_append]
  have hline : l.pull.1.line = l.cursor.line := by
    rw [line_of_pull, hgap, List.count_nil, Nat.add_zero]
  have hnext : l.cursor.rest = l.pull.1.covered ++ rest := by simp [hrest, hcovered]
  have hlength : (q.mark :: spelling ++ [q.mark]).length = spelling.length + 2 := by simp
  have hcount : (q.mark :: spelling ++ [q.mark]).count '\n' = spelling.count '\n' := by
    cases q <;> simp [Quote.mark]
  refine ⟨by rw [Emission.token, hlexeme, hline], hcovered, ?_⟩
  rw [pull_next hnext, hcovered, hlength, hcount, hlexeme, Context.after_string]

/-- The text begins and ends with a backslash and has the quote in it, and another string follows at once. -/
theorem pull_spelling_backslashes :
    let text := ['\\', '"', 'n', '\n', '\t', '\\']
    let spelling := ['\\', '\\', '\\', '"', 'n', '\n', '\\', 't', '\\', '\\']
    let rest := ['"', 'x', '"']
    let l : Lexer :=
      { ofText ('"' :: spelling ++ '"' :: rest) {} defaultFile with context := .blockParams }
    Spells .double text spelling ∧ l.cursor.rest = Quote.double.mark :: spelling ++ Quote.double.mark :: rest ∧
      l.pull.1.token = ⟨.string, "\\\"n\n\t\\", 1⟩ ∧ l.pull.2.cursor.rest = rest ∧ l.pull.2.cursor.line = 2 ∧
      l.pull.2.context = .blockParamsOperator := by
  intro text spelling rest l
  have h : Spells .double text spelling :=
    .backslash (.mark (.plain (by decide) (by decide) (.plain (by decide) (by decide) (.tab (.backslash .nil)))))
  have hrest : l.cursor.rest = Quote.double.mark :: spelling ++ Quote.double.mark :: rest := rfl
  obtain ⟨htoken, -, hpulled⟩ := pull_spelling l .double text spelling rest h hrest
  exact ⟨h, hrest, htoken, by rw [hpulled], by rw [hpulled]; rfl, by rw [hpulled]; rfl⟩

end Lexer

end ScriptLexer
