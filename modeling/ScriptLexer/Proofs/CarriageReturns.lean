import ScriptLexer.Proofs.LexemeBoundary
import ScriptLexer.Proofs.Tiling

/-! Carriage returns at the line ends of a text without any. Between tokens they are blanks, and inside comments
and strings they are text like any other, even behind a backslash. So the same tokens are read on the same lines,
and nothing but the literals of comments and strings has the carriage returns in it. -/

namespace ScriptLexer

def withReturns (text : List Char) : List Char :=
  text.flatMap fun c => if c = '\n' then ['\r', '\n'] else [c]

def withoutReturns (text : List Char) : List Char :=
  text.filter (· ≠ '\r')

@[simp] theorem withoutReturns_nil : withoutReturns [] = [] := rfl

@[simp] theorem withoutReturns_append (text more : List Char) :
    withoutReturns (text ++ more) = withoutReturns text ++ withoutReturns more :=
  List.filter_append ..

@[simp] theorem withoutReturns_return (text : List Char) :
    withoutReturns ('\r' :: text) = withoutReturns text := rfl

theorem withoutReturns_cons {c : Char} (hc : c ≠ '\r') (text : List Char) :
    withoutReturns (c :: text) = c :: withoutReturns text :=
  List.filter_cons_of_pos (by simpa using hc)

theorem withoutReturns_eq_self {text : List Char} (h : '\r' ∉ text) : withoutReturns text = text := by
  refine List.filter_eq_self.mpr fun c hc => decide_eq_true ?_
  rintro rfl
  exact h hc

theorem count_withoutReturns (text : List Char) : (withoutReturns text).count '\n' = text.count '\n' :=
  List.count_filter (by decide)

/-- The first text has no carriage returns, and the second one has them before some of its line breaks. -/
inductive LineEnds : List Char → List Char → Prop
  | nil : LineEnds [] []
  | char {c : Char} {text text' : List Char} (hc : c ≠ '\r') (h : LineEnds text text') :
      LineEnds (c :: text) (c :: text')
  | carriageReturn {text text' : List Char} (h : LineEnds text text') :
      LineEnds ('\n' :: text) ('\r' :: '\n' :: text')

theorem lineEnds_withReturns {text : List Char} (h : '\r' ∉ text) : LineEnds text (withReturns text) := by
  induction text with
  | nil => exact .nil
  | cons c text ih =>
    obtain ⟨hc, htext⟩ := List.ne_and_not_mem_of_not_mem_cons h
    by_cases hbreak : c = '\n'
    · subst hbreak
      exact .carriageReturn (ih htext)
    · have hcons : withReturns (c :: text) = c :: withReturns text := by simp [withReturns, hbreak]
      rw [hcons]
      exact .char hc.symm (ih htext)

namespace LineEnds

variable {c : Char} {rest text after after' input input' : List Char}

theorem withoutReturns_eq (h : LineEnds input input') : withoutReturns input' = input := by
  induction h with
  | nil => rfl
  | char hc _ ih => rw [withoutReturns_cons hc, ih]
  | carriageReturn _ ih => rw [withoutReturns_return, withoutReturns_cons (by decide), ih]

theorem not_mem_return (h : LineEnds input input') : '\r' ∉ input := by
  rw [← h.withoutReturns_eq]
  simp [withoutReturns]

theorem eq_nil (h : LineEnds [] input') : input' = [] := by
  cases h
  rfl

theorem cons (h : LineEnds (c :: rest) input') (hhead : input'.head? ≠ some '\r') :
    ∃ rest', input' = c :: rest' ∧ LineEnds rest rest' := by
  cases h with
  | char _ h => exact ⟨_, rfl, h⟩
  | carriageReturn _ => exact absurd rfl hhead

theorem cons_of_ne (h : LineEnds (c :: rest) input') (hbreak : c ≠ '\n') :
    ∃ rest', input' = c :: rest' ∧ LineEnds rest rest' := by
  cases h with
  | char _ h => exact ⟨_, rfl, h⟩
  | carriageReturn _ => exact absurd rfl hbreak

theorem append (h : LineEnds (text ++ after) input') (hbreak : '\n' ∉ text) :
    ∃ after', input' = text ++ after' ∧ LineEnds after after' := by
  induction text generalizing input' with
  | nil => exact ⟨input', rfl, h⟩
  | cons c text ih =>
    obtain ⟨hc, htext⟩ := List.ne_and_not_mem_of_not_mem_cons hbreak
    obtain ⟨rest', rfl, hrest⟩ := h.cons_of_ne hc.symm
    obtain ⟨after', rfl, hafter⟩ := ih hrest htext
    exact ⟨after', rfl, hafter⟩

theorem stopsLike (h : LineEnds after after') : StopsLike after after' := by
  refine .of_rel (fun {c _ _} hc h => ?_) (fun h => ?_) h
  · cases h with
    | char _ h => exact ⟨_, rfl, h⟩
    | carriageReturn _ => exact absurd (by decide) hc
  · obtain ⟨more, rfl, -⟩ := h.cons_of_ne (by decide)
    rfl

end LineEnds

section Trivia

variable {o : Options} {c : Char} {input input' : List Char}

theorem trivia_cons_cases (o : Options) (inComment : Bool) (c : Char) :
    (∃ next, ∀ rest, trivia o inComment (c :: rest) = c :: trivia o next rest) ∨
      ∀ rest, trivia o inComment (c :: rest) = [] := by
  simp only [trivia]
  split
  · exact .inl ⟨true, fun _ => rfl⟩
  · split
    · exact .inl ⟨false, fun _ => rfl⟩
    · split
      · exact .inl ⟨true, fun _ => rfl⟩
      · exact .inr fun _ => rfl

theorem trivia_return (o : Options) (inComment : Bool) (rest : List Char) :
    trivia o inComment ('\r' :: '\n' :: rest) = '\r' :: trivia o false ('\n' :: rest) := by
  cases inComment with
  | false => exact trivia_blank (.inr (.inr rfl))
  | true => rw [trivia_inComment (by decide), trivia_true_of_endsComment (.inr rfl)]

/-- What the texts hold before a lexeme differs in carriage returns, and so does what is left of them. -/
structure SkipsAlike (o : Options) (inComment : Bool) (input input' : List Char) : Prop where
  trivia_eq : withoutReturns (trivia o inComment input') = trivia o inComment input
  rest : LineEnds (input.drop (trivia o inComment input).length) (input'.drop (trivia o inComment input').length)

theorem SkipsAlike.cons (hc : c ≠ '\r') (h : LineEnds input input')
    (ih : ∀ inComment, SkipsAlike o inComment input input') (inComment : Bool) :
    SkipsAlike o inComment (c :: input) (c :: input') := by
  rcases trivia_cons_cases o inComment c with ⟨next, hnext⟩ | hnil
  · refine ⟨?_, ?_⟩
    · rw [hnext, hnext, withoutReturns_cons hc, (ih next).trivia_eq]
    · rw [hnext, hnext]
      exact (ih next).rest
  · refine ⟨?_, ?_⟩
    · rw [hnil, hnil, withoutReturns_nil]
    · rw [hnil, hnil]
      exact .char hc h

theorem LineEnds.skipsAlike (h : LineEnds input input') (inComment : Bool) :
    SkipsAlike o inComment input input' := by
  induction h generalizing inComment with
  | nil => exact ⟨rfl, .nil⟩
  | char hc h ih => exact .cons hc h ih inComment
  | @carriageReturn text text' h ih =>
    have hbreak : SkipsAlike o false ('\n' :: text) ('\n' :: text') := .cons (by decide) h ih false
    have hskip : trivia o inComment ('\n' :: text) = trivia o false ('\n' :: text) := by
      cases inComment with
      | false => rfl
      | true => exact trivia_true_of_endsComment (.inr rfl)
    refine ⟨?_, ?_⟩
    · rw [trivia_return, hskip, withoutReturns_return, hbreak.trivia_eq]
    · rw [trivia_return, hskip]
      exact hbreak.rest

end Trivia

section Quoted

variable {q : Quote} {c : Char} {input input' : List Char}

theorem withoutReturns_unescapePair (hc : c ≠ '\r') : withoutReturns (unescapePair q c) = unescapePair q c := by
  unfold unescapePair
  split
  · rfl
  · split
    · rfl
    · split
      · exact withoutReturns_cons hc []
      · rw [withoutReturns_cons (by decide), withoutReturns_cons hc, withoutReturns_nil]

theorem withoutReturns_escapedReturn (text : List Char) :
    withoutReturns (unescapePair q '\r' ++ '\n' :: text) = unescapePair q '\n' ++ withoutReturns text := by
  cases q <;> rfl

theorem LineEnds.unescape_eq (h : LineEnds input input') :
    withoutReturns (unescape q input') = unescape q input := by
  fun_induction unescape q input generalizing input' with
  | case1 =>
    cases h
    rfl
  | case2 =>
    cases h with
    | char _ h =>
      cases h
      rfl
  | case3 escaped rest ih =>
    cases h with
    | char _ h =>
      cases h with
      | char hc h => rw [unescape_escape, withoutReturns_append, withoutReturns_unescapePair hc, ih h]
      | carriageReturn h => rw [unescape_escape, unescape_cons (by decide), withoutReturns_escapedReturn, ih h]
  | case4 c rest hslash ih =>
    cases h with
    | char hc h => rw [unescape_cons hslash, withoutReturns_cons hc, ih h]
    | carriageReturn h =>
      rw [unescape_cons (by decide), unescape_cons hslash, withoutReturns_return, withoutReturns_cons (by decide),
        ih h]

theorem LineEnds.quotedBody (h : LineEnds input input') :
    LineEnds (quotedBody q input) (quotedBody q input') ∧
      LineEnds (input.drop (quotedBody q input).length) (input'.drop (quotedBody q input').length) := by
  have hreturn : ¬ '\r' = q.mark := by cases q <;> decide
  have hbreak : ¬ '\n' = q.mark := by cases q <;> decide
  fun_induction ScriptLexer.quotedBody q input generalizing input' with
  | case1 =>
    cases h
    exact ⟨.nil, .nil⟩
  | case2 rest =>
    obtain ⟨rest', rfl, -⟩ := h.cons_of_ne (Ne.symm hbreak)
    rw [quotedBody_mark]
    exact ⟨.nil, h⟩
  | case3 hmark =>
    cases h with
    | char _ h =>
      cases h
      have hbody : ScriptLexer.quotedBody q ['\\'] = ['\\'] := by simp [ScriptLexer.quotedBody, hmark]
      rw [hbody]
      exact ⟨.char (by decide) .nil, .nil⟩
  | case4 escaped rest hmark ih =>
    cases h with
    | char _ h =>
      cases h with
      | char hc h =>
        rw [quotedBody_escape hmark]
        exact ⟨.char (by decide) (.char hc (ih h).1), (ih h).2⟩
      | carriageReturn h =>
        -- The backslash takes the carriage return with it, and the line break is text of its own.
        rw [quotedBody_escape hmark, quotedBody_cons hbreak (by decide)]
        exact ⟨.char (by decide) (.carriageReturn (ih h).1), (ih h).2⟩
  | case5 c rest hmark hslash ih =>
    cases h with
    | char hc h =>
      rw [quotedBody_cons hmark hslash]
      exact ⟨.char hc (ih h).1, (ih h).2⟩
    | carriageReturn h =>
      rw [quotedBody_cons hreturn (by decide), quotedBody_cons hbreak (by decide)]
      exact ⟨.carriageReturn (ih h).1, (ih h).2⟩

end Quoted

/-- The lexemes at the front of two texts differ in carriage returns at line ends, and so does what follows. -/
structure ReadsAlike (input input' : List Char) (x x' : Lexeme) : Prop where
  kind_eq : x'.kind = x.kind
  text_eq : withoutReturns x'.text = x.text
  literal_eq : withoutReturns x'.literal = x.literal
  eq_of_plain : x.kind ≠ .comment → x.isQuoted = false → x' = x
  rest : LineEnds (input.drop x.text.length) (input'.drop x'.text.length)

section Reading

variable {c : Context} {input input' rest rest' : List Char} {x : Lexeme}

theorem LineEnds.line (h : LineEnds input input') :
    withoutReturns (input'.takeWhile (· ≠ '\n')) = input.takeWhile (· ≠ '\n') ∧
      LineEnds (input.drop (input.takeWhile (· ≠ '\n')).length)
        (input'.drop (input'.takeWhile (· ≠ '\n')).length) := by
  induction h with
  | nil => exact ⟨rfl, .nil⟩
  | @char c _ _ hc h ih =>
    by_cases hbreak : c = '\n'
    · subst hbreak
      exact ⟨rfl, .char hc h⟩
    · simpa [hbreak, withoutReturns_cons hc] using ih
  | carriageReturn h _ => exact ⟨rfl, .char (by decide) h⟩

theorem LineEnds.comment (h : LineEnds input input') :
    ReadsAlike input input' (.comment input) (.comment input') :=
  ⟨rfl, h.line.1, h.line.1, fun hkind => absurd rfl hkind, h.line.2⟩

theorem Lexeme.drop_quoted {q : Quote} {after : List Char}
    (h : rest.drop (quotedBody q rest).length = q.mark :: after) :
    (q.mark :: rest).drop (quoted q rest).text.length = after := by
  have hlength : (q.mark :: quotedBody q rest ++ [q.mark]).length = (quotedBody q rest).length + 1 + 1 := by simp
  rw [quoted_of_drop_cons h, hlength, List.drop_succ_cons, ← List.drop_drop, h, List.drop_one, List.tail_cons]

theorem LineEnds.quoted {q : Quote} (h : LineEnds rest rest') :
    ReadsAlike (q.mark :: rest) (q.mark :: rest') (.quoted q rest) (.quoted q rest') := by
  obtain ⟨hbody, hdrop⟩ := h.quotedBody (q := q)
  have hliteral := hbody.unescape_eq (q := q)
  have hmark : q.mark ≠ '\r' := by cases q <;> decide
  have hbreak : q.mark ≠ '\n' := by cases q <;> decide
  have hsplit := List.prefix_iff_eq_append.mp (quotedBody_isPrefix q rest)
  rcases quotedBody_stops hsplit.symm with hnil | ⟨after, hcons⟩
  · have hnil' : rest'.drop (ScriptLexer.quotedBody q rest').length = [] := by
      rw [hnil] at hdrop
      exact hdrop.eq_nil
    rw [Lexeme.quoted_of_drop_nil hnil, Lexeme.quoted_of_drop_nil hnil']
    refine ⟨rfl, ?_, hliteral, fun _ hplain => absurd hplain (by simp [Lexeme.isQuoted]), hdrop⟩
    rw [withoutReturns_cons hmark, hbody.withoutReturns_eq]
  · rw [hcons] at hdrop
    obtain ⟨after', hcons', hafter⟩ := hdrop.cons_of_ne hbreak
    have hrest := Lexeme.drop_quoted hcons
    have hrest' := Lexeme.drop_quoted hcons'
    rw [Lexeme.quoted_of_drop_cons hcons] at hrest ⊢
    rw [Lexeme.quoted_of_drop_cons hcons'] at hrest' ⊢
    refine ⟨rfl, ?_, hliteral, fun _ hplain => absurd hplain (by simp [Lexeme.isQuoted]), ?_⟩
    · rw [List.cons_append, withoutReturns_cons hmark, withoutReturns_append, hbody.withoutReturns_eq,
        withoutReturns_cons hmark]
      rfl
    · rw [hrest, hrest']
      exact hafter

/-- Other lexemes hold no line break, and what stops them is no carriage return. -/
theorem LineEnds.plain (h : LineEnds input input') (hx : IsLexeme c input x) (hinput : input ≠ [])
    (hbreak : x.kind ≠ .newline) (hcomment : x.kind ≠ .comment) (hquoted : x.isQuoted = false) :
    ReadsAlike input input' x (Lexeme.read c input') := by
  have hsplit : x.text ++ input.drop x.text.length = input := by
    rw [← hx.read_eq]
    exact List.prefix_iff_eq_append.mp (Lexeme.read_text_isPrefix c input)
  have hclosed : x.unterminated = false := (Bool.or_eq_false_iff.mp hquoted).2
  have htext : withoutReturns x.text = x.text := by
    refine withoutReturns_eq_self fun hreturn => h.not_mem_return ?_
    rw [← hsplit]
    exact List.mem_append_left _ hreturn
  obtain ⟨after', rfl, hafter⟩ : ∃ after', input' = x.text ++ after' ∧
      LineEnds (input.drop x.text.length) after' :=
    LineEnds.append (hsplit.symm ▸ h) (hx.not_mem_lineBreak hbreak hquoted)
  have hread : Lexeme.read c (x.text ++ after') = x :=
    (hx.append hsplit hinput hclosed (fun hkind => absurd hkind hcomment) hafter.stopsLike).read_eq
  rw [hread]
  refine ⟨rfl, htext, ?_, fun _ _ => rfl, ?_⟩
  · rw [hx.literal_eq_text hquoted, htext]
  · rw [List.drop_left]
    exact hafter

theorem IsLexeme.quoted_eq (h : IsLexeme c input x) (hx : x.isQuoted = true) :
    ∃ q rest, input = q.mark :: rest ∧ x = .quoted q rest := by
  obtain hkind | hopen : x.kind = .string ∨ x.unterminated = true := by simpa [Lexeme.isQuoted] using hx
  · have horigin := h.origin
    simpa only [Lexeme.Origin, hkind] using horigin
  · obtain ⟨-, htext, q, rest, hrest, -⟩ := h.unterminated_eq hopen
    obtain rfl : input = q.mark :: rest := htext.symm.trans hrest
    exact ⟨q, rest, rfl, h.read_eq.symm.trans IsLexeme.quoted.read_eq⟩

theorem IsLexeme.readsAlike (hx : IsLexeme c input x) (h : LineEnds input input')
    (hhead : input'.head? ≠ some '\r') : ReadsAlike input input' x (Lexeme.read c input') := by
  cases input with
  | nil =>
    obtain rfl := h.eq_nil
    rw [← hx.read_eq]
    exact ⟨rfl, rfl, rfl, fun _ _ => rfl, .nil⟩
  | cons first rest =>
    obtain ⟨rest', rfl, hrest⟩ := h.cons hhead
    by_cases hquoted : x.isQuoted = true
    · obtain ⟨q, _, hinput, rfl⟩ := hx.quoted_eq hquoted
      obtain ⟨rfl, rfl⟩ := List.cons.inj hinput
      rw [IsLexeme.quoted.read_eq]
      exact hrest.quoted
    by_cases hcomment : x.kind = .comment
    · obtain rfl : first = '#' := Option.some.inj (hx.head?_of_comment hcomment)
      rw [← hx.read_eq, IsLexeme.comment.read_eq, IsLexeme.comment.read_eq]
      exact h.comment
    by_cases hbreak : x.kind = .newline
    · obtain rfl : first = '\n' := Option.some.inj (hx.head?_of_newline hbreak)
      rw [← hx.read_eq, IsLexeme.newline.read_eq, IsLexeme.newline.read_eq]
      exact ⟨rfl, rfl, rfl, fun _ _ => rfl, hrest⟩
    exact h.plain hx (List.cons_ne_nil _ _) hbreak hcomment (by simpa using hquoted)

end Reading

/-- The tokens are the same but for carriage returns in the literal of a comment or a string. -/
structure Emission.SameButReturns (e e' : Emission) : Prop where
  kind_eq : e'.token.kind = e.token.kind
  line_eq : e'.token.line = e.token.line
  literal_eq : withoutReturns e'.token.literal.toList = e.token.literal.toList
  eq_of_plain : e.token.kind ≠ .comment → e.lexeme.isQuoted = false → e'.token = e.token

theorem Emission.SameButReturns.isEof_eq {e e' : Emission} (h : e.SameButReturns e') : e'.isEof = e.isEof := by
  have hkind : e'.lexeme.kind = e.lexeme.kind := h.kind_eq
  rw [isEof, isEof, hkind]

namespace Lexer

/-- The second lexer is at the same place as the first one, in a text with carriage returns at line ends. -/
structure Returns (l m : Lexer) : Prop where
  rest : LineEnds l.cursor.rest m.cursor.rest
  line_eq : m.cursor.line = l.cursor.line
  context_eq : m.context = l.context
  options_eq : m.options = l.options
  unfinished : l.finished = false
  unfinished' : m.finished = false

variable {l m : Lexer}

theorem Returns.pull (h : Returns l m) : l.pull.1.SameButReturns m.pull.1 ∧ Returns l.pull.2 m.pull.2 := by
  have hskip : SkipsAlike l.options false l.cursor.rest m.cursor.rest := h.rest.skipsAlike false
  have hgap : withoutReturns m.pull.1.gap = l.pull.1.gap := by
    have hm : m.pull.1.gap = trivia l.options false m.cursor.rest := by rw [← h.options_eq]; rfl
    rw [hm]
    exact hskip.trivia_eq
  have hstart : LineEnds l.start.rest m.start.rest := by
    rw [start_rest, start_rest, h.options_eq]
    exact hskip.rest
  have hhead : m.start.rest.head? ≠ some '\r' := fun hreturn =>
    trivia_eq_nil_iff.mp (trivia_start m) '\r' hreturn (.inl (.inr (.inr rfl)))
  have hread : ReadsAlike l.start.rest m.start.rest l.pull.1.lexeme m.pull.1.lexeme := by
    have hm : m.pull.1.lexeme = Lexeme.read l.context m.start.rest := by rw [← h.context_eq]; rfl
    rw [hm]
    exact l.pull_isLexeme.readsAlike hstart hhead
  have hcovered : withoutReturns m.pull.1.covered = l.pull.1.covered := by
    rw [Emission.covered, withoutReturns_append, hgap, hread.text_eq]
    rfl
  have hline : m.pull.1.line = l.pull.1.line := by
    rw [line_of_pull, line_of_pull, h.line_eq, ← hgap, count_withoutReturns]
  refine ⟨⟨hread.kind_eq, hline, ?_, fun hcomment hquoted => ?_⟩, ?_, ?_, ?_, h.options_eq, h.unfinished,
    h.unfinished'⟩
  · rw [Emission.token, Emission.token, String.toList_ofList, String.toList_ofList, hread.literal_eq]
  · rw [Emission.token, Emission.token, hread.eq_of_plain hcomment hquoted, hline]
  · exact hread.rest
  · rw [pull_line, pull_line, h.line_eq, ← hcovered, count_withoutReturns]
  · rw [pull_context, pull_context, hread.kind_eq, h.context_eq]

theorem Returns.emissions (h : Returns l m) : List.Forall₂ Emission.SameButReturns l.emissions m.emissions :=
  forall₂_emissions (fun h => ⟨h.unfinished, h.unfinished'⟩) (fun h => h.isEof_eq)
    (fun h => h.pull.imp_right fun hnext _ => hnext) h

/-- With a carriage return before each line break, the same tokens are read on the same lines. -/
theorem emissions_withReturns (text : List Char) (o : Options) (file : String) (h : '\r' ∉ text) :
    List.Forall₂ Emission.SameButReturns (ofText text o file).emissions
      (ofText (withReturns text) o file).emissions :=
  Returns.emissions ⟨lineEnds_withReturns h, rfl, rfl, rfl, rfl, rfl⟩

/-- A carriage return belongs to the comment or the string that it is in, also behind a backslash. -/
theorem emissions_withReturns_comment :
    let text := ['#', 'a', '\n', '"', '\\', '\n', '"']
    '\r' ∉ text ∧
      List.Forall₂ Emission.SameButReturns (ofText text ⟨true, true⟩ defaultFile).emissions
        (ofText (withReturns text) ⟨true, true⟩ defaultFile).emissions ∧
      (ofText (withReturns text) ⟨true, true⟩ defaultFile).emissions.map Emission.token =
        [⟨.comment, "#a\r", 1⟩, ⟨.newline, "\n", 1⟩, ⟨.string, "\\\r\n", 2⟩, ⟨.eof, "", 3⟩] := by
  intro text
  have htext : '\r' ∉ text := by decide
  exact ⟨htext, emissions_withReturns text ⟨true, true⟩ defaultFile htext, by decide⟩

end Lexer

end ScriptLexer
