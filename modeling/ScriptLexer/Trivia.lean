import ScriptLexer.Options

/-! Text between tokens that is not reported: blanks, and line breaks and comments unless the options
ask for them. A comment runs from `#` up to a line break, which is not part of it. -/

namespace ScriptLexer

/-- The trivia at the front of the input, where `inComment` says whether the input starts inside a
comment that is skipped. -/
def trivia (o : Options) (inComment : Bool) : List Char → List Char
  | [] => []
  | c :: rest =>
    if inComment && c ≠ '\n' then c :: trivia o true rest
    else if c = ' ' || c = '\t' || c = '\r' || (c = '\n' && !o.newlines) then c :: trivia o false rest
    else if c = '#' && !o.comments then c :: trivia o true rest
    else []

theorem trivia_isPrefix (o : Options) (inComment : Bool) (input : List Char) :
    trivia o inComment input <+: input := by
  induction input generalizing inComment with
  | nil => simp [trivia]
  | cons c rest ih =>
    rw [trivia]
    split
    · exact List.cons_prefix_cons.mpr ⟨rfl, ih true⟩
    · split
      · exact List.cons_prefix_cons.mpr ⟨rfl, ih false⟩
      · split
        · exact List.cons_prefix_cons.mpr ⟨rfl, ih true⟩
        · exact List.nil_prefix

end ScriptLexer
