import ScriptLexer.Trivia

/-! The grammar of trivia, with the character after it as a parameter, since a comment may stop at a line
break that does not belong to the trivia. Reading trivia takes the longest text of this grammar. -/

namespace ScriptLexer

/-- Whether trivia starts with the character, wherever it stands. -/
def startsTrivia (o : Options) (c : Char) : Prop :=
  (c = ' ' ∨ c = '\t' ∨ c = '\r') ∨ (c = '\n' ∧ o.newlines = false) ∨ (c = '#' ∧ o.comments = false)

/-- The characters that trivia can start with where nothing but the language's own tokens is reported. -/
def triviaMarks : List Char := [' ', '\t', '\r', '\n', '#']

theorem startsTrivia.mem {o : Options} {c : Char} (h : startsTrivia o c) : c ∈ triviaMarks := by
  rcases h with (rfl | rfl | rfl) | ⟨rfl, _⟩ | ⟨rfl, _⟩ <;> decide

/-- Whether a comment may stop before the character, or before the end of the input. -/
def endsComment (next : Option Char) : Prop :=
  next = none ∨ next = some '\n'

/-- Trivia under the options, where `next` is the character after it, if the input has one. -/
inductive IsTrivia (o : Options) (next : Option Char) : List Char → Prop
  | nil : IsTrivia o next []
  | blank {c : Char} {gap : List Char} (hc : c = ' ' ∨ c = '\t' ∨ c = '\r') (h : IsTrivia o next gap) :
      IsTrivia o next (c :: gap)
  | lineBreak {gap : List Char} (ho : o.newlines = false) (h : IsTrivia o next gap) :
      IsTrivia o next ('\n' :: gap)
  | comment (body : List Char) {gap : List Char} (ho : o.comments = false) (hbody : '\n' ∉ body)
      (hend : endsComment (gap.head?.or next)) (h : IsTrivia o next gap) :
      IsTrivia o next ('#' :: (body ++ gap))

section Reading

variable {o : Options} {c : Char} {rest : List Char}

theorem trivia_blank (hc : c = ' ' ∨ c = '\t' ∨ c = '\r') :
    trivia o false (c :: rest) = c :: trivia o false rest := by
  rcases hc with rfl | rfl | rfl <;> simp [trivia]

theorem trivia_lineBreak (ho : o.newlines = false) :
    trivia o false ('\n' :: rest) = '\n' :: trivia o false rest := by
  simp [trivia, ho]

theorem trivia_hash (ho : o.comments = false) :
    trivia o false ('#' :: rest) = '#' :: trivia o true rest := by
  simp [trivia, ho]

theorem trivia_inComment (hc : c ≠ '\n') : trivia o true (c :: rest) = c :: trivia o true rest := by
  simp [trivia, hc]

theorem trivia_cons_eq_nil (hc : ¬ startsTrivia o c) : trivia o false (c :: rest) = [] := by
  obtain ⟨hblank, hbreak, hhash⟩ : ¬ (c = ' ' ∨ c = '\t' ∨ c = '\r') ∧
      ¬ (c = '\n' ∧ o.newlines = false) ∧ ¬ (c = '#' ∧ o.comments = false) := by
    simpa only [startsTrivia, not_or] using hc
  have hfirst : ¬ (c = ' ' || c = '\t' || c = '\r' || (c = '\n' && !o.newlines)) = true := by
    simpa [or_assoc] using not_or.mpr ⟨hblank, hbreak⟩
  have hsecond : ¬ (c = '#' && !o.comments) = true := by simpa using hhash
  rw [trivia, Bool.false_and, if_neg Bool.false_ne_true, if_neg hfirst, if_neg hsecond]

theorem trivia_cons_ne_nil (hc : startsTrivia o c) : trivia o false (c :: rest) ≠ [] := by
  rcases hc with hc | ⟨rfl, ho⟩ | ⟨rfl, ho⟩
  · simp [trivia_blank hc]
  · simp [trivia_lineBreak ho]
  · simp [trivia_hash ho]

end Reading

theorem trivia_eq_nil_iff {o : Options} {input : List Char} :
    trivia o false input = [] ↔ ∀ c, input.head? = some c → ¬ startsTrivia o c := by
  cases input with
  | nil => simp [trivia]
  | cons c rest =>
    constructor
    · intro h first hfirst hc
      obtain rfl : c = first := by simpa using hfirst
      exact trivia_cons_ne_nil hc h
    · exact fun h => trivia_cons_eq_nil (h c rfl)

/-- Where no trivia starts under some options, none starts under others that agree on the next character. -/
theorem trivia_eq_nil_of_agree {o o' : Options} {input : List Char} (h : trivia o false input = [])
    (hbreak : input.head? = some '\n' → o'.newlines = o.newlines)
    (hhash : input.head? = some '#' → o'.comments = o.comments) : trivia o' false input = [] := by
  refine trivia_eq_nil_iff.mpr fun c hc hstarts => ?_
  have hblocked := trivia_eq_nil_iff.mp h c hc
  rcases hstarts with hblank | ⟨rfl, hn⟩ | ⟨rfl, ho⟩
  · exact hblocked (.inl hblank)
  · exact hblocked (.inr (.inl ⟨rfl, hbreak hc ▸ hn⟩))
  · exact hblocked (.inr (.inr ⟨rfl, hhash hc ▸ ho⟩))

theorem trivia_true_of_endsComment {o : Options} {input : List Char}
    (h : endsComment input.head?) : trivia o true input = trivia o false input := by
  cases input with
  | nil => rfl
  | cons c rest =>
    have hc : c = '\n' := by simpa [endsComment] using h
    simp [trivia, hc]

theorem trivia_true_append {o : Options} {body input : List Char} (hbody : '\n' ∉ body)
    (hend : endsComment input.head?) :
    trivia o true (body ++ input) = body ++ trivia o false input := by
  induction body with
  | nil => exact trivia_true_of_endsComment hend
  | cons c body ih =>
    have hc : c ≠ '\n' := fun h => hbody (by simp [h])
    have htail : '\n' ∉ body := fun h => hbody (List.mem_cons_of_mem _ h)
    rw [List.cons_append, trivia_inComment hc, ih htail, List.cons_append]

theorem IsTrivia.trivia_append {o : Options} {gap rest : List Char} (h : IsTrivia o rest.head? gap) :
    trivia o false (gap ++ rest) = gap ++ trivia o false rest := by
  induction h with
  | nil => rfl
  | blank hc _ ih => rw [List.cons_append, trivia_blank hc, ih, List.cons_append]
  | lineBreak ho _ ih => rw [List.cons_append, trivia_lineBreak ho, ih, List.cons_append]
  | @comment body gap ho hbody hend _ ih =>
    have hend' : endsComment (gap ++ rest).head? := by simpa only [List.head?_append] using hend
    rw [List.cons_append, List.append_assoc, trivia_hash ho, trivia_true_append hbody hend', ih,
      List.cons_append, List.append_assoc]

theorem trivia_drop_eq_nil (o : Options) (inComment : Bool) (input : List Char) :
    trivia o false (input.drop (trivia o inComment input).length) = [] := by
  fun_induction trivia o inComment input with
  | case1 => rfl
  | case2 _ _ _ _ ih => simpa using ih
  | case3 _ _ _ _ _ ih => simpa using ih
  | case4 _ _ _ _ _ _ ih => simpa using ih
  | case5 _ c rest _ hblank hhash =>
    simp only [List.length_nil, List.drop_zero, trivia, Bool.false_and, hblank, hhash, if_false,
      Bool.false_eq_true]

theorem trivia_append_drop (o : Options) (input : List Char) :
    trivia o false input ++ input.drop (trivia o false input).length = input :=
  List.prefix_iff_eq_append.mp (trivia_isPrefix o false input)

theorem IsTrivia.comment_cons {o : Options} {next : Option Char} {c : Char} {gap : List Char}
    (hc : c ≠ '\n') (h : IsTrivia o next ('#' :: gap)) : IsTrivia o next ('#' :: c :: gap) := by
  cases h with
  | blank hblank => simp at hblank
  | @comment body _ ho hbody hend h =>
    have hcbody : '\n' ∉ c :: body := by simp [hbody, hc.symm]
    exact .comment (c :: body) ho hcbody hend h

/-- What is read as trivia is trivia. Inside a comment it is, with the mark of the comment before it. -/
theorem trivia_isTrivia_or_comment (o : Options) (input : List Char) :
    IsTrivia o (input.drop (trivia o false input).length).head? (trivia o false input) ∧
      (o.comments = false →
        IsTrivia o (input.drop (trivia o true input).length).head? ('#' :: trivia o true input)) := by
  induction input with
  | nil => exact ⟨.nil, fun ho => .comment [] ho (by simp) (.inl rfl) .nil⟩
  | cons c rest ih =>
    have hplain : IsTrivia o ((c :: rest).drop (trivia o false (c :: rest)).length).head?
        (trivia o false (c :: rest)) := by
      by_cases hc : startsTrivia o c
      · rcases hc with hc | ⟨rfl, ho⟩ | ⟨rfl, ho⟩
        · rw [trivia_blank hc]
          exact .blank hc ih.1
        · rw [trivia_lineBreak ho]
          exact .lineBreak ho ih.1
        · rw [trivia_hash ho]
          exact ih.2 ho
      · rw [trivia_cons_eq_nil hc]
        exact .nil
    refine ⟨hplain, fun ho => ?_⟩
    by_cases hc : c = '\n'
    · subst hc
      have hend : endsComment ('\n' :: rest).head? := .inr rfl
      rw [trivia_true_of_endsComment hend]
      have hsplit := congrArg List.head? (trivia_append_drop o ('\n' :: rest))
      rw [List.head?_append] at hsplit
      exact .comment [] ho (by simp) (hsplit ▸ hend) hplain
    · rw [trivia_inComment hc]
      exact (ih.2 ho).comment_cons hc

theorem trivia_isTrivia (o : Options) (input : List Char) :
    IsTrivia o (input.drop (trivia o false input).length).head? (trivia o false input) :=
  (trivia_isTrivia_or_comment o input).1

theorem IsTrivia.append {o : Options} {next : Option Char} {gap more : List Char}
    (h : IsTrivia o (more.head?.or next) gap) (hmore : IsTrivia o next more) :
    IsTrivia o next (gap ++ more) := by
  induction h with
  | nil => exact hmore
  | blank hc _ ih => exact .blank hc ih
  | lineBreak ho _ ih => exact .lineBreak ho ih
  | comment body ho hbody hend _ ih =>
    rw [List.cons_append, List.append_assoc]
    refine .comment body ho hbody ?_ ih
    rwa [List.head?_append, Option.or_assoc]

theorem IsTrivia.of_next {o : Options} {next next' : Option Char} {gap : List Char} (h : IsTrivia o next gap)
    (hnext : endsComment next → endsComment next') : IsTrivia o next' gap := by
  induction h with
  | nil => exact .nil
  | blank hc _ ih => exact .blank hc ih
  | lineBreak ho _ ih => exact .lineBreak ho ih
  | @comment body gap ho hbody hend _ ih =>
    refine .comment body ho hbody ?_ ih
    cases gap with
    | nil => exact hnext hend
    | cons c gap => exact hend

/-- All that is skipped under the first options is skipped under the second. -/
structure Options.SkipsMore (o o' : Options) : Prop where
  comments : o.comments = false → o'.comments = false
  newlines : o.newlines = false → o'.newlines = false

theorem IsTrivia.mono {o o' : Options} {next : Option Char} {gap : List Char} (ho : o.SkipsMore o')
    (h : IsTrivia o next gap) : IsTrivia o' next gap := by
  induction h with
  | nil => exact .nil
  | blank hc _ ih => exact .blank hc ih
  | lineBreak hn _ ih => exact .lineBreak (ho.newlines hn) ih
  | comment body hc hbody hend _ ih => exact .comment body (ho.comments hc) hbody hend ih

end ScriptLexer
