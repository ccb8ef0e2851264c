import ScriptLexer.Context

/-! How far the contexts of two lexers can drift apart when only one of them reports line breaks. A line break
makes the one expect an operand where the other may expect something else. The difference lasts until the
next token, or the one after it when a keyword names a member; what tokens came before tells which. -/

namespace ScriptLexer

/-- The kinds of the tokens before a place, nearest first, without comments and illegal tokens. -/
def notable (past : List Kind) : List Kind :=
  past.filter (fun k => k ≠ .comment && k ≠ .illegal)

/-- Whether the name of a member comes next, when line breaks do not count either. -/
def selectsMemberBefore (past : List Kind) : Bool :=
  ((notable past).find? (· ≠ .newline)).any Kind.selectsMember

/-- Whether the nearest token is a line break, or a keyword that names a member across a line break. -/
def followsLineBreak (past : List Kind) : Bool :=
  match notable past with
  | .newline :: _ => true
  | .keyword _ :: .newline :: earlier => (earlier.find? (· ≠ .newline)).any Kind.selectsMember
  | _ => false

/-- The kinds of one sign, where an operand is expected and where not. -/
inductive SignSplit : Kind → Kind → Prop
  | plus : SignSplit .unaryPlus (.symbol .plus)
  | minus : SignSplit .unaryMinus (.symbol .minus)

/-- The context of the lexer that reports line breaks, and the context of the other one. -/
inductive Drift (past : List Kind) : Context → Context → Prop
  | same {c : Context} (hmember : c = .expectMember → selectsMemberBefore past = true) : Drift past c c
  | broken {d : Context} (hd : d.delimitsBlock = false) (hbreak : (notable past).head? = some .newline)
      (hmember : d = .expectMember → selectsMemberBefore past = true) : Drift past .expectOperand d
  | named (hpast : followsLineBreak past = true) : Drift past .expectOperand .expectOperator

section Past

variable {k : Kind} {past : List Kind}

theorem notable_cons (hcomment : k ≠ .comment) (hillegal : k ≠ .illegal) :
    notable (k :: past) = k :: notable past := by
  simp [notable, hcomment, hillegal]

theorem notable_cons_comment : notable (.comment :: past) = notable past := rfl

theorem notable_cons_illegal : notable (.illegal :: past) = notable past := rfl

theorem selectsMemberBefore_cons (hk : k.selectsMember = true) : selectsMemberBefore (k :: past) = true := by
  have hcomment : k ≠ .comment := by rintro rfl; simp [Kind.selectsMember] at hk
  have hillegal : k ≠ .illegal := by rintro rfl; simp [Kind.selectsMember] at hk
  have hnewline : k ≠ .newline := by rintro rfl; simp [Kind.selectsMember] at hk
  simp [selectsMemberBefore, notable_cons hcomment hillegal, hnewline, hk]

theorem followsLineBreak_of_head? (h : (notable past).head? = some .newline) :
    followsLineBreak past = true := by
  obtain ⟨earlier, hpast⟩ := List.head?_eq_some_iff.mp h
  simp [followsLineBreak, hpast]

theorem followsLineBreak_keyword {w : Keyword} (hbreak : (notable past).head? = some .newline)
    (hmember : selectsMemberBefore past = true) : followsLineBreak (.keyword w :: past) = true := by
  obtain ⟨earlier, hpast⟩ := List.head?_eq_some_iff.mp hbreak
  have hnotable : notable (.keyword w :: past) = .keyword w :: .newline :: earlier := by
    rw [notable_cons (by simp) (by simp), hpast]
  simpa [followsLineBreak, hnotable, selectsMemberBefore, hpast] using hmember

end Past

theorem Drift.followsLineBreak_of_ne {past : List Kind} {c d : Context} (h : Drift past c d) (hne : c ≠ d) :
    followsLineBreak past = true := by
  cases h with
  | same => exact absurd rfl hne
  | broken _ hbreak _ => exact followsLineBreak_of_head? hbreak
  | named hpast => exact hpast

theorem Drift.of_notable {past past' : List Kind} {c d : Context} (h : Drift past c d)
    (hnotable : notable past' = notable past) : Drift past' c d := by
  have hselects : selectsMemberBefore past' = selectsMemberBefore past := by
    rw [selectsMemberBefore, hnotable, selectsMemberBefore]
  cases h with
  | same hmember => exact .same (fun hc => hselects.trans (hmember hc))
  | broken hd hbreak hmember =>
    exact .broken hd (hnotable ▸ hbreak) (fun hc => hselects.trans (hmember hc))
  | named hpast =>
    refine .named ?_
    rwa [followsLineBreak, hnotable, ← followsLineBreak]

theorem Drift.newline {past : List Kind} {c d : Context} (h : Drift past c d) :
    Drift (.newline :: past) (c.after .newline) d := by
  cases h with
  | same hmember =>
    cases hc : c.delimitsBlock with
    | true =>
      have hafter : c.after .newline = c := by simp [Context.after, hc]
      rw [hafter]
      exact .same hmember
    | false =>
      have hafter : c.after .newline = .expectOperand := by simp [Context.after, hc]
      rw [hafter]
      exact .broken hc rfl hmember
  | broken hd _ hmember => exact .broken hd rfl hmember
  | named _ => exact .broken rfl rfl Context.noConfusion

/-- The kinds whose tokens leave the context alone, or move it as a line break does. -/
def Kind.isAside (k : Kind) : Bool :=
  k = .eof || k = .illegal || k = .comment || k = .newline

namespace Context

variable {c d : Context} {k : Kind}

theorem inBlockParams_of_delimitsBlock (hc : c.delimitsBlock = false) : c.inBlockParams = false := by
  simp only [delimitsBlock, Bool.or_eq_false_iff] at hc
  exact hc.2

theorem after_eq (hk : k.isAside = false) (hopen : k ≠ .blockParamOpen) (hclose : k ≠ .blockParamClose) :
    c.after k =
      if c.inBlockParams then
        if k.endsExpression then .blockParamsOperator else .blockParams
      else if c = .expectMember && k.isKeyword then .expectOperator
      else if k.selectsMember then .expectMember
      else if k.endsExpression then .expectOperator
      else if k.opensBlock then .expectBlockParams
      else .expectOperand := by
  unfold after
  split <;> simp_all [Kind.isAside]

theorem selectsMember_of_after (hk : k.isAside = false) (hafter : c.after k = .expectMember) :
    k.selectsMember = true := by
  by_cases hopen : k = .blockParamOpen
  · subst hopen
    exact absurd hafter Context.noConfusion
  by_cases hclose : k = .blockParamClose
  · subst hclose
    exact absurd hafter Context.noConfusion
  rw [after_eq hk hopen hclose] at hafter
  grind

theorem after_eq_after (hk : k.isAside = false) (hc : c.inBlockParams = false) (hd : d.inBlockParams = false)
    (hkeyword : k.isKeyword = true → c ≠ .expectMember ∧ d ≠ .expectMember) : c.after k = d.after k := by
  by_cases hopen : k = .blockParamOpen
  · rw [hopen]
    rfl
  by_cases hclose : k = .blockParamClose
  · rw [hclose]
    rfl
  rw [after_eq hk hopen hclose, after_eq hk hopen hclose]
  grind

theorem after_keyword (w : Keyword) :
    Context.expectOperand.after (.keyword w) = Context.expectMember.after (.keyword w) ∨
      Context.expectOperand.after (.keyword w) = .expectOperand ∧
        Context.expectMember.after (.keyword w) = .expectOperator := by
  cases w <;> decide

end Context

namespace Drift

variable {past : List Kind} {c d : Context} {k : Kind}

theorem of_after_eq (hk : k.isAside = false) (heq : c.after k = d.after k) :
    Drift (k :: past) (c.after k) (d.after k) := by
  rw [← heq]
  exact .same (fun hc => selectsMemberBefore_cons (Context.selectsMember_of_after hk hc))

theorem aside (h : Drift past c d) (hk : k = .comment ∨ k = .illegal) :
    Drift (k :: past) (c.after k) (d.after k) := by
  obtain rfl | rfl := hk
  · exact h.of_notable notable_cons_comment
  · exact h.of_notable notable_cons_illegal

theorem sign {k' : Kind} (h : Drift past c d) (hsign : SignSplit k k') (hne : c ≠ d) :
    Drift (k :: past) (c.after k) (d.after k') := by
  have hoperand : ∀ e : Context, e.delimitsBlock = false →
      (e.after .unaryPlus = .expectOperand ∧ e.after .unaryMinus = .expectOperand) ∧
      e.after (.symbol .plus) = .expectOperand ∧ e.after (.symbol .minus) = .expectOperand := by
    intro e he
    cases e <;> revert he <;> decide
  have hc : c.delimitsBlock = false ∧ d.delimitsBlock = false := by
    cases h with
    | same => exact absurd rfl hne
    | broken hd => exact ⟨rfl, hd⟩
    | named => exact ⟨rfl, rfl⟩
  obtain ⟨⟨hplus, hminus⟩, -⟩ := hoperand c hc.1
  obtain ⟨-, hplus', hminus'⟩ := hoperand d hc.2
  cases hsign with
  | plus =>
    rw [hplus, hplus']
    exact .same Context.noConfusion
  | minus =>
    rw [hminus, hminus']
    exact .same Context.noConfusion

theorem visible (h : Drift past c d) (hk : k.isAside = false) :
    Drift (k :: past) (c.after k) (d.after k) := by
  cases h with
  | same => exact of_after_eq hk rfl
  | named => exact of_after_eq hk (Context.after_eq_after hk rfl rfl (by simp))
  | broken hd hbreak hmember =>
    have hparams := Context.inBlockParams_of_delimitsBlock hd
    by_cases hkeyword : k.isKeyword = true → d ≠ .expectMember
    · exact of_after_eq hk (Context.after_eq_after hk rfl hparams (fun hw => ⟨by simp, hkeyword hw⟩))
    · obtain ⟨hw, rfl⟩ : k.isKeyword = true ∧ d = .expectMember := by simpa using hkeyword
      obtain ⟨w, rfl⟩ : ∃ w, k = .keyword w := by
        unfold Kind.isKeyword at hw
        split at hw
        · exact ⟨_, rfl⟩
        · exact absurd hw Bool.noConfusion
      obtain hafter | ⟨hoperand, hoperator⟩ := Context.after_keyword w
      · exact of_after_eq hk hafter
      · -- The word is a member's name for the one lexer and a keyword in its own right for the other.
        rw [hoperand, hoperator]
        exact .named (followsLineBreak_keyword hbreak (hmember rfl))

/-- Tokens that both lexers report keep the gap between their contexts, or close it. -/
theorem token {k' : Kind} (h : Drift past c d) (hkind : k' = k ∨ c ≠ d ∧ SignSplit k k') (heof : k ≠ .eof)
    (hnewline : k ≠ .newline) : Drift (k :: past) (c.after k) (d.after k') := by
  obtain rfl | ⟨hne, hsign⟩ := hkind
  · by_cases haside : k' = .comment ∨ k' = .illegal
    · exact h.aside haside
    · refine h.visible ?_
      simp only [not_or] at haside
      simp [Kind.isAside, heof, hnewline, haside.1, haside.2]
  · exact h.sign hsign hne

end Drift

end ScriptLexer
