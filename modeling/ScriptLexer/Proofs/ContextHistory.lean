import Mathlib.Data.List.Induction
import ScriptLexer.Proofs.ContextDrift
import ScriptLexer.Proofs.Tiling

/-! The context in closed form: what it remembers of the tokens before a place. Block parameters are open after
an opening bar until the closing one, and no other token changes that. Outside of them only the nearest token
matters, with one more before it where a line break or a keyword is nearest. -/

namespace ScriptLexer

/-- The kinds whose tokens leave every context alone. -/
def Kind.isSilent (k : Kind) : Bool :=
  k = .eof || k = .illegal || k = .comment

def Kind.isDelimiter (k : Kind) : Bool :=
  k = .blockParamOpen || k = .blockParamClose

/-- Whether the nearest delimiter in the past is an opening one. -/
def blockParamsOpen (past : List Kind) : Bool :=
  past.find? Kind.isDelimiter = some .blockParamOpen

/-- The past without the tokens that leave every context alone. -/
def remembered (past : List Kind) : List Kind :=
  past.filter (!·.isSilent)

/-- The nearest token of the past that is remembered and is no line break. -/
def nearest (past : List Kind) : Option Kind :=
  past.find? (!·.isAside)

/-- The context after tokens of the kinds in the past, of which the nearest stands first. -/
def Context.ofPast (past : List Kind) : Context :=
  if blockParamsOpen past then
    if (nearest past).any Kind.endsExpression then .blockParamsOperator else .blockParams
  else
    match remembered past with
    | [] => .initial
    | k :: earlier =>
      if k.opensBlock || (k = .newline && (nearest past).any Kind.opensBlock) then .expectBlockParams
      else if k.selectsMember then .expectMember
      else if k.endsExpression || (k.isKeyword && earlier.head?.any Kind.selectsMember) then .expectOperator
      else .expectOperand

namespace Kind

theorem isSilent_iff {k : Kind} : k.isSilent = true ↔ k = .eof ∨ k = .illegal ∨ k = .comment := by
  simp [isSilent, or_assoc]

theorem isAside_of_isSilent {k : Kind} (h : k.isSilent = true) : k.isAside = true := by
  rw [isAside, ← isSilent, h, Bool.true_or]

theorem isAside_of_ne {k : Kind} (h : k.isSilent = false) (hbreak : k ≠ .newline) : k.isAside = false := by
  rw [isAside, ← isSilent, h, decide_eq_false hbreak, Bool.or_self]

theorem opensBlock_exclusive {k : Kind} (h : k.opensBlock = true) :
    k.selectsMember = false ∧ k.endsExpression = false ∧ k.isKeyword = false := by
  unfold opensBlock at h
  split at h
  · decide
  · decide
  · exact absurd h Bool.noConfusion

theorem selectsMember_exclusive {k : Kind} (h : k.selectsMember = true) :
    k.endsExpression = false ∧ k.isKeyword = false := by
  unfold selectsMember at h
  split at h
  · decide
  · decide
  · exact absurd h Bool.noConfusion

end Kind

section Past

variable {k : Kind} {past : List Kind}

theorem blockParamsOpen_cons (hk : k.isDelimiter = false) :
    blockParamsOpen (k :: past) = blockParamsOpen past := by
  simp [blockParamsOpen, hk]

theorem nearest_cons (hk : k.isAside = false) : nearest (k :: past) = some k := by
  simp [nearest, hk]

theorem nearest_cons_aside (hk : k.isAside = true) : nearest (k :: past) = nearest past := by
  simp [nearest, hk]

theorem remembered_cons (hk : k.isSilent = false) : remembered (k :: past) = k :: remembered past := by
  simp [remembered, hk]

theorem remembered_cons_silent (hk : k.isSilent = true) : remembered (k :: past) = remembered past := by
  simp [remembered, hk]

theorem nearest_eq (past : List Kind) : nearest past = (remembered past).find? (· ≠ .newline) := by
  simp [nearest, remembered, List.find?_filter, Kind.isAside, Kind.isSilent, Bool.and_assoc]

/-- Whether the nearest remembered token is a line break or not, the place is one where a block may open just
when the nearest token besides line breaks opens it. -/
theorem opensBlock_remembered {earlier : List Kind} (hpast : remembered past = k :: earlier) :
    (k.opensBlock || (k = .newline && (nearest past).any Kind.opensBlock)) =
      (nearest past).any Kind.opensBlock := by
  by_cases hk : k = .newline
  · subst hk
    simp [Kind.opensBlock]
  · simp [nearest_eq, hpast, hk]

end Past

namespace Context

variable {k : Kind} {past earlier : List Kind}

theorem ofPast_of_open (hopen : blockParamsOpen past = true) : ofPast past =
    if (nearest past).any Kind.endsExpression then .blockParamsOperator else .blockParams := by
  rw [ofPast, if_pos hopen]

theorem ofPast_of_closed (hopen : blockParamsOpen past = false) (hpast : remembered past = k :: earlier) :
    ofPast past =
      if (nearest past).any Kind.opensBlock then .expectBlockParams
      else if k.selectsMember then .expectMember
      else if k.endsExpression || (k.isKeyword && earlier.head?.any Kind.selectsMember) then .expectOperator
      else .expectOperand := by
  have hblock := opensBlock_remembered hpast
  rw [ofPast, hopen, hpast, if_neg Bool.false_ne_true]
  exact congrArg (fun b : Bool => if b then _ else _) hblock

theorem ofPast_of_nil (hopen : blockParamsOpen past = false) (hpast : remembered past = []) :
    ofPast past = .initial := by
  rw [ofPast, hopen, hpast, if_neg Bool.false_ne_true]

theorem ofPast_inBlockParams (past : List Kind) : (ofPast past).inBlockParams = blockParamsOpen past := by
  cases hopen : blockParamsOpen past with
  | true =>
    rw [ofPast_of_open hopen]
    split <;> rfl
  | false =>
    cases hpast : remembered past with
    | nil =>
      rw [ofPast_of_nil hopen hpast]
      rfl
    | cons k earlier =>
      rw [ofPast_of_closed hopen hpast]
      split_ifs <;> rfl

theorem ofPast_eq_expectBlockParams_iff : ofPast past = .expectBlockParams ↔
    blockParamsOpen past = false ∧ (nearest past).any Kind.opensBlock = true := by
  cases hopen : blockParamsOpen past with
  | true =>
    rw [ofPast_of_open hopen]
    split <;> simp
  | false =>
    cases hpast : remembered past with
    | nil => simp [ofPast_of_nil hopen hpast, nearest_eq, hpast]
    | cons k earlier =>
      rw [ofPast_of_closed hopen hpast]
      split_ifs <;> simp_all

theorem ofPast_eq_expectMember_iff (hopen : blockParamsOpen past = false) :
    ofPast past = .expectMember ↔ (remembered past).head?.any Kind.selectsMember = true := by
  cases hpast : remembered past with
  | nil => simp [ofPast_of_nil hopen hpast]
  | cons k earlier =>
    have hblock : k.selectsMember = true → (nearest past).any Kind.opensBlock = false := by
      intro hselects
      have hnewline : k ≠ .newline := by
        rintro rfl
        exact absurd hselects Bool.noConfusion
      have hopens : k.opensBlock = false := by
        apply Bool.eq_false_iff.mpr
        intro hopens
        exact absurd (hselects.symm.trans (Kind.opensBlock_exclusive hopens).1) Bool.noConfusion
      simp [nearest_eq, hpast, hnewline, hopens]
    rw [ofPast_of_closed hopen hpast]
    cases hselects : k.selectsMember with
    | true => simp [hblock hselects, hselects]
    | false =>
      simp only [List.head?_cons, Option.any_some, hselects, Bool.false_eq_true, iff_false, if_false]
      split_ifs <;> simp

theorem ofPast_delimitsBlock (past : List Kind) :
    (ofPast past).delimitsBlock = (blockParamsOpen past || (nearest past).any Kind.opensBlock) := by
  have hexpect : decide (ofPast past = .expectBlockParams) =
      (!blockParamsOpen past && (nearest past).any Kind.opensBlock) := by
    rw [Bool.eq_iff_iff]
    simpa using ofPast_eq_expectBlockParams_iff
  rw [delimitsBlock, ofPast_inBlockParams, hexpect]
  cases blockParamsOpen past <;> simp

theorem after_silent (hk : k.isSilent = true) (c : Context) : c.after k = c := by
  rcases Kind.isSilent_iff.mp hk with rfl | rfl | rfl <;> rfl

theorem ofPast_silent (hk : k.isSilent = true) : ofPast (k :: past) = ofPast past := by
  have hdelimiter : k.isDelimiter = false := by
    rcases Kind.isSilent_iff.mp hk with rfl | rfl | rfl <;> rfl
  rw [ofPast, blockParamsOpen_cons hdelimiter, nearest_cons_aside (Kind.isAside_of_isSilent hk),
    remembered_cons_silent hk, ← ofPast]

theorem after_newline_ofPast (past : List Kind) :
    (ofPast past).after .newline = ofPast (.newline :: past) := by
  have hopen : blockParamsOpen (.newline :: past) = blockParamsOpen past := rfl
  have hnearest : nearest (.newline :: past) = nearest past := rfl
  have hafter : (ofPast past).after .newline =
      if (ofPast past).delimitsBlock then ofPast past else .expectOperand := rfl
  rw [hafter, ofPast_delimitsBlock]
  cases hparams : blockParamsOpen past with
  | true => rw [Bool.true_or, if_pos rfl, ofPast_of_open hparams, ofPast_of_open (hopen.trans hparams), hnearest]
  | false =>
    have hbreak : remembered (.newline :: past) = .newline :: remembered past := rfl
    rw [ofPast_of_closed (hopen.trans hparams) hbreak, hnearest, Bool.false_or]
    split
    · next hblock => exact ofPast_eq_expectBlockParams_iff.mpr ⟨hparams, hblock⟩
    · rfl

theorem after_ofPast (past : List Kind) (k : Kind) : (ofPast past).after k = ofPast (k :: past) := by
  cases hsilent : k.isSilent with
  | true => rw [after_silent hsilent, ofPast_silent hsilent]
  | false =>
    by_cases hnewline : k = .newline
    · subst hnewline
      exact after_newline_ofPast past
    have haside := Kind.isAside_of_ne hsilent hnewline
    have hnearest : nearest (k :: past) = some k := nearest_cons haside
    have hremembered : remembered (k :: past) = k :: remembered past := remembered_cons hsilent
    by_cases hopening : k = .blockParamOpen
    · subst hopening
      have hopen : blockParamsOpen (.blockParamOpen :: past) = true := rfl
      rw [ofPast_of_open hopen, hnearest]
      rfl
    by_cases hclosing : k = .blockParamClose
    · subst hclosing
      have hopen : blockParamsOpen (.blockParamClose :: past) = false := rfl
      rw [ofPast_of_closed hopen hremembered, hnearest]
      rfl
    have hdelimiter : k.isDelimiter = false := by simp [Kind.isDelimiter, hopening, hclosing]
    have hopen : blockParamsOpen (k :: past) = blockParamsOpen past := blockParamsOpen_cons hdelimiter
    rw [after_eq haside hopening hclosing, ofPast_inBlockParams]
    cases hparams : blockParamsOpen past with
    | true => rw [if_pos rfl, ofPast_of_open (hopen.trans hparams), hnearest, Option.any_some]
    | false =>
      have hmember : decide (ofPast past = .expectMember) = (remembered past).head?.any Kind.selectsMember := by
        rw [Bool.eq_iff_iff, decide_eq_true_iff]
        exact ofPast_eq_expectMember_iff hparams
      rw [ofPast_of_closed (hopen.trans hparams) hremembered, hnearest, Option.any_some, hmember,
        if_neg Bool.false_ne_true]
      have hblock := @Kind.opensBlock_exclusive k
      have hselects := @Kind.selectsMember_exclusive k
      grind

theorem foldl_after (kinds : List Kind) : kinds.foldl Context.after .initial = ofPast kinds.reverse := by
  induction kinds using List.reverseRecOn with
  | nil => rfl
  | append_singleton kinds k ih =>
    rw [List.foldl_append, ih, List.reverse_append]
    exact after_ofPast kinds.reverse k

end Context

/-- The kinds of signs, of which the first two belong to their operands. -/
def Kind.signs : List Kind :=
  [.unaryPlus, .unaryMinus, .symbol .plus, .symbol .minus]

theorem IsLexeme.sign_iff {c : Context} {input : List Char} {x : Lexeme} (h : IsLexeme c input x)
    (hsign : x.kind ∈ Kind.signs) : x.kind ∈ [Kind.unaryPlus, Kind.unaryMinus] ↔ c.expectsOperand = true := by
  obtain ⟨s, hs⟩ : ∃ s, x.kind = c.kindOf s := by
    have horigin := h.origin
    simp only [Kind.signs, List.mem_cons, List.not_mem_nil, or_false] at hsign
    rcases hsign with hk | hk | hk | hk <;>
      · simp only [Lexeme.Origin, hk] at horigin
        obtain ⟨s, _, rfl⟩ := horigin
        exact ⟨s, rfl⟩
  rw [hs] at hsign ⊢
  unfold Context.kindOf at hsign ⊢
  split
  · cases c.expectsOperand <;> decide
  · cases c.expectsOperand <;> decide
  · simp_all [Kind.signs]

namespace Lexer

/-- A token of a stream is what stands at its position of the text, read in the context that the tokens before
it settle. -/
theorem isLexeme_of_split {text : List Char} {o : Options} {file : String} {before after : List Emission}
    {e : Emission} (hsplit : (ofText text o file).emissions = before ++ e :: after) :
    IsLexeme (.ofPast (before.map (fun e => e.token.kind)).reverse) (text.drop e.position) e.lexeme := by
  obtain ⟨rfl, hcontext⟩ := pulled_of_split rfl hsplit
  obtain ⟨passed, hpassed⟩ :=
    pulled_hasPassed (l := ofText text o file) (Cursor.ofText_hasPassed text) before.length
  have hrest := (pull_hasPassed hpassed).1.rest_eq
  rw [start_source, pulled_source] at hrest
  have hlexeme := pull_isLexeme ((ofText text o file).pulled before.length)
  rw [hcontext, hrest] at hlexeme
  exact Context.foldl_after _ ▸ hlexeme

end Lexer

theorem tokenizeBytes_eq_ok {bytes : List UInt8} {file : Option String} {o : Options} {tokens : List Token}
    (h : tokenizeBytes bytes file o = .ok tokens) :
    ∃ text name, tokens = (Lexer.ofText text o name).emissions.map Emission.token := by
  unfold tokenizeBytes Lexer.ofBytes at h
  cases hsource : decodeSource bytes (file.getD Lexer.defaultFile) with
  | error e => simp [hsource, Except.map] at h
  | ok text =>
    simp only [hsource, Except.map, Except.ok.injEq] at h
    exact ⟨text, _, h.symm⟩

/-- The context is settled by the kinds of the tokens before, however many there are, and a sign belongs to its
operand just where the context that they settle expects one. -/
theorem context_settled_by_past (kinds : List Kind) (bytes : List UInt8) (file : Option String)
    (o : Options) : kinds.foldl Context.after .initial = .ofPast kinds.reverse ∧
      ((kinds.foldl Context.after .initial).inBlockParams = true ↔ blockParamsOpen kinds.reverse = true) ∧
      ∀ tokens, tokenizeBytes bytes file o = .ok tokens →
        ∀ before t after, tokens = before ++ t :: after → t.kind ∈ Kind.signs →
          (t.kind ∈ [Kind.unaryPlus, Kind.unaryMinus] ↔
            (Context.ofPast (before.map Token.kind).reverse).expectsOperand = true) := by
  refine ⟨Context.foldl_after kinds, ?_, ?_⟩
  · rw [Context.foldl_after, Context.ofPast_inBlockParams]
  · intro tokens htokens before t after hsplit hsign
    obtain ⟨text, name, rfl⟩ := tokenizeBytes_eq_ok htokens
    obtain ⟨pre, rest, hemissions, rfl, hrest⟩ := List.map_eq_append_iff.mp hsplit
    obtain ⟨e, post, rfl, rfl, rfl⟩ := List.map_eq_cons_iff.mp hrest
    rw [List.map_map]
    exact (Lexer.isLexeme_of_split hemissions).sign_iff hsign

end ScriptLexer
