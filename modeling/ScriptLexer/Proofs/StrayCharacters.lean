import ScriptLexer.Proofs.ContextHistory
import ScriptLexer.Proofs.Lookahead

/-! Stray characters are no more than blanks. Where a space stands in the place of each character that no token
can start with, all other tokens are read as before, since what stops them before such a character is that it does
not belong to them. -/

namespace ScriptLexer

/-- The lexeme is a character that is reported as it is, because no token starts with it. -/
def Lexeme.isStray (x : Lexeme) : Bool :=
  x.kind = .illegal && !x.unterminated

def Lexer.strays (l : Lexer) : List Nat :=
  (l.emissions.filter (fun e => e.lexeme.isStray)).map Emission.position

/-- The text that starts at a position, with a space at each of the given positions. -/
def blank (positions : List Nat) (start : Nat) (text : List Char) : List Char :=
  text.mapIdx fun i c => if start + i ∈ positions then ' ' else c

section Blank

variable {positions : List Nat} {start : Nat}

theorem blank_append (text text' : List Char) :
    blank positions start (text ++ text') =
      blank positions start text ++ blank positions (start + text.length) text' := by
  simp [blank, List.mapIdx_append, Nat.add_left_comm, Nat.add_comm]

theorem blank_eq_self {text : List Char} (h : ∀ p ∈ positions, start + text.length ≤ p) :
    blank positions start text = text := by
  apply List.ext_getElem
  · simp [blank]
  · intro i hi hi'
    have hmem : start + i ∉ positions := fun hmem => by
      have := h _ hmem
      omega
    simp [blank, hmem]

theorem blank_cons_position {p : Nat} (hp : p < start) (text : List Char) :
    blank (p :: positions) start text = blank positions start text := by
  apply List.ext_getElem
  · simp [blank]
  · intro i hi hi'
    have hne : start + i ≠ p := by omega
    simp [blank, hne]

end Blank

theorem Kind.illegal_ne_kindOf (c : Context) (s : Symbol) : c.kindOf s ≠ .illegal := by
  rcases c.kindOf_cases s with hs | ⟨_, ⟨_, hs⟩ | ⟨_, hs⟩⟩ <;> simp [hs]

theorem Unclaimed.ne_equals {c : Context} {first : Char} {rest : List Char} (h : Unclaimed c first rest)
    (hread : (Lexeme.read c (first :: rest)).kind = .illegal) : first ≠ '=' := by
  rintro rfl
  rw [h.read_eq, Lexeme.symbol] at hread
  cases hs : Symbol.longest? ('=' :: rest) Symbol.maxLength with
  | some s =>
    rw [hs] at hread
    exact Kind.illegal_ne_kindOf c s hread
  | none =>
    have hlength := Symbol.longest?_eq_none_iff.mp hs .assign ⟨rest, rfl⟩
    exact absurd hlength (by decide)

theorem IsLexeme.stray_eq {c : Context} {input : List Char} {x : Lexeme} (h : IsLexeme c input x)
    (hx : x.isStray = true) : ∃ first rest, input = first :: rest ∧ x = .plain .illegal [first] ∧
      first ≠ '\n' ∧ first ≠ '=' := by
  obtain ⟨hkind, hclosed⟩ : x.kind = .illegal ∧ x.unterminated = false := by simpa [Lexeme.isStray] using hx
  have horigin := h.origin
  simp only [Lexeme.Origin, hkind] at horigin
  rcases horigin with ⟨q, rest, rfl, rfl⟩ | ⟨first, rest, rfl, hother, rfl⟩
  · rcases Lexeme.quoted_cases q rest with hq | ⟨_, hq⟩
    · simp [hq] at hkind
    · simp [hq] at hclosed
  · exact ⟨first, rest, rfl, rfl, hother.not_lineBreak, hother.ne_equals (by rw [h.read_eq]; rfl)⟩

/-- A character of a text, and the one at its place where spaces stand for stray characters. -/
def Blanked (c c' : Char) : Prop :=
  c' = c ∨ c' = ' ' ∧ c ≠ '\n' ∧ c ≠ '='

theorem closesLike_of_blanked {after after' : List Char} (h : List.Forall₂ Blanked after after') :
    ClosesLike after after' := by
  refine ⟨.of_rel (fun {c _ _} hc h => ?_) (fun h => ?_) h, ?_, ?_⟩
  · cases h with
    | cons hd htail =>
      obtain rfl := hd.resolve_right fun hblank => hc (by simp [hblank.1, triviaMarks])
      exact ⟨_, rfl, htail⟩
  · cases h with
    | cons hd _ =>
      obtain rfl := hd.resolve_right fun hblank => hblank.2.2 rfl
      rfl
  · rintro rfl
    exact List.forall₂_nil_left_iff.mp h
  · rintro (hnone | hbreak)
    · rw [List.head?_eq_none_iff] at hnone
      subst hnone
      exact .inl (List.head?_eq_none_iff.mpr (List.forall₂_nil_left_iff.mp h))
    · obtain ⟨rest, rfl⟩ := List.head?_eq_some_iff.mp hbreak
      cases h with
      | cons hd _ =>
        obtain rfl := hd.resolve_right fun hblank => hblank.2.1 rfl
        exact .inr rfl

namespace Lexer

theorem strays_of_isEof {l : Lexer} (h : l.finished = false) (he : l.pull.1.isEof = true) : l.strays = [] := by
  have hkind : l.pull.1.lexeme.kind = .eof := by simpa [Emission.isEof] using he
  simp [strays, emissions_of_isEof h he, Lexeme.isStray, hkind]

theorem strays_cons {l : Lexer} (h : l.finished = false) (he : l.pull.1.isEof = false) :
    l.strays = if l.pull.1.lexeme.isStray then l.pull.1.position :: l.pull.2.strays else l.pull.2.strays := by
  rw [strays, emissions_cons h he, List.filter_cons]
  split <;> rfl

theorem position_le_of_mem_strays {l : Lexer} (h : l.finished = false) {p : Nat} (hp : p ∈ l.strays) :
    l.cursor.position ≤ p := by
  obtain ⟨e, he, rfl⟩ := List.mem_map.mp hp
  exact position_le_of_mem h (List.mem_of_mem_filter he)

theorem pull_stray {l : Lexer} (hx : l.pull.1.lexeme.isStray = true) : ∃ c, l.start.rest.head? = some c ∧
    l.pull.1.lexeme.kind = .illegal ∧ l.pull.1.covered = l.pull.1.gap ++ [c] ∧ c ≠ '\n' ∧ c ≠ '=' := by
  obtain ⟨c, rest, hstart, hlexeme, hbreak, hequals⟩ := l.pull_isLexeme.stray_eq hx
  refine ⟨c, by rw [hstart]; rfl, by rw [hlexeme]; rfl, ?_, hbreak, hequals⟩
  rw [Emission.covered, hlexeme]
  rfl

/-- The rest of the text, with a space in the place of each stray character. -/
def blankedRest (l : Lexer) : List Char :=
  blank l.strays l.cursor.position l.cursor.rest

theorem blankedRest_of_isEof {l : Lexer} (h : l.finished = false) (he : l.pull.1.isEof = true) :
    l.blankedRest = l.cursor.rest := by
  rw [blankedRest, strays_of_isEof h he]
  exact blank_eq_self fun _ hp => absurd hp List.not_mem_nil

theorem blankedRest_cons {l : Lexer} (h : l.finished = false) (he : l.pull.1.isEof = false) :
    l.blankedRest = (if l.pull.1.lexeme.isStray then l.pull.1.gap ++ [' '] else l.pull.1.covered) ++
      l.pull.2.blankedRest := by
  have hsplit : l.pull.1.covered ++ l.pull.2.cursor.rest = l.cursor.rest := pull_rest l
  have hlater : ∀ p ∈ l.pull.2.strays, l.cursor.position + l.pull.1.covered.length ≤ p := by
    intro p hp
    rw [← pull_position]
    exact position_le_of_mem_strays (l := l.pull.2) h hp
  rw [blankedRest, blankedRest, strays_cons h he, ← hsplit, blank_append, ← pull_position]
  cases hx : l.pull.1.lexeme.isStray with
  | false => rw [if_neg Bool.false_ne_true, if_neg Bool.false_ne_true, blank_eq_self hlater]
  | true =>
    obtain ⟨c, -, -, hcovered, -⟩ := pull_stray hx
    have hstray := position_of_pull l
    have hposition := pull_position l
    rw [hcovered, List.length_append, List.length_singleton] at hlater hposition
    have hgap : blank (l.pull.1.position :: l.pull.2.strays) l.cursor.position l.pull.1.gap = l.pull.1.gap := by
      refine blank_eq_self (List.forall_mem_cons.mpr ⟨hstray.ge, fun p hp => ?_⟩)
      have := hlater p hp
      omega
    have hspace : blank (l.pull.1.position :: l.pull.2.strays) (l.cursor.position + l.pull.1.gap.length) [c] =
        [' '] := by
      simp [blank, hstray]
    rw [if_pos rfl, if_pos rfl, hcovered, blank_append, hgap, hspace, blank_cons_position (by omega)]

theorem forall₂_blanked {l : Lexer} (h : l.finished = false) :
    List.Forall₂ Blanked l.cursor.rest l.blankedRest := by
  have hsame : ∀ text : List Char, List.Forall₂ Blanked text text :=
    fun text => List.forall₂_same.mpr fun _ _ => .inl rfl
  induction l using pull_induction with
  | stop l he =>
    rw [blankedRest_of_isEof h he]
    exact hsame _
  | step l he ih =>
    have hsplit : l.pull.1.covered ++ l.pull.2.cursor.rest = l.cursor.rest := pull_rest l
    rw [blankedRest_cons h he, ← hsplit]
    refine List.rel_append ?_ (ih h)
    cases hx : l.pull.1.lexeme.isStray with
    | false => exact hsame _
    | true =>
      obtain ⟨c, -, -, hcovered, hbreak, hequals⟩ := pull_stray hx
      rw [hcovered]
      exact List.rel_append (hsame _) (.cons (.inr ⟨rfl, hbreak, hequals⟩) .nil)

/-- The second lexer stands alongside the first one in the text with spaces for stray characters. -/
structure Blanks (l m : Lexer) : Prop extends Alongside l m where
  rest_eq : m.cursor.rest = l.blankedRest

variable {l m : Lexer}

theorem Blanks.pull_of_isEof (h : Blanks l m) (he : l.pull.1.isEof = true) : m.pull.1 = l.pull.1 := by
  have hsplit : l.pull.1.covered ++ l.pull.2.cursor.rest = l.cursor.rest := pull_rest l
  have hrest := h.rest_eq
  rw [blankedRest_of_isEof h.unfinished he, ← hsplit] at hrest
  exact (h.toAlongside.pull hrest (.refl _)).1

theorem Blanks.pull (h : Blanks l m) (he : l.pull.1.isEof = false) (hx : l.pull.1.lexeme.isStray = false) :
    m.pull.1 = l.pull.1 ∧ Blanks l.pull.2 m.pull.2 := by
  have hrest := h.rest_eq
  rw [blankedRest_cons h.unfinished he, hx, if_neg Bool.false_ne_true] at hrest
  have hlike := closesLike_of_blanked (forall₂_blanked (l := l.pull.2) h.unfinished)
  obtain ⟨hpull, hnext, halongside⟩ := h.toAlongside.pull hrest hlike
  exact ⟨hpull, halongside, hnext⟩

theorem Blanks.pull_stray (h : Blanks l m) (he : l.pull.1.isEof = false) (hx : l.pull.1.lexeme.isStray = true) :
    ∃ m', Blanks l.pull.2 m' ∧ ∀ {β : Type} (f : Emission → β), (∀ e gap, f { e with gap } = f e) →
      m'.emissions.map f = m.emissions.map f := by
  obtain ⟨c, hhead, hkind, hcovered, hbreak, -⟩ := Lexer.pull_stray hx
  have hrest := h.rest_eq
  rw [blankedRest_cons h.unfinished he, hx, if_pos rfl] at hrest
  -- The second lexer skips the space with the gap before it, and no comment reaches up to there.
  have hgap : IsTrivia m.options l.pull.2.blankedRest.head? (l.pull.1.gap ++ [' ']) := by
    have htrivia : IsTrivia l.options (some c) l.pull.1.gap := by
      rw [← hhead]
      exact trivia_isTrivia l.options l.cursor.rest
    rw [h.options_eq]
    exact (htrivia.of_next fun hend => absurd hend (by simpa [endsComment] using hbreak)).append
      (.blank (.inl rfl) .nil)
  have hcursor := skip_cursor hrest
  refine ⟨m.skip (l.pull.1.gap ++ [' ']).length, ⟨⟨?_, ?_, ?_, h.options_eq, h.unfinished, h.unfinished'⟩, ?_⟩,
    fun f hf => skip_emissions_map f hf h.unfinished' hrest hgap⟩
  · rw [hcursor, pull_position, hcovered, ← h.position_eq]
    simp
  · rw [hcursor, pull_line, hcovered, ← h.line_eq]
    simp [hbreak]
  · rw [pull_context, hkind]
    exact h.context_eq
  · rw [hcursor]

theorem Blanks.emissions_filter (h : Blanks l m) :
    (l.emissions.filter (fun e => !e.lexeme.isStray)).map (fun e => (e.token, e.after)) =
      m.emissions.map (fun e => (e.token, e.after)) := by
  induction l using pull_induction generalizing m with
  | stop l he =>
    have hpull := h.pull_of_isEof he
    have hme : m.pull.1.isEof = true := by rw [hpull, he]
    have hkind : l.pull.1.lexeme.kind = .eof := by simpa [Emission.isEof] using he
    simp [emissions_of_isEof h.unfinished he, emissions_of_isEof h.unfinished' hme, hpull, Lexeme.isStray, hkind]
  | step l he ih =>
    rw [emissions_cons h.unfinished he]
    cases hx : l.pull.1.lexeme.isStray with
    | true =>
      obtain ⟨m', hm', hemissions⟩ := h.pull_stray he hx
      rw [← hemissions _ (fun _ _ => rfl), ← ih hm']
      simp [hx]
    | false =>
      obtain ⟨hpull, hnext⟩ := h.pull he hx
      have hme : m.pull.1.isEof = false := by rw [hpull, he]
      rw [emissions_cons h.unfinished' hme, hpull, List.map_cons, ← ih hnext]
      simp [hx]

/-- Without its stray characters, a stream is the stream of the text with a space in the place of each of them, and
every token leaves the same context behind. Each of them is one character, reported as it is. -/
theorem emissions_blank_strays (text : List Char) (o : Options) (file : String) :
    let l := ofText text o file
    (l.emissions.filter (fun e => !e.lexeme.isStray)).map (fun e => (e.token, e.after)) =
        (ofText (blank l.strays 0 text) o file).emissions.map (fun e => (e.token, e.after)) ∧
      ∀ e ∈ l.emissions, e.lexeme.isStray = true →
        ∃ c, text[e.position]? = some c ∧ e.lexeme = .plain .illegal [c] := by
  intro l
  have hblanks : Blanks l (ofText (blank l.strays 0 text) o file) := ⟨⟨rfl, rfl, rfl, rfl, rfl, rfl⟩, rfl⟩
  refine ⟨hblanks.emissions_filter, fun e he hx => ?_⟩
  obtain ⟨before, after, hsplit⟩ := List.append_of_mem he
  obtain ⟨c, rest, hdrop, hlexeme, -⟩ := (isLexeme_of_split hsplit).stray_eq hx
  refine ⟨c, ?_, hlexeme⟩
  rw [← Nat.add_zero e.position, ← List.getElem?_drop, hdrop, List.getElem?_cons_zero]

end Lexer

end ScriptLexer
