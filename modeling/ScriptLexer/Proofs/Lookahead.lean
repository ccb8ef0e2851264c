import ScriptLexer.Proofs.LineJoints

/-! How far a token depends on the text behind it. Two lexers that stand alongside each other in different texts
pull the same token where the texts behind it close its lexeme alike. For that it is enough that the texts agree in
two characters, and so no token sees more than two characters beyond its lexeme. -/

namespace ScriptLexer

/-- The second text does to a lexeme before it what the first one does, even if that is a comment or has no closing
quote. -/
structure ClosesLike (after after' : List Char) : Prop extends StopsLike after after' where
  nil : after = [] → after' = []
  comment : endsComment after.head? → endsComment after'.head?

theorem ClosesLike.refl (after : List Char) : ClosesLike after after :=
  ⟨⟨fun _ _ _ => id, fun _ _ _ => id⟩, id, id⟩

theorem IsLexeme.replace {c : Context} {x : Lexeme} {after after' : List Char} (h : IsLexeme c (x.text ++ after) x)
    (hlike : ClosesLike after after') : IsLexeme c (x.text ++ after') x := by
  by_cases hafter : after = []
  · rw [hlike.nil hafter]
    rwa [hafter] at h
  · have hquoted : x.unterminated = false := by
      apply Bool.eq_false_iff.mpr
      intro hx
      exact hafter (List.append_right_eq_self.mp (h.unterminated_eq hx).2.1.symm)
    have hinput : x.text ++ after ≠ [] := fun hnil => hafter (List.append_eq_nil_iff.mp hnil).2
    exact h.append rfl hinput hquoted (fun hkind => hlike.comment (h.endsComment rfl hkind)) hlike.toStopsLike

theorem closesLike_of_take {after after' : List Char} {n : Nat} (h : after'.take (n + 2) = after.take (n + 2)) :
    ClosesLike after after' := by
  have hseen : ∀ seen : List Char, seen.length ≤ 2 → (seen <+: after' ↔ seen <+: after) := by
    intro seen hlength
    have hfits : ∀ text, seen <+: text ↔ seen <+: text.take (n + 2) := by
      intro text
      rw [List.prefix_take_iff, and_iff_left (by omega)]
    rw [hfits, h, ← hfits]
  have hhead : after'.head? = after.head? := by simpa [List.head?_take] using congrArg List.head? h
  refine ⟨⟨fun seen hlength _ => (hseen seen hlength).mp, fun c _ _ => (hseen [c, '='] (by simp)).mpr⟩, ?_, ?_⟩
  · rintro rfl
    exact List.head?_eq_none_iff.mp hhead
  · rw [hhead]
    exact id

/-- Where the lexeme of a token ends. -/
def Emission.stop (e : Emission) : Nat :=
  e.position + e.lexeme.text.length

namespace Lexer

/-- Two lexers at the same position and line, in the same context, whatever their texts are. -/
structure Alongside (l m : Lexer) : Prop where
  position_eq : m.cursor.position = l.cursor.position
  line_eq : m.cursor.line = l.cursor.line
  context_eq : m.context = l.context
  options_eq : m.options = l.options
  unfinished : l.finished = false
  unfinished' : m.finished = false

variable {l m : Lexer} {after' : List Char} {n : Nat}

theorem Alongside.pull (h : Alongside l m) (hrest : m.cursor.rest = l.pull.1.covered ++ after')
    (hlike : ClosesLike l.pull.2.cursor.rest after') :
    m.pull.1 = l.pull.1 ∧ m.pull.2.cursor.rest = after' ∧ Alongside l.pull.2 m.pull.2 := by
  have hlexeme : IsLexeme m.context (l.pull.1.lexeme.text ++ after') l.pull.1.lexeme := by
    have hl := l.pull_isLexeme
    rw [← text_append_rest] at hl
    rw [h.context_eq]
    exact hl.replace hlike
  have hhead : (l.pull.1.lexeme.text ++ after').head? = l.start.rest.head? := by
    rw [List.head?_append, head?_text]
    cases hstart : l.start.rest with
    | cons => rfl
    | nil =>
      have hnil := pull_rest_of_isEof l ((pull_isEof_iff_start l).mpr hstart)
      rw [hlike.nil hnil]
      rfl
  have hgap : IsTrivia m.options (l.pull.1.lexeme.text ++ after').head? l.pull.1.gap := by
    rw [hhead, h.options_eq]
    exact trivia_isTrivia l.options l.cursor.rest
  have hstop : trivia m.options false (l.pull.1.lexeme.text ++ after') = [] := by
    rw [trivia_eq_nil_iff, hhead, h.options_eq, ← trivia_eq_nil_iff]
    exact trivia_start l
  rw [Emission.covered, List.append_assoc] at hrest
  have hmstart : m.start.rest = l.pull.1.lexeme.text ++ after' := start_rest_eq hrest hgap hstop
  have hmlexeme : m.pull.1.lexeme = l.pull.1.lexeme := by
    rw [pull_lexeme, hmstart, hlexeme.read_eq]
  have hmgap : m.pull.1.gap = l.pull.1.gap := pull_gap_eq hrest hmstart
  have hcovered : m.pull.1.covered = l.pull.1.covered := by
    rw [Emission.covered, Emission.covered, hmgap, hmlexeme]
  refine ⟨?_, ?_, ?_, ?_, ?_, h.options_eq, h.unfinished, h.unfinished'⟩
  · have hposition : m.start.position = l.start.position := by
      rw [start_position, start_position, hmgap, h.position_eq]
    have hline : m.start.line = l.start.line := by
      rw [start_line, start_line, hmgap, h.line_eq]
    have hpulled : m.pull.1 = ⟨m.pull.1.gap, m.pull.1.lexeme, m.start.position, m.start.line, m.context⟩ := rfl
    rw [hpulled, hmgap, hmlexeme, hposition, hline, h.context_eq]
    rfl
  · have hsplit := text_append_rest m
    rw [hmlexeme, hmstart] at hsplit
    exact List.append_cancel_left hsplit
  · rw [pull_position, pull_position, hcovered, h.position_eq]
  · rw [pull_line, pull_line, hcovered, h.line_eq]
  · rw [pull_context, pull_context, hmlexeme, h.context_eq]

theorem pull_stop (l : Lexer) : l.pull.1.stop = l.pull.2.cursor.position := by
  rw [Emission.stop, position_of_pull, pull_position, Emission.covered, List.length_append, Nat.add_assoc]

theorem position_le_of_mem {l : Lexer} (h : l.finished = false) {e : Emission} (he : e ∈ l.emissions) :
    l.cursor.position ≤ e.position := by
  have hpull : ∀ l : Lexer, l.cursor.position ≤ l.pull.1.position := fun l => Cursor.position_le_advanceN _ _
  induction l using pull_induction with
  | stop l hend =>
    rw [emissions_of_isEof h hend, List.mem_singleton] at he
    rw [he]
    exact hpull l
  | step l hend ih =>
    rw [emissions_cons h hend, List.mem_cons] at he
    rcases he with rfl | he
    · exact hpull l
    · exact (Nat.le_of_lt (pull_position_lt hend)).trans (ih h he)

structure Agrees (n : Nat) (l m : Lexer) : Prop extends Alongside l m where
  take_eq : m.cursor.rest.take n = l.cursor.rest.take n

theorem Agrees.pull (h : Agrees (l.pull.1.covered.length + (n + 2)) l m) :
    m.pull.1 = l.pull.1 ∧ Agrees (n + 2) l.pull.2 m.pull.2 := by
  have hsplit : l.pull.1.covered ++ l.pull.2.cursor.rest = l.cursor.rest := pull_rest l
  have htake := h.take_eq
  rw [← hsplit, List.take_length_add_append] at htake
  obtain ⟨after', hrest⟩ : l.pull.1.covered <+: m.cursor.rest :=
    List.IsPrefix.trans ⟨_, htake.symm⟩ (List.take_prefix _ _)
  rw [← hrest, List.take_length_add_append, List.append_cancel_left_eq] at htake
  obtain ⟨hpull, hnext, halongside⟩ := h.toAlongside.pull hrest.symm (closesLike_of_take htake)
  exact ⟨hpull, halongside, by rw [hnext, htake]⟩

theorem Agrees.emissions_getElem? {i : Nat} {e : Emission} (h : Agrees n l m) (he : l.emissions[i]? = some e)
    (hn : e.stop + 2 ≤ l.cursor.position + n) :
    m.emissions[i]? = some e ∧ (m.pulled (i + 1)).context = (l.pulled (i + 1)).context := by
  induction i generalizing l m n with
  | zero =>
    obtain rfl : l.pull.1 = e := Lexer.emissions_getElem? h.unfinished he
    rw [pull_stop, pull_position] at hn
    obtain ⟨k, rfl⟩ : ∃ k, n = l.pull.1.covered.length + (k + 2) :=
      ⟨n - l.pull.1.covered.length - 2, by omega⟩
    obtain ⟨hpull, hnext⟩ := h.pull
    refine ⟨?_, hnext.context_eq⟩
    rw [emissions_zero h.unfinished', hpull]
  | succ i ih =>
    have hend : l.pull.1.isEof = false := by
      apply Bool.eq_false_iff.mpr
      intro hend
      simp [emissions_of_isEof h.unfinished hend] at he
    rw [emissions_cons h.unfinished hend, List.getElem?_cons_succ] at he
    have hle := position_le_of_mem (l := l.pull.2) h.unfinished (List.mem_of_getElem? he)
    have hstop : e.position ≤ e.stop := Nat.le_add_right _ _
    have hposition := pull_position l
    obtain ⟨k, rfl⟩ : ∃ k, n = l.pull.1.covered.length + (k + 2) :=
      ⟨n - l.pull.1.covered.length - 2, by omega⟩
    obtain ⟨hpull, hnext⟩ := h.pull
    have hmend : m.pull.1.isEof = false := by rw [hpull, hend]
    rw [emissions_cons h.unfinished' hmend, List.getElem?_cons_succ]
    exact ih hnext he (by omega)

/-- A token whose lexeme ends two characters before the end of its text, or earlier, is the same with any text
behind that one, and so is the context it leaves. It is the same in every text that agrees with its own as far as
two characters beyond its lexeme. -/
theorem emissions_lookahead (a b : List Char) (o : Options) (file : String) (i : Nat) (e : Emission)
    (he : (ofText a o file).emissions[i]? = some e) (hstop : e.stop + 2 ≤ a.length) :
    let same := fun text => (ofText text o file).emissions[i]? = some e ∧
      ((ofText text o file).pulled (i + 1)).context = ((ofText a o file).pulled (i + 1)).context
    same (a ++ b) ∧ ∀ text, text.take (e.stop + 2) = a.take (e.stop + 2) → same text := by
  intro same
  have hsame : ∀ text, text.take (e.stop + 2) = a.take (e.stop + 2) → same text := by
    intro text htake
    have hagrees : Agrees (e.stop + 2) (ofText a o file) (ofText text o file) :=
      ⟨⟨rfl, rfl, rfl, rfl, rfl, rfl⟩, htake⟩
    exact hagrees.emissions_getElem? he (Nat.le_add_left _ _)
  exact ⟨hsame (a ++ b) (List.take_append_of_le_length hstop), hsame⟩

/-- Two characters are needed: whether a question mark belongs to a word depends on the one behind it. -/
theorem emissions_lookahead_mark :
    let e : Emission := ⟨[], .plain .identifier ['a'], 0, 1, .initial⟩
    (ofText ['a', '?', '='] {} defaultFile).emissions[0]? = some e ∧ e.stop + 2 ≤ ['a', '?', '='].length ∧
      (ofText (['a', '?', '='] ++ ['=', '1']) {} defaultFile).emissions[0]? = some e ∧
      (ofText ['a', '?'] {} defaultFile).emissions[0]? =
        some ⟨[], .plain .identifier ['a', '?'], 0, 1, .initial⟩ := by
  intro e
  have he : (ofText ['a', '?', '='] {} defaultFile).emissions[0]? = some e := by decide
  have hstop : e.stop + 2 ≤ ['a', '?', '='].length := by decide
  exact ⟨he, hstop, (emissions_lookahead ['a', '?', '='] ['=', '1'] {} defaultFile 0 e he hstop).1.1, by decide⟩

end Lexer

end ScriptLexer
