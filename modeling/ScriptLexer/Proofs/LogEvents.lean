import ScriptLexer.Log
import ScriptLexer.Proofs.Progress
import ScriptLexer.Proofs.Utf8Faults

/-! The log tells what happened. Behind its opening events there is one event for each token, each with the context
that the one before it left, and none for what is skipped. Quoted text without its closing quote reaches to the end
of the text, so its event comes at most once and just before the last two tokens. -/

namespace ScriptLexer

namespace Event

def token? : Event → Option Token
  | .emitted token .. => some token
  | _ => none

def isUnterminated : Event → Bool
  | .unterminated .. => true
  | _ => false

/-- The events of tokens, and of quoted text left open, where each token starts in the context that the token before
it left behind and leaves the one that its kind leads to. -/
inductive Chained : Context → List Event → Prop
  | nil {c : Context} : Chained c []
  | unterminated {c : Context} {file : String} {line : Nat} {events : List Event} (h : Chained c events) :
      Chained c (.unterminated file line :: events)
  | emitted {c : Context} {t : Token} {events : List Event} (h : Chained (c.after t.kind) events) :
      Chained c (.emitted t c (c.after t.kind) :: events)

end Event

namespace Emission

def event (e : Emission) : Event :=
  .emitted e.token e.before e.after

/-- The token is illegal and starts with a quote. -/
def LeftOpen (e : Emission) : Prop :=
  e.token.kind = .illegal ∧ ∃ q : Quote, e.lexeme.text.head? = some q.mark

theorem events_of_closed {e : Emission} (h : e.lexeme.unterminated = false) (file : String) :
    e.events file = [e.event] := by
  simp [events, event, h]

theorem events_of_unterminated {e : Emission} (h : e.lexeme.unterminated = true) (file : String) :
    e.events file = [.unterminated file e.line, e.event] := by
  simp [events, event, h]

theorem filterMap_events (e : Emission) (file : String) : (e.events file).filterMap Event.token? = [e.token] := by
  cases hx : e.lexeme.unterminated with
  | true => rw [events_of_unterminated hx]; rfl
  | false => rw [events_of_closed hx]; rfl

end Emission

theorem IsLexeme.unterminated_iff {c : Context} {input : List Char} {x : Lexeme} (h : IsLexeme c input x) :
    x.unterminated = true ↔ x.kind = .illegal ∧ ∃ q : Quote, x.text.head? = some q.mark := by
  constructor
  · intro hx
    obtain ⟨hkind, -, q, body, htext, -⟩ := h.unterminated_eq hx
    exact ⟨hkind, q, by rw [htext]; rfl⟩
  · rintro ⟨hkind, q, hq⟩
    have horigin := h.origin
    simp only [Lexeme.Origin, hkind] at horigin
    rcases horigin with ⟨q', rest, rfl, rfl⟩ | ⟨first, rest, rfl, hother, rfl⟩
    · rcases Lexeme.quoted_cases q' rest with hquoted | ⟨-, hquoted⟩
      · simp [hquoted] at hkind
      · rw [hquoted]
    · obtain rfl : first = q.mark := by simpa [Lexeme.plain] using hq
      have hmark : Quote.ofMark? q.mark = some q := Quote.ofMark?_eq_some_iff.mpr rfl
      simp [hother.not_quote] at hmark

namespace Lexer

def events (l : Lexer) : List Event :=
  l.emissions.flatMap (Emission.events l.file)

variable {l : Lexer}

theorem unterminated_iff_of_mem (h : l.finished = false) {e : Emission} (he : e ∈ l.emissions) :
    e.lexeme.unterminated = true ↔ e.LeftOpen := by
  obtain ⟨n, rfl⟩ := exists_pulled_of_mem h he
  exact (l.pulled n).pull_isLexeme.unterminated_iff

theorem closed_of_isEof (he : l.pull.1.isEof = true) : l.pull.1.lexeme.unterminated = false := by
  have hkind : l.pull.1.lexeme.kind = .eof := by simpa [Emission.isEof] using he
  apply Bool.eq_false_iff.mpr
  intro hopen
  have hillegal := (l.pull_isLexeme.unterminated_eq hopen).1
  rw [hkind] at hillegal
  exact absurd hillegal Kind.noConfusion

theorem events_of_isEof (h : l.finished = false) (he : l.pull.1.isEof = true) : l.events = [l.pull.1.event] := by
  simp [events, emissions_of_isEof h he, Emission.events_of_closed (closed_of_isEof he)]

theorem events_cons (h : l.finished = false) (he : l.pull.1.isEof = false) :
    l.events = l.pull.1.events l.file ++ l.pull.2.events := by
  rw [events, emissions_cons h he, List.flatMap_cons]
  rfl

theorem filterMap_events (l : Lexer) : l.events.filterMap Event.token? = l.emissions.map Emission.token := by
  rw [events]
  induction l.emissions with
  | nil => rfl
  | cons e es ih => rw [List.flatMap_cons, List.filterMap_append, ih, e.filterMap_events, List.map_cons,
      List.singleton_append]

/-- The events of one pulled token lead from the context of the lexer to the one that the pull leaves. -/
theorem chained_append {events : List Event} (h : Event.Chained l.pull.2.context events) :
    Event.Chained l.context (l.pull.1.events l.file ++ events) := by
  have hemitted : Event.Chained l.context (l.pull.1.event :: events) := .emitted h
  by_cases hx : l.pull.1.lexeme.unterminated = true
  · rw [Emission.events_of_unterminated hx]
    exact .unterminated hemitted
  · rw [Emission.events_of_closed (Bool.eq_false_iff.mpr hx)]
    exact hemitted

theorem chained_events (h : l.finished = false) : Event.Chained l.context l.events := by
  induction l using pull_induction with
  | stop l he =>
    rw [events_of_isEof h he, ← Emission.events_of_closed (closed_of_isEof he) l.file]
    simpa using chained_append (l := l) .nil
  | step l he ih =>
    rw [events_cons h he]
    exact chained_append (ih h)

theorem emissions_of_rest_nil (h : l.finished = false) (hrest : l.cursor.rest = []) : ∃ last,
    l.emissions = [last] ∧ last.isEof = true ∧ last.lexeme.unterminated = false := by
  have he : l.pull.1.isEof = true := by rw [pull_of_rest_nil hrest]; rfl
  exact ⟨l.pull.1, emissions_of_isEof h he, he, closed_of_isEof he⟩

/-- Quoted text that is left open is the last token but the end token. -/
theorem emissions_closed_or_open (h : l.finished = false) : (∀ e ∈ l.emissions, e.lexeme.unterminated = false) ∨
    ∃ es e last, l.emissions = es ++ [e, last] ∧ (∀ e' ∈ es, e'.lexeme.unterminated = false) ∧
      e.lexeme.unterminated = true ∧ last.lexeme.unterminated = false ∧ last.isEof = true := by
  induction l using pull_induction with
  | stop l he =>
    left
    rw [emissions_of_isEof h he]
    exact List.forall_mem_singleton.mpr (closed_of_isEof he)
  | step l he ih =>
    rw [emissions_cons h he]
    by_cases hx : l.pull.1.lexeme.unterminated = true
    · right
      obtain ⟨last, hlast, hend, hclosed⟩ := emissions_of_rest_nil (l := l.pull.2) h (pull_rest_of_unterminated hx)
      exact ⟨[], l.pull.1, last, by rw [hlast]; rfl, (fun _ hmem => nomatch hmem), hx, hclosed, hend⟩
    · have hfirst : l.pull.1.lexeme.unterminated = false := Bool.eq_false_iff.mpr hx
      rcases ih h with hall | ⟨es, e, last, hsplit, hes, hopen, hclosed, hend⟩
      · exact .inl (List.forall_mem_cons.mpr ⟨hfirst, hall⟩)
      · right
        refine ⟨l.pull.1 :: es, e, last, ?_, List.forall_mem_cons.mpr ⟨hfirst, hes⟩, hopen, hclosed, hend⟩
        rw [hsplit, List.cons_append]

theorem flatMap_events_of_closed {es : List Emission} (h : ∀ e ∈ es, e.lexeme.unterminated = false) (file : String) :
    es.flatMap (Emission.events file) = es.map Emission.event := by
  induction es with
  | nil => rfl
  | cons e es ih =>
    obtain ⟨he, hes⟩ := List.forall_mem_cons.mp h
    rw [List.flatMap_cons, Emission.events_of_closed he, ih hes]
    rfl

theorem events_of_closed (h : ∀ e ∈ l.emissions, e.lexeme.unterminated = false) :
    l.events = l.emissions.map Emission.event :=
  flatMap_events_of_closed h l.file

theorem events_of_open {es : List Emission} {e last : Emission} (hsplit : l.emissions = es ++ [e, last])
    (hes : ∀ e' ∈ es, e'.lexeme.unterminated = false) (hopen : e.lexeme.unterminated = true)
    (hclosed : last.lexeme.unterminated = false) :
    l.events = es.map Emission.event ++ [.unterminated l.file e.line, e.event, last.event] := by
  rw [events, hsplit, List.flatMap_append, flatMap_events_of_closed hes]
  simp [Emission.events_of_unterminated hopen, Emission.events_of_closed hclosed]

theorem not_isUnterminated_of_mem_map {es : List Emission} {event : Event} (h : event ∈ es.map Emission.event) :
    event.isUnterminated = false := by
  obtain ⟨e, -, rfl⟩ := List.mem_map.mp h
  rfl

theorem countP_isUnterminated_map (es : List Emission) :
    (es.map Emission.event).countP Event.isUnterminated = 0 :=
  List.countP_eq_zero.mpr fun _ hmem => by simp [not_isUnterminated_of_mem_map hmem]

theorem countP_isUnterminated_le (h : l.finished = false) : l.events.countP Event.isUnterminated ≤ 1 := by
  rcases emissions_closed_or_open h with hall | ⟨es, e, last, hsplit, hes, hopen, hclosed, -⟩
  · rw [events_of_closed hall, countP_isUnterminated_map]
    exact Nat.zero_le 1
  · rw [events_of_open hsplit hes hopen hclosed, List.countP_append, countP_isUnterminated_map]
    exact Nat.le_refl 1

theorem exists_isUnterminated_iff (h : l.finished = false) : (∃ event ∈ l.events, event.isUnterminated = true) ↔
    ∃ es e last, l.emissions = es ++ [e, last] ∧ e.LeftOpen := by
  constructor
  · rintro ⟨event, hevent, hopen⟩
    rcases emissions_closed_or_open h with hall | ⟨es, e, last, hsplit, -, hx, -, -⟩
    · rw [events_of_closed hall] at hevent
      exact absurd (hopen.symm.trans (not_isUnterminated_of_mem_map hevent)) Bool.noConfusion
    · exact ⟨es, e, last, hsplit, (unterminated_iff_of_mem h (by simp [hsplit])).mp hx⟩
  · rintro ⟨es, e, last, hsplit, hleft⟩
    have hmem : e ∈ l.emissions := by simp [hsplit]
    have hx := (unterminated_iff_of_mem h hmem).mpr hleft
    refine ⟨.unterminated l.file e.line, List.mem_flatMap.mpr ⟨e, hmem, ?_⟩, rfl⟩
    simp [Emission.events_of_unterminated hx]

theorem events_of_leftOpen (h : l.finished = false) {es : List Emission} {e last : Emission}
    (hsplit : l.emissions = es ++ [e, last]) (hleft : e.LeftOpen) : last.isEof = true ∧
      l.events = es.map Emission.event ++ [.unterminated l.file e.line, e.event, last.event] := by
  have hmem : e ∈ l.emissions := by simp [hsplit]
  have hx := (unterminated_iff_of_mem h hmem).mpr hleft
  rcases emissions_closed_or_open h with hall | ⟨es', e', last', hsplit', hes, hopen, hclosed, hend⟩
  · exact absurd (hx.symm.trans (hall e hmem)) Bool.noConfusion
  · obtain ⟨rfl, hpair⟩ := List.append_inj' (hsplit'.symm.trans hsplit) rfl
    obtain ⟨rfl, rfl⟩ : e' = e ∧ last' = last := by simpa using hpair
    exact ⟨hend, events_of_open hsplit hes hopen hclosed⟩

end Lexer

theorem log_of_encode (text : List Char) (file : Option String) (o : Options) :
    log (Utf8.encode text) file o =
      .opened file (Utf8.encode text).length :: .created (file.getD Lexer.defaultFile) o text.length ::
        (Lexer.ofText text o (file.getD Lexer.defaultFile)).events := by
  rw [log, Lexer.ofBytes_eq, Utf8.decode_encode]
  rfl

theorem log_of_error {bytes : List UInt8} {f : Utf8.Fault} (h : Utf8.decode bytes = .error f)
    (file : Option String) (o : Options) : log bytes file o =
      [.opened file bytes.length, .undecodable (file.getD Lexer.defaultFile) f.validUpTo] := by
  rw [log, Lexer.ofBytes_eq, h]
  rfl

/-- Besides its two opening events, the log of a source that can be decoded has one event for each token, in order and
with contexts that join, and one more just before a token of quoted text that is left open. For any other source there
are two events only, the second of which tells how far the source can be decoded. -/
theorem log_tells_run (bytes : List UInt8) (file : Option String) (o : Options) :
    let name := file.getD "shell"
    (¬ Utf8.IsEncoded bytes → ∃ offset, log bytes file o = [.opened file bytes.length, .undecodable name offset] ∧
        IsLongestPrefix Utf8.IsEncoded bytes (bytes.take offset)) ∧
      ∀ text, bytes = Utf8.encode text → ∃ emissions events,
        log bytes file o = .opened file bytes.length :: .created name o text.length :: events ∧
        emissions = (Lexer.ofText text o name).emissions ∧
        tokenizeBytes bytes file o = .ok (emissions.map Emission.token) ∧
        events.filterMap Event.token? = emissions.map Emission.token ∧
        Event.Chained .initial events ∧
        events.countP Event.isUnterminated ≤ 1 ∧
        ((∃ event ∈ events, event.isUnterminated = true) ↔
          ∃ es e last, emissions = es ++ [e, last] ∧ e.LeftOpen) ∧
        ∀ es e last, emissions = es ++ [e, last] → e.LeftOpen → last.isEof = true ∧
          events = es.map Emission.event ++ [.unterminated name e.token.line, e.event, last.event] := by
  intro name
  refine ⟨fun hnot => ?_, ?_⟩
  · cases hdecode : Utf8.decode bytes with
    | ok text => exact absurd ⟨text, Utf8.decode_eq_ok_iff.mp hdecode⟩ hnot
    | error f =>
      exact ⟨f.validUpTo, log_of_error hdecode file o, (Utf8.isLongestPrefix_validUpTo hdecode).2⟩
  · rintro text rfl
    let l := Lexer.ofText text o name
    have h : l.finished = false := rfl
    exact ⟨l.emissions, l.events, log_of_encode text file o, rfl, tokenizeBytes_encode text file o,
      l.filterMap_events, Lexer.chained_events h, Lexer.countP_isUnterminated_le h,
      Lexer.exists_isUnterminated_iff h, fun es e last hsplit hleft => Lexer.events_of_leftOpen h hsplit hleft⟩

end ScriptLexer
