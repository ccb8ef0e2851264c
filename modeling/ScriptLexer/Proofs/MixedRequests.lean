import ScriptLexer.Proofs.Progress

/-! Two ways to ask a lexer for a token. A pull always gives one, and asking for the next token of the stream gives
none once it has given the end token. In whatever order the two are mixed, each goes on where the last one left the
lexer, so that together they hand out the tokens of the stream, and then its end token again and again. -/

namespace ScriptLexer

inductive Request where
  | pull
  | next
  deriving DecidableEq, Repr

structure Reply where
  request : Request
  token : Option Token
  deriving DecidableEq, Repr

/-- Whether the reply ends the stream. A pull never does, even if it gives the end token. -/
def Reply.endsStream (r : Reply) : Bool :=
  r.request = .next && r.token.any Token.isEof

def handedOut (replies : List Reply) : List Token :=
  replies.filterMap Reply.token

namespace Lexer

def answer (l : Lexer) : Request → Option Token × Lexer
  | .pull => (some l.pull.1.token, l.pull.2)
  | .next =>
    match l.next? with
    | none => (none, l)
    | some (e, m) => (some e.token, m)

def replies (l : Lexer) : List Request → List Reply
  | [] => []
  | r :: requests => ⟨r, (l.answer r).1⟩ :: (l.answer r).2.replies requests

def afterRequests (l : Lexer) (requests : List Request) : Lexer :=
  requests.foldl (fun m r => (m.answer r).2) l

section Answer

variable {l : Lexer}

theorem answer_pull (l : Lexer) : l.answer .pull = (some l.pull.1.token, l.pull.2) := rfl

theorem answer_next (h : l.finished = false) :
    l.answer .next = (some l.pull.1.token, { l.pull.2 with finished := l.pull.1.isEof }) := by
  simp [answer, next?_eq h]

theorem answer_next_of_finished (h : l.finished = true) : l.answer .next = (none, l) := by
  simp [answer, next?, h]

theorem answer_cases (l : Lexer) (r : Request) : l.answer r = (none, l) ∨
    ∃ finished, l.answer r = (some l.pull.1.token, { l.pull.2 with finished }) := by
  cases r with
  | pull => exact .inr ⟨l.finished, answer_pull l⟩
  | next =>
    cases h : l.finished with
    | true => exact .inl (answer_next_of_finished h)
    | false => exact .inr ⟨_, answer_next h⟩

theorem answer_eq_none_iff (l : Lexer) (r : Request) :
    (l.answer r).1 = none ↔ r = .next ∧ l.finished = true := by
  cases r with
  | pull => simp [answer_pull]
  | next => cases h : l.finished <;> simp [answer_next, answer_next_of_finished, h]

theorem answer_finished (l : Lexer) (r : Request) :
    (l.answer r).2.finished = (l.finished || Reply.endsStream ⟨r, (l.answer r).1⟩) := by
  cases r with
  | pull => simp [answer_pull, Reply.endsStream]
  | next =>
    cases h : l.finished with
    | true => simp [answer_next_of_finished h, h]
    | false =>
      rw [answer_next h]
      rfl

theorem answer_atEnd (h : l.finished = true → l.cursor.rest = []) (r : Request)
    (hr : (l.answer r).2.finished = true) : (l.answer r).2.cursor.rest = [] := by
  cases r with
  | pull =>
    have hrest := h hr
    rw [answer_pull, pull_of_rest_nil hrest]
    exact hrest
  | next =>
    cases hf : l.finished with
    | true =>
      rw [answer_next_of_finished hf]
      exact h hf
    | false =>
      rw [answer_next hf] at hr ⊢
      exact pull_rest_of_isEof l hr

end Answer

theorem replies_request (l : Lexer) (requests : List Request) :
    (l.replies requests).map Reply.request = requests := by
  induction requests generalizing l with
  | nil => rfl
  | cons r requests ih => simp [replies, ih]

theorem afterRequests_atEnd {l : Lexer} (h : l.finished = true → l.cursor.rest = []) (requests : List Request)
    (hend : (l.afterRequests requests).finished = true) : (l.afterRequests requests).cursor.rest = [] := by
  induction requests generalizing l with
  | nil => exact h hend
  | cons r requests ih => exact ih (answer_atEnd h r) hend

/-- A request gets no token just when it asks for the next one of a stream that has ended before. -/
theorem token_eq_none_iff {l : Lexer} {requests : List Request} {before after : List Reply} {r : Reply}
    (hsplit : l.replies requests = before ++ r :: after) : r.token = none ↔
      r.request = .next ∧ (l.finished = true ∨ ∃ r' ∈ before, r'.endsStream = true) := by
  induction requests generalizing l before with
  | nil => simp [replies] at hsplit
  | cons request requests ih =>
    rw [replies] at hsplit
    cases before with
    | nil =>
      obtain ⟨rfl, -⟩ := List.cons.inj hsplit
      simpa using answer_eq_none_iff l request
    | cons first before =>
      obtain ⟨rfl, htail⟩ := List.cons.inj hsplit
      rw [ih htail, answer_finished]
      simp [or_assoc]

theorem countP_endsStream (l : Lexer) (requests : List Request) :
    (l.replies requests).countP Reply.endsStream ≤ if l.finished then 0 else 1 := by
  induction requests generalizing l with
  | nil => simp [replies]
  | cons r requests ih =>
    -- The reply that ends the stream sets the flag, so that the bound for the requests behind it is 0.
    have htail := ih (l.answer r).2
    rw [answer_finished] at htail
    rw [replies, List.countP_cons]
    cases hf : l.finished with
    | true =>
      have hends : Reply.endsStream ⟨r, (l.answer r).1⟩ = false := by
        cases r with
        | pull => rfl
        | next => simp [answer_next_of_finished hf, Reply.endsStream]
      simpa [hf, hends] using htail
    | false =>
      rw [hf, Bool.false_or] at htail
      cases hends : Reply.endsStream ⟨r, (l.answer r).1⟩ with
      | true => simpa [hends] using htail
      | false => simpa [hends] using htail

theorem pulled_finished_eq (l : Lexer) (finished : Bool) (n : Nat) :
    ({ l with finished } : Lexer).pulled n = { l.pulled n with finished } := by
  induction n generalizing l with
  | zero => rfl
  | succ n ih => exact ih l.pull.2

theorem handedOut_getElem? {l : Lexer} {requests : List Request} {j : Nat} {t : Token}
    (ht : (handedOut (l.replies requests))[j]? = some t) : t = (l.pulled j).pull.1.token := by
  induction requests generalizing l j with
  | nil => simp [replies, handedOut] at ht
  | cons r requests ih =>
    rcases answer_cases l r with hanswer | ⟨finished, hanswer⟩
    -- A request without a token leaves the lexer alone and takes no place among the tokens.
    · refine ih ?_
      simpa [replies, handedOut, hanswer] using ht
    · cases j with
      | zero =>
        simp only [replies, handedOut, hanswer, List.filterMap_cons_some, List.getElem?_cons_zero,
          Option.some.injEq] at ht
        exact ht.symm
      | succ j =>
        -- Only the flag may differ from that of a pulled lexer, and no pull reads it.
        have htail : (handedOut (({ l.pull.2 with finished } : Lexer).replies requests))[j]? = some t := by
          simpa [replies, handedOut, hanswer] using ht
        rw [ih htail, pulled_finished_eq]
        rfl

theorem pulled_token {l : Lexer} {last : Token} (h : l.finished = false)
    (hlast : (l.emissions.map Emission.token).getLast? = some last) (n : Nat) :
    (l.pulled n).pull.1.token = (l.emissions.map Emission.token)[n]?.getD last := by
  induction l using pull_induction generalizing n with
  | stop l he =>
    rw [emissions_of_isEof h he] at hlast ⊢
    obtain rfl : l.pull.1.token = last := by simpa using hlast
    cases n with
    | zero => rfl
    | succ n =>
      have hstay : l.pulled (n + 1) = l.pull.2 := pulled_of_rest_nil (pull_rest_of_isEof l he) n
      rw [hstay]
      exact (pull_of_isEof he).2
  | step l he ih =>
    rw [emissions_cons h he, List.map_cons] at hlast ⊢
    cases n with
    | zero => rfl
    | succ n =>
      obtain ⟨emissions, e, hsplit, -⟩ := emissions_end (l := l.pull.2) h
      refine ih h ?_ n
      rw [hsplit, List.map_append, List.map_singleton] at hlast ⊢
      rw [← List.cons_append, List.getLast?_concat] at hlast
      rw [List.getLast?_concat, hlast]

/-- However pulls and requests for the next token are mixed, together they hand out the tokens of the stream in
order, and its end token after that. The next token is missing just when an earlier request for it got the end token,
which happens at most once, and the text has been passed by then. -/
theorem replies_follow_stream (text : List Char) (o : Options) (file : Option String) (requests : List Request) :
    let l := ofText text o (file.getD defaultFile)
    let replies := l.replies requests
    ∃ stream last, tokenizeBytes (Utf8.encode text) file o = .ok stream ∧
      stream.getLast? = some last ∧ last.isEof = true ∧ replies.map Reply.request = requests ∧
      (∀ (j : Nat) t, (handedOut replies)[j]? = some t → t = stream[j]?.getD last) ∧
      (∀ before r after, replies = before ++ r :: after →
        (r.token = none ↔ r.request = .next ∧ ∃ r' ∈ before, r'.endsStream = true)) ∧
      replies.countP Reply.endsStream ≤ 1 ∧
      ((l.afterRequests requests).finished = true → (l.afterRequests requests).cursor.isAtEnd = true) := by
  intro l replies
  have hfresh : l.finished = false := rfl
  obtain ⟨emissions, last, hsplit, -, hlast, -⟩ := emissions_end hfresh
  have hend : (l.emissions.map Emission.token).getLast? = some last.token := by simp [hsplit]
  refine ⟨l.emissions.map Emission.token, last.token, tokenizeBytes_encode text file o, hend, hlast,
    replies_request l requests, fun j t ht => ?_, fun before r after hr => ?_, ?_, fun hf => ?_⟩
  · rw [handedOut_getElem? ht, pulled_token hfresh hend]
  · simpa [hfresh] using token_eq_none_iff hr
  · simpa [hfresh] using countP_endsStream l requests
  · have hrest := afterRequests_atEnd (by simp [hfresh]) requests hf
    simp [Cursor.isAtEnd, hrest]

end Lexer

end ScriptLexer
