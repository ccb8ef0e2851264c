import ScriptLexer.Proofs.CursorRange

/-! Moves of a cursor, one character or many at a time. Wherever they lead, the place of the cursor settles what it
sees and which line it is on, and looking ahead agrees with moving on. A cursor that keeps the next index and the
current character in fields of their own, and counts lines in a word, does the same. -/

namespace ScriptLexer

inductive Move where
  | advance
  | advanceN (n : Nat)
  deriving DecidableEq, Repr

/-- A cursor over an array. It keeps the index of the current character, that of the next one and the character
itself, and moves on by one of them at a time. -/
structure IndexedCursor where
  source : Array Char
  position : Nat
  readPosition : Nat
  line : UInt32
  current : Option Char

/-- The characters between two indices, if these bound a part of the array. -/
def cut? (source : Array Char) (start stop : Nat) : Option (List Char) :=
  if start ≤ stop ∧ stop ≤ source.size then some (source.extract start stop).toList else none

namespace IndexedCursor

def ofArray (source : Array Char) : IndexedCursor :=
  ⟨source, 0, 1, 1, source[0]?⟩

def peekNth (i : IndexedCursor) (n : Nat) : Option Char :=
  i.source[i.position + n]?

def advance (i : IndexedCursor) : IndexedCursor :=
  match i.current with
  | none => i
  | some char =>
    { i with
      position := i.readPosition
      readPosition := i.readPosition + 1
      line := if char = '\n' then i.line + 1 else i.line
      current := i.source[i.readPosition]? }

def advanceN (i : IndexedCursor) : Nat → IndexedCursor
  | 0 => i
  | n + 1 => i.advance.advanceN n

/-- The part between two positions, which are brought into the array and into order first. -/
def slice? (i : IndexedCursor) (start stop : Nat) : Option (List Char) :=
  let stop := min stop i.source.size
  cut? i.source (min start stop) stop

def move (i : IndexedCursor) : Move → IndexedCursor
  | .advance => i.advance
  | .advanceN n => i.advanceN n

def afterMoves (i : IndexedCursor) (moves : List Move) : IndexedCursor :=
  moves.foldl move i

theorem advance_of_none {i : IndexedCursor} (h : i.current = none) : i.advance = i := by
  simp [advance, h]

theorem advance_of_some {i : IndexedCursor} {char : Char} (h : i.current = some char) : i.advance =
    { i with
      position := i.readPosition
      readPosition := i.readPosition + 1
      line := if char = '\n' then i.line + 1 else i.line
      current := i.source[i.readPosition]? } := by
  simp [advance, h]

theorem advanceN_add (i : IndexedCursor) (m n : Nat) : i.advanceN (m + n) = (i.advanceN m).advanceN n := by
  induction m generalizing i with
  | zero => simp [advanceN]
  | succ m ih =>
    rw [Nat.succ_add]
    exact ih i.advance

end IndexedCursor

namespace Cursor

variable {c : Cursor} {passed : List Char}

def move (c : Cursor) : Move → Cursor
  | .advance => c.advance
  | .advanceN n => c.advanceN n

def afterMoves (c : Cursor) (moves : List Move) : Cursor :=
  moves.foldl move c

theorem advance_of_nil (h : c.rest = []) : c.advance = c := by
  simp [advance, h]

theorem advance_of_cons {char : Char} {rest : List Char} (h : c.rest = char :: rest) : c.advance =
    { c with
      rest
      position := c.position + 1
      line := if char = '\n' then c.line + 1 else c.line } := by
  simp [advance, h]

theorem move_hasPassed (h : c.HasPassed passed) (m : Move) : ∃ passed', (c.move m).HasPassed passed' := by
  cases m with
  | advance => exact ⟨_, c.advanceN_one ▸ h.advanceN 1⟩
  | advanceN n => exact ⟨_, h.advanceN n⟩

theorem afterMoves_hasPassed (h : c.HasPassed passed) (moves : List Move) :
    ∃ passed', (c.afterMoves moves).HasPassed passed' := by
  induction moves generalizing c passed with
  | nil => exact ⟨passed, h⟩
  | cons m moves ih =>
    obtain ⟨passed', h'⟩ := move_hasPassed h m
    exact ih h'

theorem move_source (c : Cursor) (m : Move) : (c.move m).source = c.source := by
  cases m with
  | advance =>
    show c.advance.source = c.source
    rw [← advanceN_one]
    rfl
  | advanceN n => rfl

theorem afterMoves_source (c : Cursor) (moves : List Move) : (c.afterMoves moves).source = c.source := by
  induction moves generalizing c with
  | nil => rfl
  | cons m moves ih => exact (ih (c.move m)).trans (c.move_source m)

theorem HasPassed.passed_eq (h : c.HasPassed passed) : passed = c.source.take c.position := by
  rw [h.source_eq, h.position_eq, List.take_left]

theorem HasPassed.position_le (h : c.HasPassed passed) : c.position ≤ c.size := by
  have hsize := h.size_eq
  omega

theorem HasPassed.current_eq_none_iff (h : c.HasPassed passed) : c.current = none ↔ c.position = c.size := by
  have hle := h.position_le
  have hcurrent : c.source[c.position]? = c.current := h.getElem?_position
  rw [← hcurrent, List.getElem?_eq_none_iff, ← size]
  omega

theorem HasPassed.position_advanceN (h : c.HasPassed passed) (n : Nat) :
    (c.advanceN n).position = min (c.position + n) c.size := by
  have hsize := h.size_eq
  show c.position + (c.rest.take n).length = _
  rw [List.length_take]
  omega

theorem peekNth_eq (c : Cursor) (n : Nat) : c.peekNth n = (c.advanceN n).current := by
  show c.rest[n]? = (c.rest.drop n).head?
  rw [List.head?_drop]

theorem HasPassed.peekNth_eq_getElem? (h : c.HasPassed passed) (n : Nat) :
    c.peekNth n = c.source[c.position + n]? := by
  show c.rest[n]? = _
  rw [h.rest_eq, List.getElem?_drop]

theorem slice_getElem? (c : Cursor) (start stop k : Nat) :
    (c.slice start stop)[k]? = if start + k < stop then c.source[start + k]? else none := by
  rw [slice, List.getElem?_drop, List.getElem?_take]

theorem slice_append {a b d : Nat} (c : Cursor) (hab : a ≤ b) (hbd : b ≤ d) :
    c.slice a b ++ c.slice b d = c.slice a d := by
  obtain ⟨k, rfl⟩ : ∃ k, b = a + k := ⟨b - a, by omega⟩
  obtain ⟨n, rfl⟩ : ∃ n, d = a + k + n := ⟨d - (a + k), by omega⟩
  simp only [slice, List.drop_take, ← List.drop_drop]
  rw [show a + k - a = k by omega, show a + k + n - (a + k) = n by omega, show a + k + n - a = k + n by omega,
    List.take_add]

end Cursor

namespace IndexedCursor

/-- The two cursors stand at one place of one text. -/
structure Tracks (i : IndexedCursor) (c : Cursor) : Prop where
  source_eq : i.source.toList = c.source
  position_eq : i.position = c.position
  readPosition_eq : i.readPosition = c.position + 1
  line_eq : i.line.toNat = c.line
  current_eq : i.current = c.current

variable {i : IndexedCursor} {c : Cursor} {passed : List Char}

theorem ofArray_tracks (text : List Char) : (ofArray text.toArray).Tracks (.ofText text) := by
  refine ⟨rfl, rfl, rfl, rfl, ?_⟩
  simp [ofArray, Cursor.ofText, Cursor.current, List.head?_eq_getElem?]

theorem Tracks.line_succ (h : i.Tracks c) (hp : c.HasPassed passed)
    (hlines : c.source.count '\n' < UInt32.size - 1) (hbreak : '\n' ∈ c.rest) :
    (i.line + 1).toNat = c.line + 1 := by
  have hahead := List.count_pos_iff.mpr hbreak
  have hcount : c.source.count '\n' = passed.count '\n' + c.rest.count '\n' := by
    rw [hp.source_eq, List.count_append]
  have hline := hp.line_eq
  have hword := h.line_eq
  rw [UInt32.size] at hlines
  rw [UInt32.toNat_add, UInt32.toNat_one]
  omega

theorem Tracks.advance (h : i.Tracks c) (hp : c.HasPassed passed)
    (hlines : c.source.count '\n' < UInt32.size - 1) : i.advance.Tracks c.advance := by
  have hcurrent : i.current = c.rest.head? := h.current_eq
  cases hrest : c.rest with
  | nil =>
    rw [hrest] at hcurrent
    rwa [advance_of_none hcurrent, Cursor.advance_of_nil hrest]
  | cons char rest =>
    rw [hrest] at hcurrent
    rw [advance_of_some hcurrent, Cursor.advance_of_cons hrest]
    refine ⟨h.source_eq, h.readPosition_eq, ?_, ?_, ?_⟩
    · show i.readPosition + 1 = c.position + 1 + 1
      rw [h.readPosition_eq]
    · by_cases hchar : char = '\n'
      · simpa [hchar] using h.line_succ hp hlines (by simp [hrest, hchar])
      · simpa [hchar] using h.line_eq
    · show i.source[i.readPosition]? = rest.head?
      have hpeek := hp.peekNth_eq_getElem? 1
      rw [← Array.getElem?_toList, h.source_eq, h.readPosition_eq, ← hpeek, Cursor.peekNth, hrest,
        List.getElem?_cons_succ, List.head?_eq_getElem?]

theorem Tracks.advanceN (h : i.Tracks c) (hp : c.HasPassed passed)
    (hlines : c.source.count '\n' < UInt32.size - 1) (n : Nat) : (i.advanceN n).Tracks (c.advanceN n) := by
  induction n generalizing i c passed with
  | zero => simpa [IndexedCursor.advanceN] using h
  | succ n ih =>
    have hstep := h.advance hp hlines
    rw [Nat.add_comm, Cursor.advanceN_add, Nat.add_comm]
    rw [← Cursor.advanceN_one] at hstep
    exact ih hstep (hp.advanceN 1) hlines

theorem Tracks.move (h : i.Tracks c) (hp : c.HasPassed passed)
    (hlines : c.source.count '\n' < UInt32.size - 1) (m : Move) : (i.move m).Tracks (c.move m) := by
  cases m with
  | advance => exact h.advance hp hlines
  | advanceN n => exact h.advanceN hp hlines n

theorem Tracks.afterMoves (h : i.Tracks c) (hp : c.HasPassed passed)
    (hlines : c.source.count '\n' < UInt32.size - 1) (moves : List Move) :
    (i.afterMoves moves).Tracks (c.afterMoves moves) := by
  induction moves generalizing i c passed with
  | nil => exact h
  | cons m moves ih =>
    obtain ⟨passed', hp'⟩ := Cursor.move_hasPassed hp m
    exact ih (h.move hp hlines m) hp' (by rwa [Cursor.move_source])

theorem Tracks.peekNth_eq (h : i.Tracks c) (hp : c.HasPassed passed) (n : Nat) : i.peekNth n = c.peekNth n := by
  rw [peekNth, hp.peekNth_eq_getElem?, ← Array.getElem?_toList, h.source_eq, h.position_eq]

theorem cut?_eq_some {source : Array Char} {start stop : Nat} (hstart : start ≤ stop) (hstop : stop ≤ source.size) :
    cut? source start stop = some ((source.toList.take stop).drop start) := by
  rw [cut?, if_pos ⟨hstart, hstop⟩, Array.toList_extract, List.extract_eq_take_drop, List.drop_take]

/-- Whatever the two positions are, the part of the array that they are brought to exists. -/
theorem Tracks.slice?_eq (h : i.Tracks c) (start stop : Nat) : i.slice? start stop = some (c.slice start stop) := by
  have hsize : i.source.size = c.source.length := by rw [← h.source_eq, Array.length_toList]
  rw [slice?, cut?_eq_some (Nat.min_le_right _ _) (Nat.min_le_right _ _), h.source_eq, hsize, Cursor.slice]
  congr 1
  apply List.ext_getElem?
  intro k
  simp only [List.getElem?_drop, List.getElem?_take]
  grind

end IndexedCursor

namespace Cursor

/-- After any moves from the start of a text, past its end included, the position lies in the text and settles the
current character and the line. Looking ahead shows what moving on leads to, and parts of the text between any two
positions exist and adjoin. The indexed cursor keeps in step, and its word for the line does not overflow. -/
theorem afterMoves_place (text : List Char) (moves : List Move) (hlines : text.count '\n' < UInt32.size - 1) :
    let c := (ofText text).afterMoves moves
    let i := (IndexedCursor.ofArray text.toArray).afterMoves moves
    (c.size = text.length ∧ c.position ≤ c.size ∧ c.current = text[c.position]? ∧
        (c.current = none ↔ c.position = c.size) ∧ c.line = 1 + (text.take c.position).count '\n') ∧
      (i.Tracks c ∧ i.readPosition = i.position + 1) ∧
      (∀ n, c.peekNth n = (c.advanceN n).current ∧ i.peekNth n = (i.advanceN n).current ∧
        (c.advanceN n).position = min (c.position + n) c.size ∧
        (i.advanceN n).position = min (i.position + n) i.source.size ∧
        ∀ m, (c.advanceN m).advanceN n = c.advanceN (m + n) ∧ (i.advanceN m).advanceN n = i.advanceN (m + n)) ∧
      (∀ start stop, i.slice? start stop = some (c.slice start stop) ∧
        ∀ k, (c.slice start stop)[k]? = if start + k < stop then text[start + k]? else none) ∧
      ∀ a b d, a ≤ b → b ≤ d → c.slice a b ++ c.slice b d = c.slice a d := by
  intro c i
  obtain ⟨passed, hp⟩ : ∃ passed, c.HasPassed passed := afterMoves_hasPassed (ofText_hasPassed text) moves
  have hsource : c.source = text := afterMoves_source (ofText text) moves
  have htracks : i.Tracks c :=
    (IndexedCursor.ofArray_tracks text).afterMoves (ofText_hasPassed text) hlines moves
  have hsize : i.source.size = c.size := by rw [size, ← htracks.source_eq, Array.length_toList]
  have hahead : ∀ n, (i.advanceN n).Tracks (c.advanceN n) := fun n => htracks.advanceN hp (hsource ▸ hlines) n
  refine ⟨⟨by rw [size, hsource], hp.position_le, hsource ▸ hp.getElem?_position.symm, hp.current_eq_none_iff, ?_⟩,
    ⟨htracks, ?_⟩, fun n => ⟨c.peekNth_eq n, ?_, hp.position_advanceN n, ?_, fun m => ⟨?_, ?_⟩⟩,
    fun start stop => ⟨htracks.slice?_eq start stop, fun k => ?_⟩, fun a b d hab hbd => c.slice_append hab hbd⟩
  · rw [← hsource, ← hp.passed_eq, hp.line_eq]
  · rw [htracks.readPosition_eq, htracks.position_eq]
  · rw [htracks.peekNth_eq hp, c.peekNth_eq, (hahead n).current_eq]
  · rw [(hahead n).position_eq, hp.position_advanceN, htracks.position_eq, hsize]
  · exact (c.advanceN_add m n).symm
  · exact (i.advanceN_add m n).symm
  · rw [slice_getElem?, hsource]

/-- A null character is one like any other, and a move beyond the end of the text stays there. -/
theorem afterMoves_place_beyond_end :
    let text := ['a', '\n', '\x00', '\n']
    let moves := [.advance, .advanceN 1, .advanceN 7, .advance]
    text.count '\n' < UInt32.size - 1 ∧
      ((ofText text).afterMoves [.advanceN 2]).current = some '\x00' ∧
      ((ofText text).afterMoves moves).position = 4 ∧ ((ofText text).afterMoves moves).line = 3 ∧
      ((ofText text).afterMoves moves).slice 3 1 = [] ∧ ((ofText text).afterMoves moves).slice 2 9 = ['\x00', '\n'] := by
  intro text moves
  have hlines : text.count '\n' < UInt32.size - 1 := by decide
  obtain ⟨⟨-, -, hcurrent, -⟩, -⟩ := afterMoves_place text [.advanceN 2] hlines
  obtain ⟨⟨-, -, -, -, hline⟩, -⟩ := afterMoves_place text moves hlines
  exact ⟨hlines, hcurrent.trans rfl, rfl, hline.trans rfl, rfl, rfl⟩

end Cursor

end ScriptLexer
