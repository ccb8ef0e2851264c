import ScriptLexer.Lexer
import ScriptLexer.Proofs.LongestPrefix
import ScriptLexer.Proofs.Utf8Decoding

/-! Decoding succeeds on encoded text alone, and a fault lies where no encoded text goes any further. While a sequence
is pending, the numbers it awaits are those of the characters whose encodings start with the bytes read of it, so that
it can always be completed and is refused at the first byte that no character has there. -/

namespace ScriptLexer.Utf8

/-- The bytes have been read of the sequence, and it awaits the numbers of all characters that start with them. -/
structure Pending.HasRead (p : Pending) (front : List UInt8) : Prop where
  length_eq : front.length = p.length
  length_pos : 0 < p.length
  least_le : p.least ≤ p.greatest
  tail_le : 0x80 ≤ p.least
  le_tail : p.greatest ≤ 0xBF
  encodes : ∀ v, p.Awaits v → ∃ c : Char, c.toNat = v ∧ String.utf8EncodeChar c = front ++ tails v p.more
  awaits : ∀ c : Char, front <+: String.utf8EncodeChar c → p.Awaits c.toNat

theorem toNat_ofNat {n : Nat} (h : n.isValidChar) : (Char.ofNat n).toNat = n := by
  rw [Char.ofNat, dif_pos h]
  rfl

theorem encodeChar_ascii {byte : UInt8} (h : byte.toNat < 0x80) :
    String.utf8EncodeChar (Char.ofNat byte.toNat) = [byte] := by
  have hv : (Char.ofNat byte.toNat).toNat = byte.toNat := toNat_ofNat (.inl (by omega))
  rcases encodeChar_cases hv with ⟨-, hencode⟩ | ⟨htwo, -⟩ | ⟨hthree, -⟩ | ⟨hfour, -⟩
  · rw [hencode, UInt8.ofNat_toNat]
  · omega
  · omega
  · omega

section Leads

variable {n v : Nat} {p : Pending}

/-- The numbers that a sequence awaits behind its first byte are those of characters, and they settle that byte. -/
theorem Pending.Awaits.of_lead (hlead : Pending.ofLead? n = some p) (h : p.Awaits v) :
    (v < 0xD800 ∨ 0xDFFF < v) ∧
      (p.more = 0 ∧ 0x80 ≤ v ∧ v < 0x800 ∧ n = v / 64 + 0xC0 ∨
        p.more = 1 ∧ 0x800 ≤ v ∧ v < 0x10000 ∧ n = v / 4096 + 0xE0 ∨
        p.more = 2 ∧ 0x10000 ≤ v ∧ v < 0x110000 ∧ n = v / 262144 + 0xF0) := by
  obtain ⟨hvalue, hleast, hgreatest⟩ := h
  unfold Pending.ofLead? at hlead
  split_ifs at hlead <;> obtain rfl := Option.some.inj hlead <;>
    simp only [tail, Nat.pow_zero, Nat.div_one, Nat.pow_one, Nat.reduceAdd, Nat.reducePow, Nat.reduceEqDiff, true_and,
      false_and, false_or, or_false] at hvalue hleast hgreatest ⊢ <;> omega

theorem exists_char_of_lead (hlead : Pending.ofLead? n = some p) (h : p.Awaits v) :
    ∃ c : Char, c.toNat = v ∧ String.utf8EncodeChar c = UInt8.ofNat n :: tails v p.more := by
  obtain ⟨hscalar, hform⟩ := h.of_lead hlead
  have hvalid : v.isValidChar := by
    unfold Nat.isValidChar
    omega
  have hv := toNat_ofNat hvalid
  refine ⟨Char.ofNat v, hv, ?_⟩
  rcases encodeChar_cases hv with ⟨hone, -⟩ | ⟨htwo, h⟩ | ⟨hthree, h⟩ | ⟨hfour, h⟩
  · omega
  · obtain ⟨hmore, hn⟩ : p.more = 0 ∧ n = v / 64 + 0xC0 := by omega
    rw [h, hmore, hn]
  · obtain ⟨hmore, hn⟩ : p.more = 1 ∧ n = v / 4096 + 0xE0 := by omega
    rw [h, hmore, hn]
  · obtain ⟨hmore, hn⟩ : p.more = 2 ∧ n = v / 262144 + 0xF0 := by omega
    rw [h, hmore, hn]

/-- A byte that opens no sequence opens no character beyond ASCII. -/
theorem lt_of_ofLead?_eq_none {byte : UInt8} {c : Char} (hlead : Pending.ofLead? byte.toNat = none)
    (hfront : [byte] <+: String.utf8EncodeChar c) : byte.toNat < 0x80 := by
  rcases encodeChar_sequence c with ⟨hv, h⟩ | ⟨n, p, hn, hlead', -, -, h⟩
  · rw [h, List.cons_prefix_cons] at hfront
    rw [hfront.1, toNat_byte (by omega)]
    exact hv
  · rw [h, List.cons_prefix_cons] at hfront
    rw [hfront.1, toNat_byte hn.2, hlead'] at hlead
    exact absurd hlead (Option.some_ne_none p)

theorem Pending.HasRead.of_lead {byte : UInt8} (hbyte : 0x80 ≤ byte.toNat)
    (hlead : Pending.ofLead? byte.toNat = some p) : p.HasRead [byte] := by
  have hranges : p.length = 1 ∧ p.least ≤ p.greatest ∧ 0x80 ≤ p.least ∧ p.greatest ≤ 0xBF := by
    have hlead' := hlead
    unfold Pending.ofLead? at hlead'
    split_ifs at hlead' <;> obtain rfl := Option.some.inj hlead' <;> simp
  obtain ⟨hlength, hrange, hleast, hgreatest⟩ := hranges
  refine ⟨hlength.symm, by omega, hrange, hleast, hgreatest, fun v hv => ?_, fun c hfront => ?_⟩
  · simpa using exists_char_of_lead hlead hv
  · rcases encodeChar_sequence c with ⟨hv, h⟩ | ⟨n, p', hn, hlead', hawaits, -, h⟩
    · rw [h, List.cons_prefix_cons] at hfront
      rw [hfront.1, toNat_byte (by omega)] at hbyte
      omega
    · rw [h, List.cons_prefix_cons] at hfront
      rw [hfront.1, toNat_byte hn.2, hlead'] at hlead
      exact Option.some.inj hlead ▸ hawaits

end Leads

namespace Pending.HasRead

variable {p : Pending} {front : List UInt8} {byte : UInt8} {c : Char}

/-- Every byte in the range is the next one of some number that the sequence awaits. -/
theorem exists_awaits (h : p.HasRead front) {n : Nat} (hleast : p.least ≤ n) (hgreatest : n ≤ p.greatest) :
    ∃ v, p.Awaits v ∧ tail v p.more = n := by
  have htail := h.tail_le
  have htail' := h.le_tail
  obtain ⟨bits, rfl⟩ : ∃ bits, n = bits + 0x80 := ⟨n - 0x80, by omega⟩
  have hpos : 0 < 64 ^ p.more := Nat.pow_pos (by decide)
  have hlow : (p.value * 64 + bits) * 64 ^ p.more / 64 ^ p.more = p.value * 64 + bits := Nat.mul_div_cancel _ hpos
  have hnext : tail ((p.value * 64 + bits) * 64 ^ p.more) p.more = bits + 0x80 := by
    rw [tail, hlow]
    omega
  refine ⟨(p.value * 64 + bits) * 64 ^ p.more, ⟨?_, by omega, by omega⟩, hnext⟩
  rw [Nat.pow_succ, ← Nat.div_div_eq_div_mul, hlow]
  omega

theorem encodeChar_eq (h : p.HasRead front) (hfront : front <+: String.utf8EncodeChar c) :
    String.utf8EncodeChar c = front ++ tails c.toNat p.more := by
  obtain ⟨d, hd, hencode⟩ := h.encodes _ (h.awaits c hfront)
  obtain rfl : d = c := by rw [← Char.ofNat_toNat d, hd, Char.ofNat_toNat]
  exact hencode

theorem exists_char (h : p.HasRead front) :
    ∃ c more, String.utf8EncodeChar c = front ++ more ∧ more ≠ [] := by
  obtain ⟨v, hv, -⟩ := h.exists_awaits (Nat.le_refl _) h.least_le
  obtain ⟨c, -, hc⟩ := h.encodes v hv
  refine ⟨c, _, hc, fun hnil => ?_⟩
  have hlength := congrArg List.length hnil
  simp [length_tails] at hlength

/-- The next byte of a character that starts with the bytes read. -/
theorem toNat_byte_eq (h : p.HasRead front) (hfront : front ++ [byte] <+: String.utf8EncodeChar c) :
    byte.toNat = tail c.toNat p.more := by
  have hread : front <+: String.utf8EncodeChar c := (List.prefix_append front [byte]).trans hfront
  rw [h.encodeChar_eq hread, List.prefix_append_right_inj] at hfront
  have hbyte : byte = UInt8.ofNat (tail c.toNat p.more) := by
    cases hmore : p.more with
    | zero =>
      rw [hmore, tails, List.cons_prefix_cons] at hfront
      exact hfront.1
    | succ more =>
      rw [hmore, tails, List.cons_prefix_cons] at hfront
      exact hfront.1
  rw [hbyte, toNat_byte (tail_lt _ _)]

theorem completes (h : p.HasRead front) (hmore : p.more = 0) (hleast : p.least ≤ byte.toNat)
    (hgreatest : byte.toNat ≤ p.greatest) :
    String.utf8EncodeChar (Char.ofNat (p.extend byte.toNat)) = front ++ [byte] := by
  obtain ⟨v, hv, htail⟩ := h.exists_awaits hleast hgreatest
  have hextend := hv.extend_eq
  rw [htail, hmore, Nat.pow_zero, Nat.div_one] at hextend
  obtain ⟨c, rfl, hc⟩ := h.encodes v hv
  rw [hmore] at htail hc
  rw [hextend, Char.ofNat_toNat, hc, tails, htail, UInt8.ofNat_toNat]

theorem next {more : Nat} (h : p.HasRead front) (hmore : p.more = more + 1) (hleast : p.least ≤ byte.toNat)
    (hgreatest : byte.toNat ≤ p.greatest) :
    (⟨p.extend byte.toNat, p.length + 1, 0x80, 0xBF, more⟩ : Pending).HasRead (front ++ [byte]) := by
  have hlow := h.tail_le
  have hhigh := h.le_tail
  refine ⟨by simp [h.length_eq], Nat.succ_pos _, by simp, Nat.le_refl _, Nat.le_refl _, fun v hv => ?_,
    fun c hfront => ?_⟩
  · -- The bits of the byte are those of the number, so the sequence was awaiting it before the byte.
    have hvalue : p.value * 64 + byte.toNat % 64 = v / 64 ^ (more + 1) := hv.value_eq
    have htail : tail v (more + 1) = byte.toNat := by
      rw [tail]
      omega
    have hawaits : p.Awaits v := by
      refine ⟨?_, by rw [hmore]; omega, by rw [hmore]; omega⟩
      rw [hmore, Nat.pow_succ, ← Nat.div_div_eq_div_mul]
      omega
    obtain ⟨c, hc, hencode⟩ := h.encodes v hawaits
    refine ⟨c, hc, ?_⟩
    rw [hencode, hmore, tails, htail, UInt8.ofNat_toNat, List.append_assoc, List.singleton_append]
  · have hread : front <+: String.utf8EncodeChar c := (List.prefix_append front [byte]).trans hfront
    have hextend := (h.awaits c hread).extend_eq
    rw [← h.toNat_byte_eq hfront, hmore] at hextend
    have hbits := Nat.mod_lt (c.toNat / 64 ^ more) (show 0 < 64 by decide)
    refine ⟨hextend, ?_, ?_⟩ <;> simp only [tail] <;> omega

end Pending.HasRead

/-- Why no encoded text can be taken any further from here. Either all that is left begins a character, or it does so
up to a byte that no character has there. -/
inductive Faulty : List UInt8 → Cause → Prop
  | truncated {front more : List UInt8} {c : Char} (hfront : front ≠ []) (hmore : more ≠ [])
      (h : String.utf8EncodeChar c = front ++ more) : Faulty front .truncated
  | malformed {front more : List UInt8} {c : Char} {byte : UInt8} (rest : List UInt8) (hmore : more ≠ [])
      (h : String.utf8EncodeChar c = front ++ more)
      (hnext : ∀ d : Char, ¬ front ++ [byte] <+: String.utf8EncodeChar d) :
      Faulty (front ++ byte :: rest) (.malformed (max 1 front.length))

/-- What has come of bytes that are decoded from an offset. -/
def Decoded (offset : Nat) (bytes : List UInt8) : Except Fault (List Char) → Prop
  | .ok text => bytes = encode text
  | .error f => ∃ text rest, bytes = encode text ++ rest ∧ f.validUpTo = offset + (encode text).length ∧
      Faulty rest f.cause

section Faults

variable {p : Pending} {front rest : List UInt8} {byte : UInt8}

theorem Pending.HasRead.truncated (h : p.HasRead front) : Faulty front .truncated := by
  obtain ⟨c, more, hc, hmore⟩ := h.exists_char
  have hfront : front ≠ [] := List.length_pos_iff.mp (h.length_eq ▸ h.length_pos)
  exact .truncated hfront hmore hc

theorem Pending.HasRead.malformed (h : p.HasRead front) (hbyte : ¬ (p.least ≤ byte.toNat ∧ byte.toNat ≤ p.greatest)) :
    Faulty (front ++ byte :: rest) (.malformed p.length) := by
  obtain ⟨c, more, hc, hmore⟩ := h.exists_char
  have hnext : ∀ d : Char, ¬ front ++ [byte] <+: String.utf8EncodeChar d := by
    intro d hfront
    have hawaits := h.awaits d ((List.prefix_append front [byte]).trans hfront)
    rw [h.toNat_byte_eq hfront] at hbyte
    exact hbyte ⟨hawaits.least_le, hawaits.le_greatest⟩
  have hfaulty := Faulty.malformed rest hmore hc hnext
  rwa [h.length_eq, Nat.max_eq_right h.length_pos] at hfaulty

theorem malformed_of_lead (hbyte : ¬ byte.toNat < 0x80) (hlead : Pending.ofLead? byte.toNat = none) :
    Faulty (byte :: rest) (.malformed 1) := by
  have hnext : ∀ d : Char, ¬ [] ++ [byte] <+: String.utf8EncodeChar d :=
    fun d hfront => hbyte (lt_of_ofLead?_eq_none hlead hfront)
  have hsome : String.utf8EncodeChar 'a' = [] ++ String.utf8EncodeChar 'a' := rfl
  exact .malformed rest String.utf8EncodeChar_ne_nil hsome hnext

end Faults

theorem Decoded.cons {offset : Nat} {front bytes : List UInt8} {r : Except Fault (List Char)} {c : Char}
    (hc : String.utf8EncodeChar c = front) (h : Decoded (offset + front.length) bytes r) :
    Decoded offset (front ++ bytes) (r.map (c :: ·)) := by
  have hencode : ∀ text, encode (c :: text) = front ++ encode text := fun _ => hc ▸ List.flatMap_cons
  cases r with
  | ok text => exact (congrArg _ h).trans (hencode text).symm
  | error f =>
    obtain ⟨text, rest, rfl, hoffset, hfaulty⟩ := h
    refine ⟨c :: text, rest, by rw [hencode, List.append_assoc], ?_, hfaulty⟩
    rw [hencode, List.length_append, ← Nat.add_assoc]
    exact hoffset

theorem Faulty.decoded {offset : Nat} {bytes : List UInt8} {cause : Cause} (h : Faulty bytes cause) :
    Decoded offset bytes (.error ⟨offset, cause⟩) :=
  ⟨[], bytes, rfl, rfl, h⟩

/-- The bytes that have been read of the sequence that is pending, if one is. -/
inductive Reads : Option Pending → List UInt8 → Prop
  | start : Reads none []
  | within {p : Pending} {front : List UInt8} (h : p.HasRead front) : Reads (some p) front

/-- What one byte does. It completes a character, or one more byte of a sequence has been read, or decoding stops at
it whatever comes next. -/
theorem Reads.step {pending : Option Pending} {front : List UInt8} (h : Reads pending front) (offset : Nat)
    (byte : UInt8) :
    (∃ c, String.utf8EncodeChar c = front ++ [byte] ∧ ∀ rest, decodeFrom offset pending (byte :: rest) =
        (decodeFrom (offset + (front ++ [byte]).length) none rest).map (c :: ·)) ∨
      (∃ p : Pending, p.HasRead (front ++ [byte]) ∧
        ∀ rest, decodeFrom offset pending (byte :: rest) = decodeFrom offset (some p) rest) ∨
      ∃ n, ∀ rest, Faulty (front ++ byte :: rest) (.malformed n) ∧
        decodeFrom offset pending (byte :: rest) = .error ⟨offset, .malformed n⟩ := by
  cases h with
  | start =>
    by_cases hbyte : byte.toNat < 0x80
    · exact .inl ⟨_, encodeChar_ascii hbyte, fun rest => by rw [decodeFrom, if_pos hbyte]; rfl⟩
    cases hlead : Pending.ofLead? byte.toNat with
    | none =>
      refine .inr (.inr ⟨1, fun rest => ⟨malformed_of_lead hbyte hlead, ?_⟩⟩)
      rw [decodeFrom, if_neg hbyte, hlead]
    | some p =>
      refine .inr (.inl ⟨p, .of_lead (Nat.not_lt.mp hbyte) hlead, fun rest => ?_⟩)
      rw [decodeFrom, if_neg hbyte, hlead]
  | @within p _ hread =>
    by_cases hbyte : p.least ≤ byte.toNat ∧ byte.toNat ≤ p.greatest
    · cases hmore : p.more with
      | zero =>
        refine .inl ⟨_, hread.completes hmore hbyte.1 hbyte.2, fun rest => ?_⟩
        rw [decodeFrom, if_pos hbyte, hmore, List.length_append, hread.length_eq]
        rfl
      | succ more =>
        refine .inr (.inl ⟨_, hread.next hmore hbyte.1 hbyte.2, fun rest => ?_⟩)
        rw [decodeFrom, if_pos hbyte, hmore]
    · refine .inr (.inr ⟨p.length, fun rest => ⟨hread.malformed hbyte, ?_⟩⟩)
      rw [decodeFrom, if_neg hbyte]

theorem decoded_decodeFrom {offset : Nat} {pending : Option Pending} {front bytes : List UInt8}
    (h : Reads pending front) : Decoded offset (front ++ bytes) (decodeFrom offset pending bytes) := by
  induction bytes generalizing offset pending front with
  | nil =>
    rw [List.append_nil]
    cases h with
    | start => exact rfl
    | within hread => exact hread.truncated.decoded
  | cons byte rest ih =>
    rcases h.step offset byte with ⟨c, hc, hstep⟩ | ⟨p, hread, hstep⟩ | ⟨n, hstep⟩
    · rw [hstep, List.append_cons]
      exact .cons hc (ih .start)
    · rw [hstep, List.append_cons]
      exact ih (.within hread)
    · rw [(hstep rest).2]
      exact (hstep rest).1.decoded

theorem decoded_decode (bytes : List UInt8) : Decoded 0 bytes (decode bytes) :=
  decoded_decodeFrom .start

theorem decode_eq_ok_iff {bytes : List UInt8} {text : List Char} :
    decode bytes = .ok text ↔ bytes = encode text := by
  constructor
  · intro h
    have hdecoded := decoded_decode bytes
    rwa [h] at hdecoded
  · rintro rfl
    exact decode_encode text

theorem map_eq_error_iff {α β : Type} {r : Except Fault α} {g : α → β} {f : Fault} :
    r.map g = .error f ↔ r = .error f := by
  cases r <;> simp [Except.map]

theorem decodeFrom_append_of_malformed {offset : Nat} {pending : Option Pending} {front bytes : List UInt8} {v n : Nat}
    (hreads : Reads pending front) (h : decodeFrom offset pending bytes = .error ⟨v, .malformed n⟩)
    (more : List UInt8) : decodeFrom offset pending (bytes ++ more) = .error ⟨v, .malformed n⟩ := by
  induction bytes generalizing offset pending front with
  | nil => cases pending <;> cases h
  | cons byte rest ih =>
    rw [List.cons_append]
    rcases hreads.step offset byte with ⟨c, hc, hstep⟩ | ⟨p, hread, hstep⟩ | ⟨m, hstep⟩
    · rw [hstep, map_eq_error_iff] at h ⊢
      exact ih .start h
    · rw [hstep] at h ⊢
      exact ih (.within hread) h
    · rw [(hstep _).2] at h ⊢
      exact h

def IsEncoded (bytes : List UInt8) : Prop :=
  ∃ text, bytes = encode text

section Verdict

variable {bytes : List UInt8} {f : Fault}

theorem exists_faulty_of_decode (h : decode bytes = .error f) :
    ∃ text rest, bytes = encode text ++ rest ∧ f.validUpTo = (encode text).length ∧ Faulty rest f.cause := by
  have hdecoded := decoded_decode bytes
  rw [h] at hdecoded
  obtain ⟨text, rest, hbytes, hoffset, hfaulty⟩ := hdecoded
  exact ⟨text, rest, hbytes, hoffset.trans (Nat.zero_add _), hfaulty⟩

theorem isLongestPrefix_validUpTo (h : decode bytes = .error f) : f.validUpTo ≤ bytes.length ∧
    IsLongestPrefix IsEncoded bytes (bytes.take f.validUpTo) := by
  obtain ⟨text, rest, hbytes, hoffset, -⟩ := exists_faulty_of_decode h
  have hfront : bytes.take f.validUpTo = encode text := by rw [hbytes, hoffset, List.take_left]
  have hle : f.validUpTo ≤ bytes.length := by
    rw [hbytes, hoffset, List.length_append]
    exact Nat.le_add_right _ _
  refine ⟨hle, ⟨text, hfront⟩, List.take_prefix _ _, ?_⟩
  rintro _ ⟨other, rfl⟩ ⟨after, hafter⟩
  -- Decoding passes whatever is encoded, so that the fault cannot come before its end.
  rw [List.length_take_of_le hle]
  have hpassed : decode bytes = _ := hafter ▸ decodeFrom_encode_append 0 other after
  have hlater : decodeFrom (0 + (encode other).length) none after = .error f :=
    map_eq_error_iff.mp (hpassed.symm.trans h)
  have hdecoded : Decoded (0 + (encode other).length) after _ := decoded_decodeFrom .start
  rw [hlater] at hdecoded
  obtain ⟨_, _, _, hoffset', -⟩ := hdecoded
  omega

theorem cause_eq_truncated_iff (h : decode bytes = .error f) :
    f.cause = .truncated ↔ ∃ more, more ≠ [] ∧ IsEncoded (bytes ++ more) := by
  obtain ⟨text, rest, hbytes, -, hfaulty⟩ := exists_faulty_of_decode h
  obtain ⟨v, cause⟩ := f
  constructor
  · rintro rfl
    cases hfaulty with
    | @truncated _ more c hfront hmore hc =>
      have hencode : encode (text ++ [c]) = encode text ++ String.utf8EncodeChar c := by simp [encode]
      exact ⟨more, hmore, text ++ [c], by rw [hbytes, hencode, hc, List.append_assoc]⟩
  · rintro ⟨more, -, text', htext'⟩
    cases cause with
    | truncated => rfl
    | malformed n =>
      have hagain := decodeFrom_append_of_malformed .start h more
      have hboth := hagain.symm.trans (decode_eq_ok_iff.mpr htext')
      cases hboth

theorem cause_eq_malformed (h : decode bytes = .error f) (hcause : f.cause ≠ .truncated) : ∃ front,
    IsLongestPrefix (fun front => ∃ c : Char, front <+: String.utf8EncodeChar c) (bytes.drop f.validUpTo) front ∧
      f.cause = .malformed (max 1 front.length) ∧ front.length ≤ 3 := by
  obtain ⟨text, rest, hbytes, hoffset, hfaulty⟩ := exists_faulty_of_decode h
  have hdrop : bytes.drop f.validUpTo = rest := by rw [hbytes, hoffset, List.drop_left]
  rw [hdrop]
  obtain ⟨v, cause⟩ := f
  cases hfaulty with
  | truncated => exact absurd rfl hcause
  | @malformed front more c byte rest hmore hc hnext =>
    have hfront : front <+: String.utf8EncodeChar c := ⟨more, hc.symm⟩
    refine ⟨front, isLongestPrefix_of_stop ⟨c, hfront⟩ ?_, rfl, ?_⟩
    · rintro other ⟨d, hd⟩ hother
      exact hnext d (hother.trans hd)
    · have hlength := congrArg List.length hc
      have hsize := Char.utf8Size_le_four c
      have hpos := List.length_pos_iff.mpr hmore
      rw [String.length_utf8EncodeChar, List.length_append] at hlength
      omega

end Verdict

end ScriptLexer.Utf8

namespace ScriptLexer

open Utf8

theorem DecodeError.tip_eq_iff (e : DecodeError) :
    e.tip = "The source ends in the middle of a multi-byte character, was the file truncated?" ↔
      e.fault.cause = .truncated := by
  unfold tip
  cases e.fault.cause <;> simp

namespace Lexer

theorem ofBytes_eq (bytes : List UInt8) (file : Option String) (o : Options) : ofBytes bytes file o =
    match decode bytes with
    | .ok text => .ok (ofText text o (file.getD defaultFile))
    | .error f => .error (.ofFault f (file.getD defaultFile)) := by
  rw [ofBytes, decodeSource]
  cases decode bytes <;> rfl

/-- A lexer is made of encoded text and of nothing else, and it stands at the start of that text. -/
theorem ofBytes_decodes (bytes : List UInt8) (file : Option String) (o : Options) :
    let name := file.getD "shell"
    (∀ l, ofBytes bytes file o = .ok l ↔
        ∃ text, bytes = encode text ∧ l = ⟨⟨text, text, 0, 1⟩, .initial, o, name, false⟩) ∧
      ((∃ e, ofBytes bytes file o = .error e) ↔ ¬ IsEncoded bytes) ∧
      ∀ e, ofBytes bytes file o = .error e →
        e.file = name ∧
        e.fault.validUpTo ≤ bytes.length ∧
        IsLongestPrefix IsEncoded bytes (bytes.take e.fault.validUpTo) ∧
        e.position.toNat = e.fault.validUpTo % UInt32.size ∧
        (e.fault.cause = .truncated ↔ ∃ more, more ≠ [] ∧ IsEncoded (bytes ++ more)) ∧
        (e.tip = "The source ends in the middle of a multi-byte character, was the file truncated?" ↔
          e.fault.cause = .truncated) ∧
        (e.fault.cause ≠ .truncated → ∃ front,
          IsLongestPrefix (fun front => ∃ c : Char, front <+: String.utf8EncodeChar c)
            (bytes.drop e.fault.validUpTo) front ∧
          e.fault.cause = .malformed (max 1 front.length) ∧ front.length ≤ 3) := by
  intro name
  rw [ofBytes_eq]
  cases hdecode : decode bytes with
  | ok text =>
    have hbytes : bytes = encode text := decode_eq_ok_iff.mp hdecode
    refine ⟨fun l => ⟨?_, ?_⟩, by simp [IsEncoded, hbytes], by simp⟩
    · rintro ⟨⟩
      exact ⟨text, hbytes, rfl⟩
    · rintro ⟨text', htext', rfl⟩
      obtain rfl : text = text' := by
        rw [decode_eq_ok_iff.mpr htext'] at hdecode
        exact (Except.ok.inj hdecode).symm
      rfl
  | error f =>
    have hnot : ¬ IsEncoded bytes := by
      rintro ⟨text, htext⟩
      rw [decode_eq_ok_iff.mpr htext] at hdecode
      cases hdecode
    refine ⟨fun l => ⟨fun h => ?_, ?_⟩, ?_, ?_⟩
    · cases h
    · rintro ⟨text, htext, -⟩
      exact absurd ⟨text, htext⟩ hnot
    · simp [hnot]
    · rintro e ⟨⟩
      obtain ⟨hle, hlongest⟩ := isLongestPrefix_validUpTo hdecode
      exact ⟨rfl, hle, hlongest, rfl, cause_eq_truncated_iff hdecode, DecodeError.tip_eq_iff _,
        cause_eq_malformed hdecode⟩

end Lexer

end ScriptLexer
