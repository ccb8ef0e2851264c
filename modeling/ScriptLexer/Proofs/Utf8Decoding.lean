import Mathlib.Algebra.Group.Nat.Defs
import ScriptLexer.Utf8

/-! Decoding undoes encoding. A sequence is a byte that opens it and its tails, which carry six bits each from the
highest to the lowest, and while it is pending the bits that it has taken are those of the encoded number. -/

namespace ScriptLexer.Utf8

/-- The byte for six bits of a number, with a number of tails to come after it. -/
def tail (v more : Nat) : Nat :=
  v / 64 ^ more % 64 + 0x80

def tails (v : Nat) : Nat → List UInt8
  | 0 => [UInt8.ofNat (tail v 0)]
  | more + 1 => UInt8.ofNat (tail v (more + 1)) :: tails v more

/-- The sequence has taken the higher bits of the number and may go on with the tail for the next ones. -/
structure Pending.Awaits (p : Pending) (v : Nat) : Prop where
  value_eq : p.value = v / 64 ^ (p.more + 1)
  least_le : p.least ≤ tail v p.more
  le_greatest : tail v p.more ≤ p.greatest

section Steps

variable {offset n v : Nat} {p : Pending} {rest : List UInt8}

theorem toNat_byte (hn : n < 0x100) : (UInt8.ofNat n).toNat = n :=
  UInt8.toNat_ofNat_of_lt' hn

theorem tail_lt (v more : Nat) : tail v more < 0x100 := by
  have := Nat.mod_lt (v / 64 ^ more) (show 0 < 64 by decide)
  rw [tail]
  omega

theorem Pending.Awaits.extend_eq (h : p.Awaits v) : p.extend (tail v p.more) = v / 64 ^ p.more := by
  have hdiv : v / 64 ^ (p.more + 1) = v / 64 ^ p.more / 64 := by
    rw [Nat.pow_succ, Nat.div_div_eq_div_mul]
  rw [Pending.extend, h.value_eq, hdiv, tail]
  omega

theorem decodeFrom_ascii (hn : n < 0x80) : decodeFrom offset none (UInt8.ofNat n :: rest) =
    (decodeFrom (offset + 1) none rest).map (Char.ofNat n :: ·) := by
  rw [decodeFrom, toNat_byte (by omega), if_pos hn]

theorem decodeFrom_lead (hn : 0x80 ≤ n) (hn' : n < 0x100) (hlead : Pending.ofLead? n = some p) :
    decodeFrom offset none (UInt8.ofNat n :: rest) = decodeFrom offset (some p) rest := by
  rw [decodeFrom, toNat_byte hn', if_neg (Nat.not_lt.mpr hn), hlead]

theorem decodeFrom_tails (h : p.Awaits v) : decodeFrom offset (some p) (tails v p.more ++ rest) =
    (decodeFrom (offset + p.length + p.more + 1) none rest).map (Char.ofNat v :: ·) := by
  induction hmore : p.more generalizing p with
  | zero =>
    have hnext := h.extend_eq
    have hrange := And.intro h.least_le h.le_greatest
    rw [hmore] at hnext hrange
    rw [tails, List.singleton_append, decodeFrom, toNat_byte (tail_lt v 0), if_pos hrange, hmore, hnext]
    simp
  | succ more ih =>
    have hnext := h.extend_eq
    have hrange := And.intro h.least_le h.le_greatest
    rw [hmore] at hnext hrange
    rw [tails, List.cons_append, decodeFrom, toNat_byte (tail_lt v (more + 1)), if_pos hrange, hmore, hnext]
    have hawaits : Pending.Awaits ⟨v / 64 ^ (more + 1), p.length + 1, 0x80, 0xBF, more⟩ v := by
      have hbits := Nat.mod_lt (v / 64 ^ more) (show 0 < 64 by decide)
      refine ⟨rfl, ?_, ?_⟩ <;> simp only [tail] <;> omega
    simpa [Nat.add_assoc, Nat.add_comm, Nat.add_left_comm] using ih hawaits rfl

end Steps

section Leads

variable {v : Nat}

theorem ofLead?_two (hlow : 0x80 ≤ v) (hhigh : v < 0x800) :
    ∃ p, Pending.ofLead? (v / 64 + 0xC0) = some p ∧ p.Awaits v ∧ p.length = 1 ∧ p.more = 0 := by
  refine ⟨⟨v / 64, 1, 0x80, 0xBF, 0⟩, ?_, ⟨rfl, ?_, ?_⟩, rfl, rfl⟩
  · rw [Pending.ofLead?, if_neg (by omega), if_pos (by omega), Nat.add_sub_cancel]
  · simp only [tail]; omega
  · simp only [tail]; omega

/-- The second byte is restricted where three bytes would be too many, and where they would make a surrogate. -/
theorem ofLead?_three (hlow : 0x800 ≤ v) (hhigh : v < 0x10000) (hsurrogate : v < 0xD800 ∨ 0xDFFF < v) :
    ∃ p, Pending.ofLead? (v / 4096 + 0xE0) = some p ∧ p.Awaits v ∧ p.length = 1 ∧ p.more = 1 := by
  have hlead : v / 4096 < 0x10 := by omega
  rw [Pending.ofLead?, if_neg (by omega), if_neg (by omega)]
  by_cases hfirst : v / 4096 = 0
  · refine ⟨⟨0, 1, 0xA0, 0xBF, 1⟩, by rw [if_pos (by omega)], ⟨hfirst.symm, ?_, ?_⟩, rfl, rfl⟩
    · simp only [tail]; omega
    · simp only [tail]; omega
  by_cases hlast : v / 4096 = 0xD
  · refine ⟨⟨0xD, 1, 0x80, 0x9F, 1⟩, ?_, ⟨hlast.symm, ?_, ?_⟩, rfl, rfl⟩
    · rw [if_neg (by omega), if_pos (by omega)]
    · simp only [tail]; omega
    · simp only [tail]; omega
  · refine ⟨⟨v / 4096, 1, 0x80, 0xBF, 1⟩, ?_, ⟨rfl, ?_, ?_⟩, rfl, rfl⟩
    · rw [if_neg (by omega), if_neg (by omega), if_pos (by omega), Nat.add_sub_cancel]
    · simp only [tail]; omega
    · simp only [tail]; omega

/-- The second byte is restricted where four bytes would be too many, and where the number would be too large. -/
theorem ofLead?_four (hlow : 0x10000 ≤ v) (hhigh : v < 0x110000) :
    ∃ p, Pending.ofLead? (v / 262144 + 0xF0) = some p ∧ p.Awaits v ∧ p.length = 1 ∧ p.more = 2 := by
  have hlead : v / 262144 < 5 := by omega
  rw [Pending.ofLead?, if_neg (by omega), if_neg (by omega), if_neg (by omega), if_neg (by omega),
    if_neg (by omega)]
  by_cases hfirst : v / 262144 = 0
  · refine ⟨⟨0, 1, 0x90, 0xBF, 2⟩, by rw [if_pos (by omega)], ⟨hfirst.symm, ?_, ?_⟩, rfl, rfl⟩
    · simp only [tail]; omega
    · simp only [tail]; omega
  by_cases hlast : v / 262144 = 4
  · refine ⟨⟨4, 1, 0x80, 0x8F, 2⟩, ?_, ⟨hlast.symm, ?_, ?_⟩, rfl, rfl⟩
    · rw [if_neg (by omega), if_neg (by omega), if_pos (by omega)]
    · simp only [tail]; omega
    · simp only [tail]; omega
  · refine ⟨⟨v / 262144, 1, 0x80, 0xBF, 2⟩, ?_, ⟨rfl, ?_, ?_⟩, rfl, rfl⟩
    · rw [if_neg (by omega), if_pos (by omega), Nat.add_sub_cancel]
    · simp only [tail]; omega
    · simp only [tail]; omega

end Leads

/-- The four forms of an encoded character. -/
theorem encodeChar_cases {v : Nat} {c : Char} (hv : c.toNat = v) :
    v < 0x80 ∧ String.utf8EncodeChar c = [UInt8.ofNat v] ∨
      (0x80 ≤ v ∧ v < 0x800) ∧ String.utf8EncodeChar c = UInt8.ofNat (v / 64 + 0xC0) :: tails v 0 ∨
      (0x800 ≤ v ∧ v < 0x10000) ∧ String.utf8EncodeChar c = UInt8.ofNat (v / 4096 + 0xE0) :: tails v 1 ∨
      (0x10000 ≤ v ∧ v < 0x110000) ∧
        String.utf8EncodeChar c = UInt8.ofNat (v / 262144 + 0xF0) :: tails v 2 := by
  have hvalid : c.toNat < 0xD800 ∨ 0xDFFF < c.toNat ∧ c.toNat < 0x110000 := c.valid
  have hval : c.val.toNat = v := hv
  unfold String.utf8EncodeChar
  simp only [hval]
  rw [hv] at hvalid
  simp only [tails, tail, Nat.pow_zero, Nat.div_one, Nat.pow_one, Nat.reduceAdd, Nat.reducePow, Nat.zero_add]
  by_cases hone : v ≤ 127
  · rw [if_pos hone]
    exact .inl ⟨by omega, rfl⟩
  by_cases htwo : v ≤ 2047
  · have hbits : v / 64 % 32 = v / 64 := by omega
    rw [if_neg hone, if_pos htwo, hbits]
    exact .inr (.inl ⟨by omega, rfl⟩)
  by_cases hthree : v ≤ 65535
  · have hbits : v / 4096 % 16 = v / 4096 := by omega
    rw [if_neg hone, if_neg htwo, if_pos hthree, hbits]
    exact .inr (.inr (.inl ⟨by omega, rfl⟩))
  · have hbits : v / 262144 % 8 = v / 262144 := by omega
    rw [if_neg hone, if_neg htwo, if_neg hthree, hbits]
    exact .inr (.inr (.inr ⟨by omega, rfl⟩))

theorem length_tails (v more : Nat) : (tails v more).length = more + 1 := by
  induction more with
  | zero => rfl
  | succ more ih => rw [tails, List.length_cons, ih]

/-- An encoded character is one byte, or a byte that opens a sequence and the tails that the sequence awaits. -/
theorem encodeChar_sequence (c : Char) :
    c.toNat < 0x80 ∧ String.utf8EncodeChar c = [UInt8.ofNat c.toNat] ∨
      ∃ n p, (0x80 ≤ n ∧ n < 0x100) ∧ Pending.ofLead? n = some p ∧ p.Awaits c.toNat ∧ p.length = 1 ∧
        String.utf8EncodeChar c = UInt8.ofNat n :: tails c.toNat p.more := by
  have hvalid : c.toNat < 0xD800 ∨ 0xDFFF < c.toNat ∧ c.toNat < 0x110000 := c.valid
  rcases encodeChar_cases (c := c) rfl with hone | ⟨hv, h⟩ | ⟨hv, h⟩ | ⟨hv, h⟩
  · exact .inl hone
  · obtain ⟨p, hlead, hawaits, hlength, hmore⟩ := ofLead?_two hv.1 hv.2
    exact .inr ⟨_, p, by omega, hlead, hawaits, hlength, hmore ▸ h⟩
  · obtain ⟨p, hlead, hawaits, hlength, hmore⟩ := ofLead?_three hv.1 hv.2 (by omega)
    exact .inr ⟨_, p, by omega, hlead, hawaits, hlength, hmore ▸ h⟩
  · obtain ⟨p, hlead, hawaits, hlength, hmore⟩ := ofLead?_four hv.1 hv.2
    exact .inr ⟨_, p, by omega, hlead, hawaits, hlength, hmore ▸ h⟩

theorem decodeFrom_encodeChar (offset : Nat) (c : Char) (rest : List UInt8) :
    decodeFrom offset none (String.utf8EncodeChar c ++ rest) =
      (decodeFrom (offset + (String.utf8EncodeChar c).length) none rest).map (c :: ·) := by
  have hchar : Char.ofNat c.toNat = c := Char.ofNat_toNat c
  rcases encodeChar_sequence c with ⟨hv, h⟩ | ⟨n, p, hn, hlead, hawaits, hlength, h⟩
  · rw [h, List.singleton_append, decodeFrom_ascii hv, hchar]
    rfl
  · rw [h, List.cons_append, decodeFrom_lead hn.1 hn.2 hlead, decodeFrom_tails hawaits, hchar, hlength,
      List.length_cons, length_tails]
    simp only [Nat.add_comm, Nat.add_left_comm]

theorem decodeFrom_encode_append (offset : Nat) (text : List Char) (rest : List UInt8) :
    decodeFrom offset none (encode text ++ rest) =
      (decodeFrom (offset + (encode text).length) none rest).map (text ++ ·) := by
  induction text generalizing offset with
  | nil => cases h : decodeFrom offset none rest <;> simp [encode, h, Except.map]
  | cons c text ih =>
    have hencode : encode (c :: text) = String.utf8EncodeChar c ++ encode text := List.flatMap_cons
    rw [hencode, List.append_assoc, decodeFrom_encodeChar, ih, List.length_append, Nat.add_assoc]
    cases decodeFrom (offset + ((String.utf8EncodeChar c).length + (encode text).length)) none rest <;> rfl

theorem decode_encode (text : List Char) : decode (encode text) = .ok text := by
  have h := decodeFrom_encode_append 0 text []
  rwa [List.append_nil, decodeFrom, Except.map, List.append_nil] at h

end ScriptLexer.Utf8
