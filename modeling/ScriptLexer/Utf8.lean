/-! UTF-8. Decoding reads one byte at a time and knows, inside a sequence, which bytes may come next:
the second byte after `E0`, `ED`, `F0` and `F4` is restricted, so that overlong forms, surrogates and
numbers beyond Unicode are refused at the first byte that rules them out. -/

namespace ScriptLexer.Utf8

def encode (text : List Char) : List UInt8 :=
  text.flatMap String.utf8EncodeChar

inductive Cause where
  /-- The bytes end inside a sequence that is well-formed so far. -/
  | truncated
  /-- A sequence goes wrong after this many bytes; it has one even if its first byte is the wrong one. -/
  | malformed (length : Nat)
  deriving DecidableEq, Repr

/-- Why bytes are not UTF-8, after how many bytes that are. -/
structure Fault where
  validUpTo : Nat
  cause : Cause
  deriving DecidableEq, Repr

def Fault.message (f : Fault) : String :=
  "invalid UTF-8 at byte " ++ toString f.validUpTo

/-- A sequence that is not yet complete. -/
structure Pending where
  value : Nat
  length : Nat
  least : Nat
  greatest : Nat
  /-- How many bytes are to come after the next one. -/
  more : Nat
  deriving DecidableEq, Repr

/-- The sequence that a byte beyond ASCII opens, if it may open one. -/
def Pending.ofLead? (b : Nat) : Option Pending :=
  if b < 0xC2 then none
  else if b < 0xE0 then some ⟨b - 0xC0, 1, 0x80, 0xBF, 0⟩
  else if b = 0xE0 then some ⟨0, 1, 0xA0, 0xBF, 1⟩
  else if b = 0xED then some ⟨0xD, 1, 0x80, 0x9F, 1⟩
  else if b < 0xF0 then some ⟨b - 0xE0, 1, 0x80, 0xBF, 1⟩
  else if b = 0xF0 then some ⟨0, 1, 0x90, 0xBF, 2⟩
  else if b < 0xF4 then some ⟨b - 0xF0, 1, 0x80, 0xBF, 2⟩
  else if b = 0xF4 then some ⟨4, 1, 0x80, 0x8F, 2⟩
  else none

/-- The number after one more byte, of which the low six bits count. -/
def Pending.extend (p : Pending) (b : Nat) : Nat :=
  p.value * 64 + b % 64

/-- Reads on from a place where `offset` bytes have been decoded and a sequence may be pending. -/
def decodeFrom (offset : Nat) : Option Pending → List UInt8 → Except Fault (List Char)
  | none, [] => .ok []
  | some _, [] => .error ⟨offset, .truncated⟩
  | none, byte :: rest =>
    let b := byte.toNat
    if b < 0x80 then (decodeFrom (offset + 1) none rest).map (Char.ofNat b :: ·)
    else
      match Pending.ofLead? b with
      | none => .error ⟨offset, .malformed 1⟩
      | some p => decodeFrom offset (some p) rest
  | some p, byte :: rest =>
    let b := byte.toNat
    if p.least ≤ b ∧ b ≤ p.greatest then
      match p.more with
      | 0 => (decodeFrom (offset + p.length + 1) none rest).map (Char.ofNat (p.extend b) :: ·)
      | more + 1 => decodeFrom offset (some ⟨p.extend b, p.length + 1, 0x80, 0xBF, more⟩) rest
    else .error ⟨offset, .malformed p.length⟩

def decode (bytes : List UInt8) : Except Fault (List Char) :=
  decodeFrom 0 none bytes

end ScriptLexer.Utf8
