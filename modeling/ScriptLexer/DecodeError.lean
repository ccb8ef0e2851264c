import ScriptLexer.Utf8

/-! The one error of the lexer: a source that is not UTF-8. Everything else that may be wrong with a
source is reported by tokens. -/

namespace ScriptLexer

structure DecodeError where
  fault : Utf8.Fault
  /-- The offset of the fault, as far as it fits a word of 32 bits. -/
  position : UInt32
  file : String
  deriving DecidableEq, Repr

namespace DecodeError

def ofFault (fault : Utf8.Fault) (file : String) : DecodeError :=
  ⟨fault, UInt32.ofNat fault.validUpTo, file⟩

def name (_ : DecodeError) : String :=
  "InvalidUtf8"

def message (e : DecodeError) : String :=
  e.fault.message ++ " in " ++ e.file

def tip (e : DecodeError) : String :=
  match e.fault.cause with
  | .truncated => "The source ends in the middle of a multi-byte character, was the file truncated?"
  | .malformed _ => "Source files must be encoded as UTF-8"

end DecodeError

def decodeSource (bytes : List UInt8) (file : String) : Except DecodeError (List Char) :=
  (Utf8.decode bytes).mapError (DecodeError.ofFault · file)

end ScriptLexer
