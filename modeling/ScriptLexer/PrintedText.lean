import ScriptLexer.Unicode.ExtendingMark
import ScriptLexer.Unicode.Unprintable

/-! The printed form of a text: between double quotes, with escapes for quotes, backslashes and all
characters that would not show as themselves. No two texts print alike. -/

namespace ScriptLexer

/-- The number of a code point in lower-case hexadecimal digits, without leading zeros. -/
def hexDigits (c : Char) : List Char :=
  Nat.toDigits 16 c.toNat

def printedChar (c : Char) : List Char :=
  if c = '\x00' then ['\\', '0']
  else if c = '\t' then ['\\', 't']
  else if c = '\n' then ['\\', 'n']
  else if c = '\r' then ['\\', 'r']
  else if c = '"' || c = '\\' then ['\\', c]
  else if Unicode.isExtendingMark c || Unicode.isUnprintable c then
    ['\\', 'u', '\x7b'] ++ hexDigits c ++ ['\x7d']
  else [c]

def printedText (text : List Char) : List Char :=
  '"' :: text.flatMap printedChar ++ ['"']

end ScriptLexer
