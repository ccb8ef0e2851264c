import ScriptLexer.Kind
import ScriptLexer.PrintedText

/-! Tokens: what the lexer hands on. The line is the one on which the token starts. -/

namespace ScriptLexer

structure Token where
  kind : Kind
  literal : String
  line : Nat
  deriving DecidableEq, Repr

namespace Token

def isEof (t : Token) : Bool :=
  t.kind = .eof

def isOneOf (t : Token) (kinds : List Kind) : Bool :=
  kinds.contains t.kind

/-- One line of text from which kind, literal and line can be read back. -/
def render (t : Token) : String :=
  t.kind.name ++ "(" ++ String.ofList (printedText t.literal.toList) ++ ") at line " ++ toString t.line

end Token

end ScriptLexer
