/-! What the lexer reports besides the tokens of the language. Both options are off unless they are
switched on. -/

namespace ScriptLexer

structure Options where
  /-- Comments are reported as tokens and not skipped. -/
  comments : Bool := false
  /-- Line breaks are reported as tokens and not skipped. -/
  newlines : Bool := false
  deriving DecidableEq, Repr

namespace Options

def withComments (o : Options) : Options :=
  { o with comments := true }

def withNewlines (o : Options) : Options :=
  { o with newlines := true }

def description (o : Options) : String :=
  "LexerConfig \x7b emit_comments: " ++ toString o.comments ++
    ", newline_significant: " ++ toString o.newlines ++ " \x7d"

end Options

end ScriptLexer
