import ScriptLexer.Lexer

/-! The log of a run: what the lexer was given, what it made of it, and every token with the contexts
before and after it. -/

namespace ScriptLexer

inductive Event where
  | opened (file : Option String) (bytes : Nat)
  | undecodable (file : String) (offset : Nat)
  | created (file : String) (options : Options) (chars : Nat)
  | unterminated (file : String) (line : Nat)
  | emitted (token : Token) (before after : Context)
  deriving DecidableEq, Repr

namespace Event

def level : Event → String
  | .emitted .. => "TRACE"
  | _ => "DEBUG"

def message : Event → String
  | .opened .. => "tokenize_with"
  | .undecodable .. => "source is not valid UTF-8"
  | .created .. => "created lexer"
  | .unterminated .. => "unterminated string"
  | .emitted .. => "emitted token"

def printedFile : Option String → String
  | none => "None"
  | some name => "Some(" ++ String.ofList (printedText name.toList) ++ ")"

/-- What the event tells, by name in ascending order. -/
def fields : Event → List (String × String)
  | .opened file bytes => [("file", printedFile file), ("len", toString bytes)]
  | .undecodable file offset => [("file", file), ("offset", toString offset)]
  | .created file options chars =>
    [("chars", toString chars), ("config", options.description), ("file", file)]
  | .unterminated file line => [("file", file), ("line", toString line)]
  | .emitted token before after =>
    [("from", before.name), ("kind", token.kind.name), ("line", toString token.line),
      ("literal", token.literal), ("to", after.name)]

end Event

/-- The events of one pulled token. That a string is unterminated is told before its token. -/
def Emission.events (file : String) (e : Emission) : List Event :=
  (if e.lexeme.unterminated then [.unterminated file e.line] else []) ++
    [.emitted e.token e.before e.after]

def log (bytes : List UInt8) (file : Option String) (options : Options) : List Event :=
  .opened file bytes.length ::
    match Lexer.ofBytes bytes file options with
    | .error e => [.undecodable e.file e.fault.validUpTo]
    | .ok l => .created l.file l.options l.cursor.size :: l.emissions.flatMap (Emission.events l.file)

end ScriptLexer
