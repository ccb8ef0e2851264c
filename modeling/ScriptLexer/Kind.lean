import ScriptLexer.Keyword
import ScriptLexer.Symbol
import ScriptLexer.Unicode.Uppercase

/-! Token kinds. A sign is a kind of its own when it stands before its operand, and a bar is one when
it delimits block parameters; in every other place both are plain symbols. -/

namespace ScriptLexer

inductive Kind where
  | eof
  | illegal
  | newline
  | comment
  | identifier
  | constant
  | instanceVariable
  | integer
  | float
  | string
  | symbol (s : Symbol)
  | unaryPlus
  | unaryMinus
  | blockParamOpen
  | blockParamClose
  | keyword (k : Keyword)
  deriving DecidableEq, Repr

namespace Kind

def all : List Kind :=
  [.eof, .illegal, .newline, .comment, .identifier, .constant, .instanceVariable, .integer, .float,
    .string] ++ Symbol.all.map .symbol ++
  [.unaryPlus, .unaryMinus, .blockParamOpen, .blockParamClose] ++ Keyword.all.map .keyword

theorem mem_all (k : Kind) : k ∈ all := by
  cases k <;> simp [all, Symbol.mem_all, Keyword.mem_all]

def name : Kind → String
  | .eof => "EOF"
  | .illegal => "Illegal"
  | .newline => "Newline"
  | .comment => "Comment"
  | .identifier => "Identifier"
  | .constant => "Constant"
  | .instanceVariable => "InstanceVariable"
  | .integer => "Integer"
  | .float => "Float"
  | .string => "String"
  | .symbol s => s.name
  | .unaryPlus => "UnaryPlus"
  | .unaryMinus => "UnaryMinus"
  | .blockParamOpen => "BlockParamOpen"
  | .blockParamClose => "BlockParamClose"
  | .keyword k => k.name

def ofName? (text : String) : Option Kind :=
  all.find? (·.name == text)

theorem ofName?_name (k : Kind) : ofName? k.name = some k := by
  have h : ∀ k ∈ all, ofName? k.name = some k := by decide +kernel
  exact h k (mem_all k)

def isKeyword : Kind → Bool
  | .keyword _ => true
  | _ => false

/-- Whether an expression can end with the token, so that a sign after it is binary. -/
def endsExpression : Kind → Bool
  | .integer | .float | .string | .identifier | .constant | .instanceVariable => true
  | .symbol .closeParen | .symbol .closeBracket | .symbol .closeCurly => true
  | .keyword .kwTrue | .keyword .kwFalse | .keyword .kwNil | .keyword .kwSelf => true
  | .keyword .kwSuper | .keyword .kwGetBlock | .keyword .kwHasBlock => true
  | _ => false

/-- Whether a list of block parameters may follow the token. -/
def opensBlock : Kind → Bool
  | .symbol .openCurly | .symbol .rightArrow => true
  | _ => false

/-- Whether the name of a member follows the token. -/
def selectsMember : Kind → Bool
  | .symbol .dot | .symbol .resolution => true
  | _ => false

/-- The kind of a word: reserved words first, then the mark of instance variables, then a leading
capital. -/
def ofWord (text : List Char) : Kind :=
  match Keyword.ofSpelling? text with
  | some k => .keyword k
  | none =>
    match text with
    | '@' :: _ => .instanceVariable
    | c :: _ => if Unicode.isUppercase c then .constant else .identifier
    | [] => .identifier

theorem ofWord_ne_eof (text : List Char) : ofWord text ≠ .eof := by
  unfold ofWord
  split
  · exact Kind.noConfusion
  · split
    · exact Kind.noConfusion
    · split <;> exact Kind.noConfusion
    · exact Kind.noConfusion

end Kind

end ScriptLexer
