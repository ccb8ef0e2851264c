import ScriptLexer.Kind

/-! The context in which a token is read. It is carried from each token to the next, and it settles how
a sign and a bar are understood. -/

namespace ScriptLexer

inductive Context where
  | initial
  | expectOperand
  | expectOperator
  | expectBlockParams
  | blockParams
  | blockParamsOperator
  | expectMember
  deriving DecidableEq, Repr

namespace Context

def all : List Context := [
  .initial, .expectOperand, .expectOperator, .expectBlockParams, .blockParams, .blockParamsOperator,
  .expectMember]

theorem mem_all (c : Context) : c ∈ all := by
  cases c <;> decide

def name : Context → String
  | .initial => "Initial"
  | .expectOperand => "ExpectOperand"
  | .expectOperator => "ExpectOperator"
  | .expectBlockParams => "ExpectBlockParams"
  | .blockParams => "BlockParams"
  | .blockParamsOperator => "BlockParamsOperator"
  | .expectMember => "ExpectMember"

def ofName? (text : String) : Option Context :=
  all.find? (·.name == text)

theorem ofName?_name (c : Context) : ofName? c.name = some c := by
  cases c <;> decide

/-- Whether the next token starts an operand, so that a sign is unary. -/
def expectsOperand : Context → Bool
  | .initial | .expectOperand | .expectBlockParams | .blockParams => true
  | _ => false

/-- Whether a list of block parameters is open, so that a bar closes it. -/
def inBlockParams : Context → Bool
  | .blockParams | .blockParamsOperator => true
  | _ => false

/-- Whether the next bar is a delimiter of block parameters. -/
def delimitsBlock (c : Context) : Bool :=
  c = .expectBlockParams || c.inBlockParams

/-- The context left behind by a token. A line break keeps the place where block parameters may open or
are open, and a keyword that names a member ends an expression. -/
def after (c : Context) : Kind → Context
  | .eof | .illegal | .comment => c
  | .newline => if c.delimitsBlock then c else .expectOperand
  | .blockParamOpen => .blockParams
  | .blockParamClose => .expectOperand
  | k =>
    if c.inBlockParams then
      if k.endsExpression then .blockParamsOperator else .blockParams
    else if c = .expectMember && k.isKeyword then .expectOperator
    else if k.selectsMember then .expectMember
    else if k.endsExpression then .expectOperator
    else if k.opensBlock then .expectBlockParams
    else .expectOperand

/-- How a symbol is understood: where an operand is expected, a sign belongs to it. -/
def kindOf (c : Context) : Symbol → Kind
  | .plus => if c.expectsOperand then .unaryPlus else .symbol .plus
  | .minus => if c.expectsOperand then .unaryMinus else .symbol .minus
  | s => .symbol s

theorem kindOf_ne_eof (c : Context) (s : Symbol) : c.kindOf s ≠ .eof := by
  unfold kindOf
  split
  · split <;> exact Kind.noConfusion
  · split <;> exact Kind.noConfusion
  · exact Kind.noConfusion

end Context

end ScriptLexer
