/-! The reserved words. Two of them end in a mark, `block!` and `block?`; the others are plain words. -/

namespace ScriptLexer

inductive Keyword where
  | kwDef
  | kwTrue
  | kwFalse
  | kwNil
  | kwIf
  | kwElsif
  | kwElse
  | kwSwitch
  | kwCase
  | kwDefault
  | kwReturn
  | kwSelf
  | kwSuper
  | kwWhile
  | kwYield
  | kwNext
  | kwClass
  | kwModule
  | kwBreak
  | kwGetBlock
  | kwHasBlock
  | kwCatch
  | kwFinally
  deriving DecidableEq, Repr

namespace Keyword

def all : List Keyword := [
  .kwDef, .kwTrue, .kwFalse, .kwNil, .kwIf, .kwElsif, .kwElse, .kwSwitch, .kwCase, .kwDefault,
  .kwReturn, .kwSelf, .kwSuper, .kwWhile, .kwYield, .kwNext, .kwClass, .kwModule, .kwBreak,
  .kwGetBlock, .kwHasBlock, .kwCatch, .kwFinally]

theorem mem_all (k : Keyword) : k ∈ all := by
  cases k <;> decide

/-- The source text of the word. -/
def spelling : Keyword → String
  | .kwDef => "def"
  | .kwTrue => "true"
  | .kwFalse => "false"
  | .kwNil => "nil"
  | .kwIf => "if"
  | .kwElsif => "elsif"
  | .kwElse => "else"
  | .kwSwitch => "switch"
  | .kwCase => "case"
  | .kwDefault => "default"
  | .kwReturn => "return"
  | .kwSelf => "self"
  | .kwSuper => "super"
  | .kwWhile => "while"
  | .kwYield => "yield"
  | .kwNext => "next"
  | .kwClass => "class"
  | .kwModule => "module"
  | .kwBreak => "break"
  | .kwGetBlock => "block!"
  | .kwHasBlock => "block?"
  | .kwCatch => "catch"
  | .kwFinally => "finally"

/-- The name by which tokens of this kind are reported. -/
def name : Keyword → String
  | .kwDef => "Def"
  | .kwTrue => "True"
  | .kwFalse => "False"
  | .kwNil => "Nil"
  | .kwIf => "If"
  | .kwElsif => "Elsif"
  | .kwElse => "Else"
  | .kwSwitch => "Switch"
  | .kwCase => "Case"
  | .kwDefault => "Default"
  | .kwReturn => "Return"
  | .kwSelf => "SelfKeyword"
  | .kwSuper => "Super"
  | .kwWhile => "While"
  | .kwYield => "Yield"
  | .kwNext => "Next"
  | .kwClass => "Class"
  | .kwModule => "Module"
  | .kwBreak => "Break"
  | .kwGetBlock => "GetBlock"
  | .kwHasBlock => "HasBlock"
  | .kwCatch => "Catch"
  | .kwFinally => "Finally"

def ofSpelling? (text : List Char) : Option Keyword :=
  all.find? (·.spelling.toList == text)

theorem ofSpelling?_spelling (k : Keyword) : ofSpelling? k.spelling.toList = some k := by
  cases k <;> decide

theorem spelling_eq_of_ofSpelling? {text : List Char} {k : Keyword} (h : ofSpelling? text = some k) :
    k.spelling.toList = text := by
  simpa only [beq_iff_eq] using List.find?_some h

theorem ofSpelling?_eq_some_iff {text : List Char} {k : Keyword} :
    ofSpelling? text = some k ↔ k.spelling.toList = text :=
  ⟨spelling_eq_of_ofSpelling?, fun h => h ▸ ofSpelling?_spelling k⟩

end Keyword

end ScriptLexer
