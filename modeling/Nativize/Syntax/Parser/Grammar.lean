import Nativize.Syntax.Parser.Module

/-!
# Programs

The grammar as a whole, and the reading of a program from its text.
-/

namespace Nativize.Syntax

/-- One level of the grammar: the parser of each phrase, given parsers for the phrases in it. -/
def rule (rules : Rules) : Nonterminal → Parse Ast
  | .expression => Parse.expression rules
  | .assignment => Parse.assignment rules false
  | .middle => Parse.assignment rules true
  | .binary level => Parse.binary rules level
  | .unary => Parse.unary rules
  | .leftHandSide => Parse.leftHandSide rules
  | .constructor => Parse.constructor rules
  | .statement => Parse.statement rules
  | .block => Parse.block rules
  | .body => Parse.functionBody rules
  | .pattern => Parse.pattern rules
  | .type => Parse.type rules
  | .operatorType => Parse.operatorType rules
  | .primaryType => Parse.primaryType rules
  | .typeMember => Parse.typeMember rules
  | .element => Parse.element rules
  | .classExpression => Parse.classExpression rules
  | .decorated => Parse.decorated rules
  | .moduleItem => Parse.moduleItem rules

/-- The grammar to a given depth of nesting. -/
def grammar : Nat → Rules
  | 0 => fun _ => failure
  | depth + 1 => rule (grammar depth)

/-- A line at the very start that tells how the program is run. -/
def hashbang (text : List Char) : Option String × List Char :=
  match text with
  | '#' :: '!' :: rest =>
    let (line, after) := rest.span fun c => !isLineBreak c
    (some (String.ofList line), after)
  | _ => (none, text)

/-- The parser of a whole program, after its first line. -/
def program (rules : Rules) (firstLine : Option String) : Parse Ast := do
  let marks ← Parse.directives rules
  let items ← Parse.many do
    if ← Parse.isFinish then return none else return some (← rules .statement)
  return .of (.program firstLine marks (← Parse.lead)) items

/-- A default that is valid in a target only is left in an expression. -/
def isCoverDefault : Kind → Bool
  | .coverDefault => true
  | _ => false

/-- The first token of a program. -/
def firstToken (text : List Char) : Token := .scan .atStart text

/-- A nesting that no text of the given length exceeds: each character opens at most a few
phrases. -/
def depthFor (length : Nat) : Nat := 16 * length + 64

/-- The tree of a program, if its text is one. -/
def parseProgram (text : List Char) : Option Ast :=
  let (firstLine, rest) := hashbang text
  let budget := rest.length + 2
  let start : ParseState := ⟨firstToken rest, {}, budget⟩
  match program (grammar (depthFor rest.length)) firstLine start with
  | some (t, _) => if t.anyKind isCoverDefault then none else some t
  | none => none

end Nativize.Syntax
