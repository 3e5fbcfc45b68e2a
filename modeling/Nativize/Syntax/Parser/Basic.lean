import Nativize.Syntax.Lexer.Scan
import Nativize.Syntax.Ast

/-!
# Parsers

A parser takes tokens from the front of a program and gives a tree, or nothing when the tokens are
not what the grammar asks for. Parsers may look ahead and go back.

The rules of the grammar refer to each other through `Rules`, which gives a parser for each
`Nonterminal`; the grammar ties the knot.
-/

namespace Nativize.Syntax

/-- What the surroundings of a phrase allow. -/
structure Context where
  /-- The operator `in` may stand in an expression. -/
  allowIn : Bool := true
  /-- `await` is an operator. -/
  allowAwait : Bool := true
  /-- `yield` is an operator. -/
  allowYield : Bool := false
  /-- A function may be left. -/
  allowReturn : Bool := false
  /-- A type may be conditional. -/
  allowConditionalType : Bool := true
  /-- Declarations only describe what is defined elsewhere. -/
  isAmbient : Bool := false
  /-- Decorators may start a member, so an index may not follow one. -/
  inDecorator : Bool := false

/-- The place that a parser has reached. -/
structure ParseState where
  token : Token
  context : Context
  /-- A bound on the number of rounds of a loop, each of which consumes a character. -/
  budget : Nat

/-- A parser of values. -/
abbrev Parse (α : Type) := StateT ParseState Option α

/-- The phrases that rules refer to. -/
inductive Nonterminal where
  /-- Expressions separated by commas. -/
  | expression
  /-- An expression without a comma. -/
  | assignment
  /-- As before, in the middle of a conditional: a result type of an arrow function must not take
  the colon. -/
  | middle
  /-- Operators that bind tighter than the given level. -/
  | binary (level : Nat)
  | unary
  | leftHandSide
  /-- The callee of `new`. -/
  | constructor
  | statement
  | block
  /-- The body of a function. -/
  | body
  | pattern
  | type
  | operatorType
  | primaryType
  | typeMember
  | element
  | classExpression
  /-- A statement with decorators before it. -/
  | decorated
  /-- An import or export. -/
  | moduleItem

abbrev Rules := Nonterminal → Parse Ast

namespace Parse

def token : Parse Token := do return (← get).token

def lexeme : Parse Lexeme := do return (← get).token.lexeme

/-- Go on to the next token. -/
def advance : Parse Unit := modify fun s => { s with token := s.token.next }

/-- Read the place of the current token in another way. -/
def reread (f : Token → Token) : Parse Unit := modify fun s => { s with token := f s.token }

def context : Parse Context := do return (← get).context

/-- Run a parser in another context. -/
def within {α : Type} (f : Context → Context) (p : Parse α) : Parse α := do
  let c ← context
  modify fun s => { s with context := f c }
  let x ← p
  modify fun s => { s with context := c }
  return x

/-- Run a parser; where it fails, go back. -/
def attempt {α : Type} (p : Parse α) : Parse (Option α) := fun s =>
  match p s with
  | some (x, s') => some (some x, s')
  | none => some (none, s)

/-- Run a test and go back. A test that fails is false. -/
def lookahead (p : Parse Bool) : Parse Bool := fun s =>
  match p s with
  | some (b, _) => some (b, s)
  | none => some (false, s)

def isPunct (p : String) : Parse Bool := do return (← lexeme) == .punct p

/-- The current token is a given keyword, written without escapes. -/
def isWord (w : String) : Parse Bool := do return (← lexeme) == .word w false

def isFinish : Parse Bool := do return (← lexeme) == .finish

def afterBreak : Parse Bool := do return (← token).afterBreak

/-- The comments attached to the current token. -/
def lead : Parse (List Comment) := do return (← token).lead

/-- Take a sign if it comes next. -/
def eat (p : String) : Parse Bool := do
  if ← isPunct p then
    advance
    return true
  else return false

def eatWord (w : String) : Parse Bool := do
  if ← isWord w then
    advance
    return true
  else return false

def expect (p : String) : Parse Unit := do
  unless ← eat p do failure

def expectWord (w : String) : Parse Unit := do
  unless ← eatWord w do failure

/-- Fail unless the condition holds. -/
def ensure (b : Bool) : Parse Unit := if b then pure () else failure

/-- The test holds of the token after the current one. -/
def nextIs (test : Token → Bool) : Parse Bool := do return test (← token).next

def nextIsPunct (p : String) : Parse Bool := nextIs fun t => t.lexeme == .punct p

/-- The end of a statement: a semicolon, or a place where one may be left out. -/
def semicolon : Parse Unit := do
  unless ← eat ";" do
    let t ← token
    ensure (t.afterBreak || t.lexeme == .punct "\x7d" || t.lexeme == .finish)

/-- A semicolon may be left out here, or stands here. -/
def atSemicolon : Parse Bool := do
  let t ← token
  return t.afterBreak || t.lexeme == .punct ";" || t.lexeme == .punct "\x7d" || t.lexeme == .finish

/-- Repeat a step until it gives nothing. -/
def repeatFor {α : Type} (step : Parse (Option α)) : Nat → Parse (List α)
  | 0 => failure
  | fuel + 1 => do
    match ← step with
    | none => return []
    | some x => return x :: (← repeatFor step fuel)

def many {α : Type} (step : Parse (Option α)) : Parse (List α) := do
  repeatFor step ((← get).budget)

/-- Change a value by steps until one gives nothing. -/
def iterateFor {α : Type} (step : α → Parse (Option α)) : Nat → α → Parse α
  | 0, _ => failure
  | fuel + 1, x => do
    match ← step x with
    | none => return x
    | some y => iterateFor step fuel y

def iterate {α : Type} (start : α) (step : α → Parse (Option α)) : Parse α := do
  iterateFor step ((← get).budget) start

/-- Items up to a closing sign, which is taken. -/
def itemsUntil {α : Type} (close : String) (item : Parse α) : Parse (List α) := do
  let items ← many do
    if ← isPunct close then return none else return some (← item)
  expect close
  return items

/-- Items with commas between them up to a closing sign, which is taken. A comma may stand before
it. -/
def listUntil {α : Type} (close : String) (item : Parse α) : Parse (List α) :=
  itemsUntil close do
    let x ← item
    unless ← isPunct close do expect ","
    return x

/-- Items with a separator between them, at least one. -/
def separated {α : Type} (separator : String) (item : Parse α) : Parse (List α) := do
  let first ← item
  let rest ← many do
    if ← eat separator then return some (← item) else return none
  return first :: rest

/-- The word of the current token, if it can be a name of a variable. The words of the operators
`await` and `yield` can where they are no operators. -/
def variableName? : Parse (Option String) := do
  match ← lexeme with
  | .word name _ =>
    let c ← context
    let isOperator := (name == "await" && c.allowAwait) || (name == "yield" && c.allowYield)
    return if isReserved name || isOperator then none else some name
  | _ => return none

def atVariableName : Parse Bool := do return (← variableName?).isSome

/-- The name of a variable. -/
def variableName : Parse String := do
  match ← variableName? with
  | some name => do advance; return name
  | none => failure

/-- Any word, such as the name of a member. -/
def anyName : Parse String := do
  match ← lexeme with
  | .word name _ => do advance; return name
  | _ => failure

def bindingName : Parse Ast := do return .leaf (.binding (← variableName))

end Parse

def Token.isPunct (t : Token) (p : String) : Bool := t.lexeme == .punct p

def Token.isWord (t : Token) (w : String) : Bool := t.lexeme == .word w false

/-- The token can be the name of a variable somewhere. -/
def Token.isVariableName (t : Token) : Bool :=
  match t.lexeme with
  | .word name _ => !isReserved name
  | _ => false

/-- The token is a word of any kind. -/
def Token.isAnyWord (t : Token) : Bool :=
  match t.lexeme with
  | .word .. => true
  | _ => false

/-- The token can follow a modifier: the name of a member, or what starts a pattern. -/
def Token.followsModifier (t : Token) : Bool :=
  match t.lexeme with
  | .word .. | .privateName _ | .string .. | .number .. | .bigint _ => true
  | .punct p => ["[", "\x7b", "*", "..."].contains p
  | _ => false

/-- The word modifies what follows, and is not a name itself. Most modifiers must stand on the line
of what they modify. -/
def Token.isModifier (t : Token) (w : String) : Bool :=
  let mayBreak := w == "static" || w == "get" || w == "set"
  t.isWord w && t.next.followsModifier && (mayBreak || !t.next.afterBreak)

/-- The token follows on the same line and can only be an operand. -/
def Token.isPlainOperand (t : Token) : Bool :=
  !t.afterBreak && match t.lexeme with
    | .word .. | .number .. | .bigint _ | .string .. => true
    | _ => false

end Nativize.Syntax
