import Nativize.Number.Layout
import Nativize.Syntax.Ast
import Nativize.Text.Identifier
import Nativize.Text.Quoted

/-!
# The page that code is printed on

Printing adds text to a page. The page remembers the indentation, and the places where the next
piece of text would be misread: at the start of a statement, an arrow function's body or a default
export, after a number, and after an operator.
-/

namespace Nativize.Syntax

/-- The printed text and what decides about the text to come. -/
structure Page where
  text : String := ""
  /-- The number of characters printed. -/
  size : Nat := 0
  last : Option Char := none
  depth : Nat := 0
  /-- The next indentation is a single space. -/
  isSpaced : Bool := false
  statementStart : Option Nat := none
  arrowStart : Option Nat := none
  exportStart : Option Nat := none
  /-- The end of a number that would take a point after it. -/
  numberEnd : Option Nat := none
  /-- The operator printed last, and where it ended. -/
  operatorEnd : Option (String × Nat) := none
  regexEnd : Option Nat := none
  /-- The anchors of the comments that are printed. -/
  shown : List Nat := []

abbrev Print := StateM Page

namespace Print

/-- Print a text as it is. -/
def str (s : String) : Print Unit := modify fun p =>
  { p with
    text := p.text ++ s
    size := p.size + s.length
    last := match s.toList.getLast? with
      | some c => some c
      | none => p.last }

def space : Print Unit := str " "

def newline : Print Unit := str "\n"

def comma : Print Unit := str ", "

/-- The indentation of a line. -/
def indent : Print Unit := do
  if (← get).isSpaced then
    modify fun p => { p with isSpaced := false }
    space
  else str (String.ofList (List.replicate (← get).depth '\t'))

def deeper : Print Unit := modify fun p => { p with depth := p.depth + 1 }

def shallower : Print Unit := modify fun p => { p with depth := p.depth - 1 }

/-- Print with one more level of indentation. -/
def indented (body : Print Unit) : Print Unit := do
  deeper
  body
  shallower

/-- The next indentation is a single space. -/
def spaceNext : Print Unit := modify fun p => { p with isSpaced := true }

/-- The end of a statement. -/
def endStatement : Print Unit := str ";\n"

/-- Print in parentheses where a condition holds. -/
def wrap (c : Bool) (body : Print Unit) : Print Unit := do
  if c then
    str "("
    body
    str ")"
  else body

/-- A space where the next word would run into the text before. -/
def spaceBeforeWord : Print Unit := do
  let p ← get
  let touches := match p.last with
    | some c => Text.isIdentifierPart c
    | none => false
  if touches || p.regexEnd = some p.size then space

def word (s : String) : Print Unit := do
  spaceBeforeWord
  str s

/-- Two signs that would be read as another one when they touch. -/
def clash (before after : String) : Bool :=
  let plus (s : String) : Bool := s == "+"
  let minus (s : String) : Bool := s == "-"
  (plus before && (plus after || after == "++")) || (minus before && (minus after || after == "--"))

/-- A space where the next operator would run into the one before. -/
def spaceBeforeOperator (op : String) : Print Unit := do
  let p ← get
  match p.operatorEnd with
  | some (before, place) => if place = p.size && clash before op then space
  | none => pure ()

/-- Remember an operator that was just printed. -/
def markOperator (op : String) : Print Unit := modify fun p =>
  { p with operatorEnd := some (op, p.size) }

def startStatement : Print Unit := modify fun p => { p with statementStart := some p.size }

def startArrow : Print Unit := modify fun p => { p with arrowStart := some p.size }

def startExport : Print Unit := modify fun p => { p with exportStart := some p.size }

def markNumber : Print Unit := modify fun p => { p with numberEnd := some p.size }

def markRegex : Print Unit := modify fun p => { p with regexEnd := some p.size }

def atStatementStart : Print Bool := do
  let p ← get
  return p.statementStart = some p.size

def atArrowStart : Print Bool := do
  let p ← get
  return p.arrowStart = some p.size

def atExportStart : Print Bool := do
  let p ← get
  return p.exportStart = some p.size

/-- Items with a separator between them. -/
def sepBy (separator : Print Unit) : List (Print Unit) → Print Unit
  | [] => pure ()
  | [x] => x
  | x :: rest => do
    x
    separator
    sepBy separator rest

/-- Items with commas between them. -/
def list (items : List (Print Unit)) : Print Unit := sepBy comma items

/-- Items one after the other. -/
def all : List (Print Unit) → Print Unit
  | [] => pure ()
  | x :: rest => do
    x
    all rest

/-- Contents in braces, on lines of their own unless there are none. -/
def braces (isEmpty : Bool) (contents : Print Unit) : Print Unit := do
  str "\x7b"
  if isEmpty then contents
  else
    newline
    indented contents
    indent
  str "\x7d"

end Print

end Nativize.Syntax
