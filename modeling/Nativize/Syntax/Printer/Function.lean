import Nativize.Syntax.Printer.Expression

/-!
# Layout of functions, classes and markup
-/

namespace Nativize.Syntax.Layout

open Print

/-- A statement that is a string alone, in parentheses or not. -/
def stringStatement? : Ast → Option StringValue
  | .node .exprStmt _ [e] =>
    match unwrap e with
    | .node (.string value) _ _ => some value
    | _ => none
  | _ => none

def directive (d : Directive) : Print Unit := do
  comments d.lead
  indent
  str (directiveText d.text)
  endStatement

/-- Directives and statements. A string at the start is kept from being read as a directive. -/
def directivesAndStatements (directives : List Directive) (ps : List Piece) (place : Place) :
    Print Unit := do
  all (directives.map directive)
  match ps with
  | [] => pure ()
  | first :: others =>
    match if directives.isEmpty then stringStatement? first.tree else none with
    | some value => do
      str ("(" ++ stringText value ++ ")")
      endStatement
    | none => first.within place
    all (others.map fun p => p.within place)

/-- A function body. Comments before its closing brace are printed inside it. -/
def body (directives : List Directive) (closing : List Comment) (ps : List Piece) (place : Place) :
    Print Unit := do
  let standApart := (← pending closing).any (·.standsApart)
  braces (directives.isEmpty && ps.isEmpty && !standApart) do
    directivesAndStatements directives ps place
    closingComments closing

/-- The mark of a function whose calls have no effects. -/
def quietMark : String := "/* @__NO_SIDE_EFFECTS__ */"

def functionLike (facts : FunctionFacts) (ps : List Piece) (place : Place) : Print Unit := do
  if facts.isQuiet && facts.form = .expression then str (quietMark ++ " ")
  let isOpening := (← atStatementStart) || (← atExportStart)
  wrap (facts.form = .expression && (isOpening || facts.inParens)) do
    spaceBeforeWord
    if facts.isDeclare then str "declare "
    if facts.isAsync then str "async "
    str "function"
    if facts.isGenerator then str "* "
    if (nth ps 0).isThere then
      spaceBeforeWord
      (nth ps 0).print
    functionTail ps { place with forbidCall := false }
    unless (nth ps 4).isThere do str ";"

def arrow (facts : ArrowFacts) (ps : List Piece) (place : Place) : Print Unit := do
  wrap (Level.assign ≤ place.level || facts.inParens) do
    if facts.isQuiet then str (quietMark ++ " ")
    if facts.isAsync then word "async "
    signature (nth ps 0) (nth ps 1) (nth ps 2)
    str " => "
    if facts.isExpression then
      let value := nth (nth (nth ps 3).parts 0).parts 0
      startArrow
      value.printer (place.withLevel Level.comma)
    else (nth ps 3).within place

def access (word? : Option String) : Print Unit :=
  match word? with
  | some w => str (w ++ " ")
  | none => pure ()

def mark (c : Bool) (text : String) : Print Unit := if c then str text else pure ()

/-- Decorators, each with a blank after it. -/
def decorators (group : Piece) : Print Unit := all (group.parts.map fun p => do p.print; space)

/-- The items of a group with commas between them. -/
def groupList (group : Piece) : Print Unit := list (group.parts.map Piece.print)

/-- The items of a group one after the other. -/
def groupAll (group : Piece) : Print Unit := all (group.parts.map Piece.print)

def param (facts : ParamFacts) (ps : List Piece) : Print Unit := do
  decorators (nth ps 0)
  access facts.access
  mark facts.isOverride "override "
  mark facts.isReadonly "readonly "
  (nth ps 1).print
  mark facts.isOptional "?"
  (nth ps 2).after ": "
  if (nth ps 3).isThere then
    str " = "
    (nth ps 3).atLevel Level.comma

def isIndexSignature : Ast → Bool
  | .node (.indexSignature ..) _ _ => true
  | _ => false

def classLike (facts : ClassFacts) (ps : List Piece) (place : Place) : Print Unit := do
  let isOpening := (← atStatementStart) || (← atExportStart)
  wrap (!facts.isDeclaration && isOpening) do
    decorators (nth ps 0)
    spaceBeforeWord
    mark facts.isDeclare "declare "
    mark facts.isAbstract "abstract "
    str "class"
    (nth ps 1).after " "
    (nth ps 2).print
    if (nth ps 3).isThere then
      str " extends "
      (nth ps 3).atLevel Level.after
      (nth ps 4).print
    unless (nth ps 5).parts.isEmpty do
      str " implements "
      groupList (nth ps 5)
    space
    braces (nth ps 6).parts.isEmpty (all ((nth ps 6).parts.map memberLine))
where
  /-- A member on its own line, after its comments. -/
  memberLine (p : Piece) : Print Unit := do
    comments p.tree.lead
    indent
    p.within { place with forbidCall := false }
    if isIndexSignature p.tree then endStatement

def method (facts : MemberFacts) (ps : List Piece) (place : Place) : Print Unit := do
  let f := nth ps 2
  decorators (nth ps 0)
  access facts.access
  mark facts.isStatic "static "
  mark facts.isAbstract "abstract "
  accessorMark facts.form
  functionMarks f.tree
  key (nth ps 1) facts.isComputed
  mark facts.isOptional "?"
  functionTail f.parts place
  if (f.tree.part 4).isAbsent then endStatement else newline

def field (facts : MemberFacts) (isAccessor : Bool) (ps : List Piece) : Print Unit := do
  decorators (nth ps 0)
  if isAccessor then
    mark facts.isAbstract "abstract "
    access facts.access
    mark facts.isStatic "static "
    mark facts.isOverride "override "
    str "accessor "
  else
    mark facts.isDeclare "declare "
    access facts.access
    mark facts.isAbstract "abstract "
    mark facts.isStatic "static "
    mark facts.isReadonly "readonly "
  key (nth ps 1) facts.isComputed
  mark facts.isOptional "?"
  (nth ps 2).after ": "
  if (nth ps 3).isThere then
    str " = "
    (nth ps 3).atLevel Level.comma
  endStatement

def staticBlock (ps : List Piece) (place : Place) : Print Unit := do
  str "static "
  braces false (all (ps.map fun p => p.within place))
  newline

/-- A decorator that needs no parentheses: a name or member, or a call of one. -/
def isPlainDecorator : Ast → Bool
  | .node (.reference _) _ _ => true
  | .node (.member ..) _ _ => true
  | .node (.privateMember ..) _ _ => true
  | .node (.call ..) _ (e :: _) => isPlainDecorator e
  | _ => false

def decorator (ps : List Piece) : Print Unit := do
  str "@"
  wrap (!isPlainDecorator (nth ps 0).tree) (nth ps 0).print

/-! ## Markup -/

/-- An element. Its type arguments are not printed. -/
def element (ps : List Piece) : Print Unit := do
  let closing := nth ps 4
  str "<"
  (nth ps 0).print
  all ((nth ps 2).parts.map fun p => do space; p.print)
  unless closing.isThere do str " /"
  str ">"
  groupAll (nth ps 3)
  if closing.isThere then
    str "</"
    closing.print
    str ">"

def markupAttribute (ps : List Piece) : Print Unit := do
  (nth ps 0).print
  (nth ps 1).after "="

/-- A string of markup, in the quotes that it does not hold. -/
def markupString (text : String) : Print Unit :=
  let quote := if text.toList.contains '"' then "'" else "\""
  str (quote ++ text ++ quote)

/-- An expression in braces. -/
def container (start : String) (level : Nat) (ps : List Piece) : Print Unit := do
  str start
  (nth ps 0).atLevel level
  str "\x7d"

def fragment (ps : List Piece) : Print Unit := do
  str "<>"
  all (ps.map Piece.print)
  str "</>"

end Nativize.Syntax.Layout
