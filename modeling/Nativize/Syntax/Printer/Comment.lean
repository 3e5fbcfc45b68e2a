import Nativize.Syntax.Lexer.Lexeme
import Nativize.Syntax.Printer.Literal
import Nativize.Syntax.Remark
import Nativize.Text.CharClass

/-!
# Printed comments

A comment that stood on a line of its own keeps one. A block comment of several lines is shifted to
the current indentation.
-/

namespace Nativize.Syntax

open Print

/-- The lines of a text. -/
def linesOf (line : List Char) : List Char → List (List Char)
  | [] => [line.reverse]
  | '\r' :: '\n' :: rest => line.reverse :: linesOf [] rest
  | c :: rest =>
    if isLineBreak c then line.reverse :: linesOf [] rest else linesOf (c :: line) rest

namespace Comment

/-- A line break stood beside the comment. -/
def standsApart (c : Comment) : Bool := c.afterBreak || c.beforeBreak

/-- The text of a comment. -/
def print (c : Comment) : Print Unit := do
  let line (text : List Char) : Print Unit := do
    unless "/*".toList.isPrefixOf text do indent
    str (String.ofList (guardScript (text.dropWhile Text.isBlank)))
    unless "*/".toList.isSuffixOf text do newline
  if c.isLine then str (guarded c.text)
  else
    match linesOf [] c.text.toList with
    | [_] => str (guarded c.text)
    | lines => all (lines.map line)

end Comment

/-- The comments that are not printed yet. Those of one token are printed where the first node that
starts with the token prints them. -/
def pending (list : List Comment) : Print (List Comment) := do
  let shown := (← get).shown
  return list.filter fun c => !shown.contains c.anchor

def anyPending (list : List Comment) : Print Bool := do return !(← pending list).isEmpty

/-- The comments that are not printed yet, which now count as printed. -/
def takePending (list : List Comment) : Print (List Comment) := do
  let waiting ← pending list
  modify fun p => { p with shown := waiting.map (·.anchor) ++ p.shown }
  return waiting

/-- The place before the first of several comments. -/
def beforeFirst (c : Comment) : Print Unit := do
  if c.afterBreak then
    match (← get).last with
    | none => pure ()
    | some '\n' => indent
    | some '\t' => pure ()
    | some _ => do
      newline
      indent
  else indent

/-- The place between two comments. -/
def betweenComments (before after : Comment) : Print Unit := do
  if before.isLine || before.beforeBreak then
    newline
    indent
  else if after.isPreserved then newline
  else space

/-- The place after the last of several comments. -/
def afterLast (c : Comment) (otherwise : Print Unit) : Print Unit := do
  if c.isLine || c.beforeBreak then newline else otherwise

/-- A comment and those after it. -/
def commentRun (otherwise : Print Unit) (c : Comment) : List Comment → Print Unit
  | [] => do
    c.print
    afterLast c otherwise
  | next :: rest => do
    c.print
    betweenComments c next
    commentRun otherwise next rest

/-- Comments that are not printed yet, and what comes after them on the same line. -/
def commentsThen (otherwise : Print Unit) (list : List Comment) : Print Unit := do
  match ← takePending list with
  | [] => pure ()
  | c :: rest => do
    beforeFirst c
    commentRun otherwise c rest

/-- Comments before a statement or member. -/
def comments (list : List Comment) : Print Unit := commentsThen spaceNext list

/-- Comments before the end of a function. -/
def closingComments (list : List Comment) : Print Unit := commentsThen (pure ()) list

/-- Comments among arguments, each on a line of its own; whether there were any. -/
def argumentComments (list : List Comment) : Print Bool := do
  match ← takePending list with
  | [] => return false
  | waiting => do
    all (waiting.map fun c => do
      newline
      indent
      c.print)
    newline
    return true

end Nativize.Syntax
