import Nativize.Conversion.Node
import Nativize.Failure
import Nativize.Syntax.Parser.Grammar

/-!
# Templates

Code that a conversion adds is written as text, with names of the profile filled in, and read as a
program. A name that breaks the text is a fault of the profile.
-/

namespace Nativize.Conversion

open Syntax

/-- The text up to its first line break. -/
def firstLine (text : List Char) : List Char :=
  let line := text.takeWhile (· ≠ '\n')
  if line.getLast? = some '\r' && line.length < text.length then line.dropLast else line

/-- The statements of a template, without comments. -/
def templateStatements (text : String) : Except ProfileFault (List Ast) :=
  match parseProgram text.toList with
  | some t => .ok (statements t.withoutComments)
  | none => .error (.templateSyntax (String.ofList (firstLine text.toList)))

/-- The statement of a template that is one. -/
def templateStatement (text : String) : Except ProfileFault Ast := do
  match ← templateStatements text with
  | [s] => return s
  | parts => throw (.templateCount text parts.length)

/-- An import of named values. -/
def namedImportText (names : List String) (module : String) : String :=
  "import \x7b " ++ String.intercalate ", " names ++ " \x7d from " ++ Text.quoted module ++ ";"

/-- An import of a whole module. -/
def namespaceImportText (name module : String) : String :=
  "import * as " ++ name ++ " from " ++ Text.quoted module ++ ";"

end Nativize.Conversion
