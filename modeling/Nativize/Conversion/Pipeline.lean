import Nativize.Conversion.Stylesheet
import Nativize.Conversion.Sweep
import Nativize.Conversion.Usage
import Nativize.Syntax.Printer.Render

/-!
# Conversions

A conversion reads a program, applies its passes and prints the result.
-/

namespace Nativize.Conversion

open Syntax

/-- Which passes a conversion applies. -/
inductive Mode where
  | full
  | imports
  | styles
deriving DecidableEq, Repr

/-- All passes in order. The answer is the names that the program needs from the platform. -/
def convertAll (p : Profile) : Pass (List String) := do
  let aliases := navigationAliases p.names (← get)
  let _ ← combinedSweep p aliases
  let _ ← convertStylesheet p
  addLeadingImports p.names
  let _ ← addTypeDeclaration p.tables
  let _ ← addFontLoading p
  let used := usedNames p (← get)
  let _ ← addPlatformImports p.names used
  return used

/-- The passes of a mode. -/
def Mode.pass (p : Profile) : Mode → Pass (List String)
  | .full => convertAll p
  | .imports => do
    let _ ← convertImports p
    return []
  | .styles => do
    let _ ← convertStylesheet p
    return []

/-- The result of a conversion. -/
structure Converted where
  code : String
  used : List String

/-- Read a program. The file is named in a failure. -/
def readProgram (file source : String) : Except Failure Ast :=
  match parseProgram source.toList with
  | some t => .ok t
  | none => .error (.unparsed file)

/-- Convert the text of a program. -/
def convert (mode : Mode) (p : Profile) (file source : String) : Except Failure Converted := do
  let t ← readProgram file source
  match (mode.pass p).apply t with
  | (.ok used, t) => return ⟨t.code, used⟩
  | (.error f, _) => throw f

/-- The evaluated style table of the text of a program. -/
def extractStyleTable (p : Profile) (file source : String) : Except Failure Style.Table :=
  (readProgram file source).map (styleTable p)

end Nativize.Conversion
