import Nativize.Conversion.Node
import Nativize.Failure

/-!
# Passes

A pass changes a program and answers something about it. It may fail: what it changed before stays
changed, so the program after a failure is known too.
-/

namespace Nativize.Conversion

open Syntax

/-- A pass over a program. -/
abbrev Pass (α : Type) := ExceptT Failure (StateM Ast) α

namespace Pass

variable {α : Type}

/-- The answer of a pass and the program after it. -/
def apply (pass : Pass α) (t : Ast) : Except Failure α × Ast := pass.run t

/-- Replace the statements of the program. -/
def setStatements (parts : List Ast) : Pass Unit := modify fun t => withStatements t parts

/-- The statements of the program. -/
def getStatements : Pass (List Ast) := return statements (← get)

/-- Stop when a breach was found. -/
def check : Option Breach → Pass Unit
  | some b => throw (.structural b)
  | none => return

/-- Use something that depends on the profile. -/
def require (value : Except ProfileFault α) : Pass α :=
  match value with
  | .ok a => return a
  | .error fault => throw (.profile fault)

end Pass

end Nativize.Conversion
