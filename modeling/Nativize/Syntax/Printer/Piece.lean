import Nativize.Syntax.Printer.Comment

/-!
# Pieces of printed code

The printer of a node is put together from the printers of its parts. A `Piece` is a part together
with its printer and the pieces of its own parts, so that a layout can look at a part before it
prints it. A `Place` tells a printer where its node stands.
-/

namespace Nativize.Syntax

/-- Where a node stands. -/
structure Place where
  /-- Operators up to this level need parentheses. -/
  level : Nat := 0
  /-- The operator `in` needs parentheses. -/
  forbidIn : Bool := false
  /-- A call needs parentheses. -/
  forbidCall : Bool := false
  /-- Numbers stay as they were written. -/
  inType : Bool := false
  /-- A statement stands inside another one, which prints its line. -/
  isInner : Bool := false

namespace Place

/-- The place of a statement or body in a node that stands here. -/
def body (place : Place) : Place := { place with level := 0, isInner := false }

/-- The place of a statement whose line is printed by a node that stands here. -/
def inner (place : Place) : Place := { place with level := 0, isInner := true }

/-- The place with another level. -/
def withLevel (place : Place) (level : Nat) : Place := { place with level := level }

end Place

abbrev Printer := Place → Print Unit

/-- A part of a node, its printer, and the pieces of its own parts. -/
inductive Piece where
  | mk (tree : Ast) (printer : Printer) (parts : List Piece)

namespace Piece

def tree : Piece → Ast
  | .mk t _ _ => t

def printer : Piece → Printer
  | .mk _ p _ => p

def parts : Piece → List Piece
  | .mk _ _ ps => ps

def none : Piece := .mk .absent (fun _ => pure ()) []

instance : Inhabited Piece := ⟨none⟩

def isThere (p : Piece) : Bool := !p.tree.isAbsent

/-- Print as an expression between operators of a level. -/
def atLevel (p : Piece) (level : Nat) : Print Unit := p.printer { level := level }

/-- Print where nothing binds tighter. -/
def print (p : Piece) : Print Unit := p.printer {}

/-- Print after a text, if the part is there. -/
def after (p : Piece) (text : String) : Print Unit := do
  if p.isThere then
    Print.str text
    p.print

/-- Print as a statement or body in a node at a place. -/
def within (p : Piece) (place : Place) : Print Unit := p.printer place.body

/-- Print a statement without its line in a node at a place. -/
def bare (p : Piece) (place : Place) : Print Unit := p.printer place.inner

end Piece

/-! ## The levels of operators, from the loosest to the tightest -/
namespace Level

def comma : Nat := 1
def yieldValue : Nat := 3
def assign : Nat := 4
def conditional : Nat := 5
def equals : Nat := 12
def compare : Nat := 13
def exponent : Nat := 17
def before : Nat := 18
def after : Nat := 19
def construct : Nat := 20
def call : Nat := 21

/-- The level of an operator between two expressions. -/
def ofOperator : String → Nat
  | "??" => 6
  | "||" => 7
  | "&&" => 8
  | "|" => 9
  | "^" => 10
  | "&" => 11
  | "==" => 12
  | "!=" => 12
  | "===" => 12
  | "!==" => 12
  | "<<" => 14
  | ">>" => 14
  | ">>>" => 14
  | "+" => 15
  | "-" => 15
  | "*" => 16
  | "/" => 16
  | "%" => 16
  | "**" => 17
  | _ => 13

end Level

/-- The part at a place. -/
def nth (ps : List Piece) (i : Nat) : Piece := (ps[i]?).getD .none

/-- The printers of several parts, each as an item of a list. -/
def items (ps : List Piece) : List (Print Unit) := ps.map fun p => p.atLevel Level.comma

end Nativize.Syntax
