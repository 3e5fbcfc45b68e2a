import Nativize.Syntax.Printer.Function

/-!
# Layout of types
-/

namespace Nativize.Syntax.Layout

open Print

/-- Type parameters. A single one has a comma after it, so that it is not read as markup. -/
def typeParams (ps : List Piece) : Print Unit := do
  str "<"
  match ps with
  | [p] => do
    p.print
    str ","
  | _ => lines (ps.map Piece.print)
  str ">"

def typeParam (isConst isIn isOut : Bool) (ps : List Piece) : Print Unit := do
  mark isConst "const "
  mark isIn "in "
  mark isOut "out "
  (nth ps 0).print
  (nth ps 1).after " extends "
  (nth ps 2).after " = "

def typeArgs (ps : List Piece) : Print Unit := do
  str "<"
  list (ps.map Piece.print)
  str ">"

/-- Types joined by an operator. -/
def joined (op : String) (ps : List Piece) : Print Unit := sepBy (str op) (ps.map Piece.print)

def functionType (ps : List Piece) : Print Unit := do
  (nth ps 0).print
  str "("
  (nth ps 1).print
  str ") => "
  (nth ps 2).print

def constructorType (isAbstract : Bool) (ps : List Piece) : Print Unit := do
  mark isAbstract "abstract "
  str "new "
  functionType ps

/-- Members on lines of their own, each after its comments. -/
def memberLines (separator last : String) (place : Place) : List Piece → Print Unit
  | [] => pure ()
  | [p] => do
    comments p.tree.lead
    indent
    p.printer place
    str last
  | p :: rest => do
    comments p.tree.lead
    indent
    p.printer place
    str separator
    memberLines separator last place rest

/-- The members of a type. Those of a type literal are in a type themselves. -/
def typeMembers (inType : Bool) (ps : List Piece) : Print Unit :=
  braces ps.isEmpty (memberLines ";\n" ";\n" { inType := inType } ps)

def mappedReadonly : MappedSign → Print Unit
  | .none => pure ()
  | .plain => str "readonly "
  | .plus => str "+readonly "
  | .minus => str "-readonly "

def mappedOptional : MappedSign → Print Unit
  | .none => pure ()
  | .plain => str "?"
  | .plus => str "+?"
  | .minus => str "-?"

def mappedType (name : String) (readonlySign optionalSign : MappedSign) (ps : List Piece) :
    Print Unit := do
  str "\x7b "
  mappedReadonly readonlySign
  str ("[" ++ name)
  (nth ps 0).after " in "
  (nth ps 1).after " as "
  str "]"
  mappedOptional optionalSign
  (nth ps 2).after " : "
  str " \x7d"

def conditionalType (ps : List Piece) : Print Unit := do
  (nth ps 0).print
  str " extends "
  (nth ps 1).print
  str " ? "
  (nth ps 2).print
  str " : "
  (nth ps 3).print

/-- The key of a member of a type. -/
def memberKey (p : Piece) (isComputed : Bool) (place : Place) : Print Unit :=
  if isComputed then key p true else p.printer (place.withLevel Level.comma)

def propertySignature (isOptional isReadonly isComputed : Bool) (ps : List Piece) (place : Place) :
    Print Unit := do
  mark isReadonly "readonly "
  memberKey (nth ps 0) isComputed place
  mark isOptional "?"
  (nth ps 1).after ": "

def methodSignature (form : AccessorForm) (isOptional isComputed : Bool) (ps : List Piece)
    (place : Place) : Print Unit := do
  accessorMark form
  memberKey (nth ps 0) isComputed place
  mark isOptional "?"
  signature (nth ps 1) (nth ps 2) (nth ps 3)

def indexSignature (name : String) (isReadonly : Bool) (ps : List Piece) : Print Unit := do
  mark isReadonly "readonly "
  str ("[" ++ name)
  (nth ps 0).after ": "
  str "]"
  (nth ps 1).after ": "

def typePredicate (isAsserts : Bool) (ps : List Piece) : Print Unit := do
  mark isAsserts "asserts "
  (nth ps 0).print
  (nth ps 1).after " is "

def importType (ps : List Piece) : Print Unit := do
  str "import("
  (nth ps 0).print
  (nth ps 1).after ", "
  str ")"
  (nth ps 2).after "."
  (nth ps 3).print

def namedMember (label : String) (isOptional : Bool) (ps : List Piece) : Print Unit := do
  str label
  mark isOptional "?"
  str ": "
  (nth ps 0).print

/-- A template of types. With types in it the fixed parts stay as they were written. -/
def templateType (quasis : List Quasi) (ps : List Piece) : Print Unit := do
  if ps.isEmpty then template quasis ps
  else
    str "\x60"
    templateParts (quasis.map (·.raw)) ps
    str "\x60"

/-- A type with a sign before or after it. -/
def signedType (sign : String) (isBefore : Bool) (ps : List Piece) : Print Unit := do
  mark isBefore sign
  (nth ps 0).print
  mark (!isBefore) sign

end Nativize.Syntax.Layout
