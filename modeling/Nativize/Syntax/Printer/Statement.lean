import Nativize.Syntax.Printer.Type

/-!
# Layout of statements and modules
-/

namespace Nativize.Syntax.Layout

open Print

def isBlock : Ast → Bool
  | .node .block _ _ => true
  | _ => false

def isEmptyStatement : Ast → Bool
  | .node .emptyStmt _ _ => true
  | _ => false

/-- The body of a loop or branch: a block, or a statement on the same line. -/
def branch (p : Piece) (place : Place) : Print Unit := do
  if isBlock p.tree then
    space
    p.bare place
    newline
  else if isEmptyStatement p.tree then str ";\n"
  else
    spaceNext
    p.within place

def block (ps : List Piece) (place : Place) : Print Unit :=
  braces ps.isEmpty (all (ps.map fun p => p.within place))

/-- A branch after which an `else` could be taken for its own. -/
def endsInIf : Ast → Bool
  | .node .ifElse _ [_, _, no] => no.isAbsent || endsInIf no
  | .node .forLoop _ [_, _, _, body] => endsInIf body
  | .node .forIn _ [_, _, body] => endsInIf body
  | .node (.forOf _) _ [_, _, body] => endsInIf body
  | .node .whileLoop _ [_, body] => endsInIf body
  | .node .withStmt _ [_, body] => endsInIf body
  | .node (.labeled _) _ [body] => endsInIf body
  | _ => false

def isIf : Ast → Bool
  | .node .ifElse _ _ => true
  | _ => false

def ifElse (ps : List Piece) (place : Place) : Print Unit := do
  let yes := nth ps 1
  let no := nth ps 2
  str "if ("
  (nth ps 0).print
  str ")"
  if isBlock yes.tree then
    space
    yes.bare place
    if no.isThere then space else newline
  else if endsInIf yes.tree then
    space
    braces false (yes.within place)
    if no.isThere then space else newline
  else
    branch yes place
    if no.isThere then indent
  if no.isThere then
    word "else"
    if isBlock no.tree then
      space
      no.bare place
      newline
    else if isIf no.tree then
      space
      no.bare place
    else branch no place

/-- The first part of a loop's head. -/
def loopHead (p : Piece) : Print Unit := p.printer { forbidIn := true, isInner := true }

def isAsyncName : Ast → Bool
  | .node (.reference name) _ _ => name = "async"
  | _ => false

def forLoop (ps : List Piece) (place : Place) : Print Unit := do
  str "for ("
  loopHead (nth ps 0)
  str ";"
  (nth ps 1).after " "
  str ";"
  (nth ps 2).after " "
  str ")"
  branch (nth ps 3) place

def eachLoop (start keyword : String) (level : Nat) (ps : List Piece) (place : Place) :
    Print Unit := do
  str start
  wrap (isAsyncName (nth ps 0).tree) (loopHead (nth ps 0))
  str keyword
  (nth ps 1).atLevel level
  str ")"
  branch (nth ps 2) place

def whileLoop (start : String) (ps : List Piece) (place : Place) : Print Unit := do
  str start
  (nth ps 0).print
  str ")"
  branch (nth ps 1) place

def doWhile (ps : List Piece) (place : Place) : Print Unit := do
  str "do"
  if isBlock (nth ps 0).tree then
    space
    (nth ps 0).bare place
    space
  else if isEmptyStatement (nth ps 0).tree then
    indent
    endStatement
  else
    newline
    indented ((nth ps 0).within place)
    indent
  str "while ("
  (nth ps 1).print
  str ")"
  endStatement

def switchStmt (ps : List Piece) (place : Place) : Print Unit := do
  str "switch ("
  (nth ps 0).print
  str ") "
  braces (ps.drop 1).isEmpty (all ((ps.drop 1).map fun p => p.within place))
  newline

def switchCase (ps : List Piece) (place : Place) : Print Unit := do
  indent
  if (nth ps 0).isThere then
    str "case "
    (nth ps 0).print
  else str "default"
  str ":"
  match ps.drop 1 with
  | [only] => branch only place
  | statements => do
    newline
    indented (all (statements.map fun p => p.within place))

def tryStmt (ps : List Piece) (place : Place) : Print Unit := do
  str "try "
  (nth ps 0).bare place
  if (nth ps 1).isThere then
    space
    (nth ps 1).within place
  if (nth ps 2).isThere then
    str " finally "
    (nth ps 2).bare place
  newline

/-- What handles an error. The type of its parameter is not printed. -/
def handler (ps : List Piece) (place : Place) : Print Unit := do
  str "catch"
  if (nth ps 0).isThere then
    str " ("
    (nth ps 0).print
    str ")"
  space
  (nth ps 2).bare place

/-- A keyword with an optional name after it. -/
def jump (keyword : String) (label : Option String) : Print Unit := do
  str keyword
  match label with
  | some name => str (" " ++ name)
  | none => pure ()
  endStatement

def variableDecl (keyword : String) (isDeclare : Bool) (ps : List Piece) (place : Place) :
    Print Unit := do
  spaceBeforeWord
  mark isDeclare "declare "
  str keyword
  unless ps.isEmpty do space
  list (ps.map fun p => p.within place)

def declarator (ps : List Piece) (place : Place) : Print Unit := do
  (nth ps 0).print
  (nth ps 1).after ": "
  if (nth ps 2).isThere then
    str " = "
    (nth ps 2).printer (place.withLevel Level.comma)

/-! ## Modules -/

def moduleName : ModuleName → Print Unit
  | .ident name => str name
  | .string value => str (stringText value)

def attributes (attributes? : Option ModuleAttributes) : Print Unit := do
  match attributes? with
  | none => pure ()
  | some a => do
    str (" " ++ a.keyword ++ " \x7b")
    unless a.entries.isEmpty do
      space
      list (a.entries.map fun (name, value) => do
        moduleName name
        str ": "
        str (stringText value))
      space
    str "\x7d"

def importSpecifier : ImportSpecifier → Print Unit
  | .byDefault name => str name
  | .byNamespace name => str ("* as " ++ name)
  | .byName imported name typeOnly => do
    mark typeOnly "type "
    moduleName imported
    if imported.text ≠ name then str (" as " ++ name)

def ImportSpecifier.isNamed : ImportSpecifier → Bool
  | .byName .. => true
  | _ => false

/-- The specifiers of an import, runs of named ones in braces. -/
def importSpecifiers (isFirst inBraces : Bool) : List ImportSpecifier → Print Unit
  | [] => if inBraces then str " \x7d" else pure ()
  | s :: rest => do
    if ImportSpecifier.isNamed s then
      if inBraces then comma
      else
        unless isFirst do str ","
        str " \x7b "
      importSpecifier s
      importSpecifiers false true rest
    else
      if inBraces then str " \x7d"
      if isFirst then space else comma
      importSpecifier s
      importSpecifiers false false rest

def importDecl (d : ImportDecl) : Print Unit := do
  str "import"
  mark d.typeOnly " type"
  match d.phase with
  | some phase => str (" " ++ phase)
  | none => pure ()
  match d.specifiers with
  | some [] => do
    str " \x7b\x7d from \""
    str d.source.text
    str "\""
    attributes d.attributes
    endStatement
  | some specifiers => do
    importSpecifiers true false specifiers
    str " from "
    finish
  | none => do
    space
    finish
where
  finish : Print Unit := do
    str (stringText d.source)
    attributes d.attributes
    endStatement

def exportSource (source : ExportSource) : Print Unit := do
  str " from "
  str (stringText source.source)
  attributes source.attributes

def exportAll (exported : Option ModuleName) (source : ExportSource) (typeOnly : Bool) :
    Print Unit := do
  str "export"
  mark typeOnly " type"
  str " *"
  match exported with
  | some name => do
    str " as "
    moduleName name
  | none => pure ()
  exportSource source
  endStatement

/-- The text of a name in a list of exports. -/
def specifierText : Ast → String
  | .node (.reference name) _ _ => name
  | .node (.name name) _ _ => name
  | .node (.string value) _ _ => value.text
  | _ => ""

/-- A name in a list of exports, after its comments. -/
def exportedName (p : Piece) : Print Unit := do
  if ← anyPending p.tree.lead then
    comments p.tree.lead
    indent
  p.print

def exportSpecifier (typeOnly : Bool) (ps : List Piece) : Print Unit := do
  mark typeOnly "type "
  exportedName (nth ps 0)
  if specifierText (nth ps 0).tree ≠ specifierText (nth ps 1).tree then
    str " as "
    exportedName (nth ps 1)

/-- A declaration that ends in a semicolon. -/
def endsInSemicolon : Ast → Bool
  | .node (.variableDecl ..) _ _ => true
  | .node (.typeAlias _) _ _ => true
  | .node (.importEquals ..) _ _ => true
  | _ => false

/-- A function declaration whose calls have no effects. -/
def isQuietFunction : Ast → Bool
  | .node (.functionLike facts) _ _ => facts.isQuiet && facts.form ≠ .expression
  | _ => false

/-- The mark of a function that is exported, on a line of its own. -/
def exportMark (value : Ast) : Print Unit := do
  if isQuietFunction value then
    str quietMark
    newline

def exportNamed (source : Option ExportSource) (typeOnly : Bool) (ps : List Piece) (place : Place) :
    Print Unit := do
  let declaration := nth ps 0
  exportMark declaration.tree
  str "export"
  mark typeOnly " type"
  if declaration.isThere then
    space
    declaration.bare place
    if endsInSemicolon declaration.tree then endStatement else newline
  else
    str " \x7b"
    unless (ps.drop 1).isEmpty do
      space
      list ((ps.drop 1).map Piece.print)
      space
    str "\x7d"
    match source with
    | some s => exportSource s
    | none => pure ()
    endStatement

def exportDefault (ps : List Piece) (place : Place) : Print Unit := do
  let value := nth ps 0
  exportMark value.tree
  str "export default "
  match value.tree with
  | .node (.functionLike facts) _ _ =>
    if facts.form = .expression then expression value
    else do
      value.bare place
      newline
  | .node (.classLike facts) _ _ =>
    if facts.isDeclaration then do
      value.bare place
      newline
    else expression value
  | .node (.interfaceDecl _) _ _ => value.bare place
  | _ => expression value
where
  expression (value : Piece) : Print Unit := do
    startExport
    value.atLevel Level.comma
    endStatement

/-! ## Declarations of types -/

def typeAlias (isDeclare : Bool) (ps : List Piece) : Print Unit := do
  mark isDeclare "declare "
  str "type "
  (nth ps 0).print
  (nth ps 1).print
  str " = "
  (nth ps 2).print

def interfaceDecl (ps : List Piece) : Print Unit := do
  str "interface "
  (nth ps 0).print
  (nth ps 1).print
  unless (nth ps 2).parts.isEmpty do
    str " extends "
    groupList (nth ps 2)
  space
  typeMembers false (nth ps 3).parts

/-- An enumeration, with an indentation of its own. -/
def enumDecl (isConst isDeclare : Bool) (ps : List Piece) : Print Unit := do
  indent
  mark isDeclare "declare "
  mark isConst "const "
  str "enum "
  (nth ps 0).print
  space
  braces (ps.drop 1).isEmpty (memberLines ",\n" "\n" {} (ps.drop 1))

def enumMember (isComputed : Bool) (ps : List Piece) : Print Unit := do
  key (nth ps 0) isComputed
  (nth ps 1).after " = "

def moduleDecl (keyword : String) (isDeclare : Bool) (ps : List Piece) (place : Place) :
    Print Unit := do
  mark isDeclare "declare "
  if keyword == "global" then str "global"
  else
    str (keyword ++ " ")
    (nth ps 0).print
  if (nth ps 1).isThere then
    space
    (nth ps 1).within place
  else str ";"

def moduleBody (directives : List Directive) (ps : List Piece) (place : Place) : Print Unit :=
  braces (directives.isEmpty && ps.isEmpty) do
    all (directives.map directive)
    all (ps.map fun p => p.within place)

def program (hashbang : Option String) (directives : List Directive) (closing : List Comment)
    (ps : List Piece) : Print Unit := do
  match hashbang with
  | some text => str ("#!" ++ text ++ "\n")
  | none => pure ()
  directivesAndStatements directives ps {}
  comments closing

end Nativize.Syntax.Layout
