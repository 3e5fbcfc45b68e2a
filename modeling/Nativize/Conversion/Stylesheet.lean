import Nativize.Conversion.Pass
import Nativize.Conversion.Template
import Nativize.Profile.Basic
import Nativize.Style.Resolution

/-!
# Stylesheets

The style table of a program is the first object literal that a statement of the program binds to
the name for styles. A conversion takes it away, resolves its rules and binds the result of the
stylesheet API at the end of the program. The same table can be evaluated where its values are
literals.
-/

namespace Nativize.Conversion

open Syntax

/-- The declarators of a variable declaration, exported or not. -/
def topDeclarators : Ast → List Ast
  | .node (.variableDecl ..) _ items => items
  | .node (.exportNamed ..) _ (.node (.variableDecl ..) _ items :: _) => items
  | _ => []

/-- The statement with other declarators. -/
def withDeclarators (items : List Ast) : Ast → Ast
  | .node (.variableDecl k d) l _ => .node (.variableDecl k d) l items
  | .node (.exportNamed s o) l (.node (.variableDecl k d) vl _ :: rest) =>
    .node (.exportNamed s o) l (.node (.variableDecl k d) vl items :: rest)
  | other => other

def isExport : Ast → Bool
  | .node (.exportNamed ..) _ _ => true
  | _ => false

/-- The value that a declarator gives to a variable. -/
def valueFor? (name : String) : Ast → Option Ast
  | .node (.declarator _) _ [.node (.binding n) _ _, _, value] =>
    if n = name then some value else none
  | _ => none

/-- The properties of an object literal. -/
def objectEntries? : Ast → Option (List (String × Ast))
  | .node .object _ properties => some (namedEntries properties)
  | _ => none

/-- The entries of the style table that a declarator binds. -/
def tableOf? (binding : String) (declarator : Ast) : Option (List (String × Ast)) :=
  (valueFor? binding declarator).bind objectEntries?

/-- The style table among declarators, and the declarators without it. -/
def takeFromDeclarators (binding : String) :
    List Ast → Option (List (String × Ast) × List Ast)
  | [] => none
  | d :: rest =>
    match tableOf? binding d with
    | some table => some (table, rest)
    | none => (takeFromDeclarators binding rest).map fun (table, others) => (table, d :: others)

/-- A style table that was taken from a program. -/
structure TakenTable where
  entries : List (String × Ast)
  isExported : Bool
  /-- The statements of the program without the table. -/
  others : List Ast

/-- Take the style table from statements. A declaration that is left empty goes with it. -/
def takeTable (binding : String) : List Ast → Option TakenTable
  | [] => none
  | s :: rest =>
    match takeFromDeclarators binding (topDeclarators s) with
    | some (table, []) => some ⟨table, isExport s, rest⟩
    | some (table, items) => some ⟨table, isExport s, withDeclarators items s :: rest⟩
    | none => (takeTable binding rest).map fun t => { t with others := s :: t.others }

/-- The value is a call of the stylesheet API. -/
def isStylesheetCall (names : Names) : Ast → Bool
  | .node (.call ..) _ (.node (.member method _) _ [.node (.reference object) _ _] :: _) =>
    object = names .stylesheetApi && method = names .stylesheetCreate
  | _ => false

/-- The program binds a stylesheet already. -/
def hasStylesheet (names : Names) (parts : List Ast) : Bool :=
  (parts.flatMap topDeclarators).any fun d =>
    ((valueFor? (names .stylesBinding) d).map (isStylesheetCall names)).getD false

/-- The text of a value, if it is a string literal. -/
def literalText? : Ast → Option String
  | .node (.string value) _ _ => some value.text
  | _ => none

/-- A number as an expression. -/
def numberLiteral (n : Number) : Ast := .leaf (.number n "")

/-- Resolve a rule of expressions. -/
def resolveEntries (tables : Tables) (entries : List (String × Ast)) : OrderedMap Ast :=
  Style.mergeRule tables literalText? numberLiteral (.ofList entries)

/-- An object literal with the given entries. -/
def objectOf (entries : List (String × Ast)) : Ast :=
  .of .object (entries.map fun e => namedProperty e.1 e.2)

/-- The rules of a table on the platform. What is no rule, and a rule that is left empty, is
dropped. -/
def resolveRules (tables : Tables) (table : List (String × Ast)) : List (String × Ast) :=
  table.filterMap fun e =>
    (objectEntries? e.2).bind fun rule =>
      let resolved := resolveEntries tables rule
      if resolved.isEmpty then none else some (e.1, objectOf resolved.entries)

/-- The statement that binds a stylesheet, as a template. -/
def stylesheetText (names : Names) (isExported : Bool) : String :=
  (if isExported then "export " else "") ++ "const " ++ names .stylesBinding ++ " = "
    ++ names .stylesheetApi ++ "." ++ names .stylesheetCreate ++ "(\x7b\x7d);"

/-- Give the call of a declarator the table as its only argument. -/
def withTable? (table : Ast) : List Ast → Option (List Ast)
  | .node (.declarator d) l
      [pattern, type, .node (.call o q _) cl (callee :: generics :: _)] :: rest =>
    let call := Ast.node (.call o q []) cl [callee, generics, table]
    some (.node (.declarator d) l [pattern, type, call] :: rest)
  | _ => none

/-- The statement that binds a stylesheet. -/
def stylesheetStatement (names : Names) (table : Ast) (isExported : Bool) :
    Except ProfileFault Ast := do
  let text := stylesheetText names isExported
  let statement ← templateStatement text
  match withTable? table (topDeclarators statement) with
  | some items => return withDeclarators items statement
  | none => throw (.templateCall text)

/-- What became of the stylesheet of a program. -/
inductive StylesheetOutcome where
  /-- The table was replaced, and so many rules are left. -/
  | converted (rules : Nat)
  /-- There was no table, and an empty stylesheet was added. -/
  | empty
  /-- The program bound a stylesheet before. -/
  | already
deriving DecidableEq, Repr

/-- Replace the style table of a program by a stylesheet. -/
def convertStylesheet (p : Profile) : Pass StylesheetOutcome := do
  let parts ← Pass.getStatements
  match takeTable (p.names .stylesBinding) parts with
  | some taken =>
    Pass.setStatements taken.others
    let rules := resolveRules p.tables taken.entries
    let statement ← Pass.require (stylesheetStatement p.names (objectOf rules) taken.isExported)
    Pass.setStatements (taken.others ++ [statement])
    return .converted rules.length
  | none =>
    if hasStylesheet p.names parts then return .already
    let statement ← Pass.require (stylesheetStatement p.names (objectOf []) false)
    Pass.setStatements (parts ++ [statement])
    return .empty

/-- The value of an expression that is a literal. -/
def literalValue? : Ast → Option Style.Value
  | .node (.string value) _ _ => some (.text value.text)
  | .node (.number n _) _ _ => some (.number n)
  | .node (.unary op) _ [.node (.number n _) _ _] =>
    if op = "-" then some (.number n.negate) else none
  | _ => none

/-- The evaluated entries of a rule, if all of them are literals. -/
def literalRule? (rule : List (String × Ast)) : Option Style.Rule :=
  (rule.mapM fun e => (literalValue? e.2).map fun v => (e.1, v)).map .ofList

/-- The evaluated form of a rule on the platform. A rule that is not made of literals, or that is
left empty, has none. -/
def evaluatedRule? (tables : Tables) (value : Ast) : Option Style.Rule :=
  ((objectEntries? value).bind literalRule?).bind fun rule =>
    let resolved := rule.resolve tables
    if resolved.isEmpty then none else some resolved

/-- The style table of a program, evaluated. -/
def styleTable (p : Profile) (t : Ast) : Style.Table :=
  match takeTable (p.names .stylesBinding) (statements t) with
  | some taken =>
    .ofList (taken.entries.filterMap fun e => (evaluatedRule? p.tables e.2).map fun r => (e.1, r))
  | none => .empty

end Nativize.Conversion
