import Nativize.Syntax.Parser.Expression

/-!
# Statements and declarations

Statements of functions and programs, and the declarations of variables, functions, classes and
types.
-/

namespace Nativize.Syntax.Parse

/-- What a declaration of variables must hold. -/
inductive VariableUse where
  | statement
  /-- The head of a loop, where a value may be missing. -/
  | loopHead
deriving DecidableEq

def isPatternNode : Ast → Bool
  | .node .objectPattern _ _ => true
  | .node .arrayPattern _ _ => true
  | _ => false

/-- The keyword declares a resource that is given back at the end of its block. -/
def isResource (keyword : String) : Bool := keyword == "using" || keyword == "await using"

/-- One declarator. Constants and patterns need a value, unless they only describe one, and so does
a resource, which has a plain name. A variable that is surely set has a type and no value. -/
def declarator (rules : Rules) (keyword : String) (use : VariableUse) (isAmbient : Bool) :
    Parse Ast := do
  let p ← rules .pattern
  ensure !(isResource keyword && isPatternNode p)
  let isDefinite ← if isPatternNode p || (← afterBreak) then pure false else eat "!"
  let type ← typeAnnotation rules
  let value ← initializer rules
  ensure !(isDefinite && (type.isAbsent || !value.isAbsent))
  if value.isAbsent && use = .statement && !isAmbient then
    ensure !(keyword == "const" || isResource keyword || isPatternNode p)
  return .of (.declarator isDefinite) [p, type, value]

/-- Variables from their keyword on, without the end of the statement. -/
def variableDecl (rules : Rules) (use : VariableUse) (isDeclare : Bool) : Parse Ast := do
  let keyword ← anyName
  let keyword ←
    if keyword == "await" then do expectWord "using"; pure "await using" else pure keyword
  let isAmbient := isDeclare || (← context).isAmbient
  let items ← separated "," (declarator rules keyword use isAmbient)
  return .of (.variableDecl keyword isDeclare) items

/-- The word `let` before the token is the name of a variable. -/
def followsLetName (t : Token) : Bool :=
  match t.lexeme with
  | .punct p =>
    binaryOperators.contains p || assignmentOperators.contains p || [".", "(", ";"].contains p
  | .word w false => w == "in" || w == "instanceof"
  | _ => false

/-- The word `let` before the token, in the head of a loop, declares variables. -/
def followsLetKeyword (t : Token) : Bool :=
  !t.isWord "in" && (t.isAnyWord || t.isPunct "[" || t.isPunct "\x7b")

/-- A declaration of variables starts at the token. -/
def startsVariables (use : VariableUse) (t : Token) : Bool :=
  let next := t.next
  if t.isWord "var" then true
  else if t.isWord "const" then !next.isWord "enum"
  else if t.isWord "let" then
    if use = .loopHead then followsLetKeyword next else !followsLetName next
  else if t.isWord "using" then
    next.isVariableName && !next.afterBreak && !(next.isWord "of") && !(next.isWord "in")
  else if t.isWord "await" then
    next.isWord "using" && !next.afterBreak && next.next.isVariableName && !next.next.afterBreak
  else false

/-- The statement may not stand alone as the body of another. -/
def isLexicalDeclaration : Ast → Bool
  | .node (.variableDecl keyword isDeclare) _ _ => keyword != "var" && !isDeclare
  | .node (.classLike facts) _ _ => !facts.isAbstract && !facts.isDeclare
  | .node (.functionLike facts) _ _ => facts.isAsync || facts.isGenerator
  | _ => false

/-- The body of a loop or branch. The word `let` declares nothing there. -/
def substatement (rules : Rules) : Parse Ast := do
  let t ← token
  if t.isWord "let" && !followsLetName t.next && !t.next.isPunct "[" then
    let name ← variableName
    semicolon
    return .node .exprStmt t.lead [.leaf (.reference name)]
  else
    let s ← rules .statement
    ensure !isLexicalDeclaration s
    return s

/-- An expression in parentheses. -/
def condition (rules : Rules) : Parse Ast := do
  expect "("
  let e ← rules .expression
  expect ")"
  return e

def block (rules : Rules) : Parse Ast := do
  expect "\x7b"
  return .of .block (← itemsUntil "\x7d" (rules .statement))

def ifStatement (rules : Rules) : Parse Ast := do
  expectWord "if"
  let test ← condition rules
  let yes ← substatement rules
  let no ← if ← eatWord "else" then substatement rules else pure .absent
  return .of .ifElse [test, yes, no]

/-- The head of a loop declares a resource. -/
def declaresResource : Ast → Bool
  | .node (.variableDecl keyword _) _ _ => isResource keyword
  | _ => false

/-- A loop over the parts of a value, from the keyword between them on. -/
def eachLoop (rules : Rules) (isAwait : Bool) (left : Ast) : Parse Ast := do
  if ← eatWord "of" then
    let right ← rules .assignment
    expect ")"
    return .of (.forOf isAwait) [left, right, ← substatement rules]
  else
    ensure !(isAwait || declaresResource left)
    expectWord "in"
    let right ← rules .expression
    expect ")"
    return .of .forIn [left, right, ← substatement rules]

/-- A loop with a counter, from its first semicolon on. -/
def countedLoop (rules : Rules) (start : Ast) : Parse Ast := do
  expect ";"
  let test ← if ← isPunct ";" then pure .absent else rules .expression
  expect ";"
  let step ← if ← isPunct ")" then pure .absent else rules .expression
  expect ")"
  return .of .forLoop [start, test, step, ← substatement rules]

/-- Every declarator of a counting loop has the value that it needs. -/
def isComplete : Ast → Bool
  | .node (.variableDecl keyword _) _ items => items.all fun d =>
    match d with
    | .node (.declarator _) _ [p, _, value] =>
      !value.isAbsent || !(keyword == "const" || isPatternNode p)
    | _ => true
  | _ => true

/-- A loop. One that awaits goes over the parts of a value; the names `async` and `let` may not be
taken for the keywords there. -/
def forStatement (rules : Rules) : Parse Ast := do
  expectWord "for"
  let isAwait ← eatWord "await"
  if isAwait then ensure (← context).allowAwait
  expect "("
  let t ← token
  if t.isPunct ";" then
    ensure !isAwait
    countedLoop rules .absent
  else if startsVariables .loopHead t then
    let head ← within (fun c => { c with allowIn := false }) (variableDecl rules .loopHead false)
    if (← isWord "of") || (← isWord "in") then eachLoop rules isAwait head
    else
      ensure (!isAwait && isComplete head)
      countedLoop rules head
  else
    let head ← within (fun c => { c with allowIn := false }) (rules .expression)
    if ← isWord "of" then
      ensure !(t.isWord "let" || (t.isWord "async" && t.next.isWord "of" && !isAwait))
      eachLoop rules isAwait (← targetOf "=" head)
    else if ← isWord "in" then eachLoop rules isAwait (← targetOf "=" head)
    else
      ensure !isAwait
      countedLoop rules head

def whileStatement (rules : Rules) : Parse Ast := do
  expectWord "while"
  let test ← condition rules
  return .of .whileLoop [test, ← substatement rules]

def doStatement (rules : Rules) : Parse Ast := do
  expectWord "do"
  let body ← substatement rules
  expectWord "while"
  let test ← condition rules
  discard (eat ";")
  return .of .doWhile [body, test]

/-- The name of a label on the same line, if there is one. -/
def labelName? : Parse (Option String) := do
  if ← afterBreak then return none
  else
    match ← variableName? with
    | some name => do advance; return some name
    | none => return none

/-- One case of a switch, up to the next one. -/
def switchCase (rules : Rules) : Parse Ast := do
  let test ← if ← eatWord "default" then pure .absent
    else do
      expectWord "case"
      rules .expression
  expect ":"
  let statements ← many do
    if (← isWord "case") || (← isWord "default") || (← isPunct "\x7d") then return none
    else return some (← rules .statement)
  return .of .switchCase (test :: statements)

def switchStatement (rules : Rules) : Parse Ast := do
  expectWord "switch"
  let subject ← condition rules
  expect "\x7b"
  return .of .switchStmt (subject :: (← itemsUntil "\x7d" (switchCase rules)))

def handler (rules : Rules) : Parse Ast := do
  expectWord "catch"
  if ← eat "(" then
    let p ← rules .pattern
    let type ← typeAnnotation rules
    expect ")"
    return .of .handler [p, type, ← rules .block]
  else return .of .handler [.absent, .absent, ← rules .block]

def tryStatement (rules : Rules) : Parse Ast := do
  expectWord "try"
  let body ← rules .block
  let onError ← if ← isWord "catch" then handler rules else pure .absent
  let onEnd ← if ← eatWord "finally" then rules .block else pure .absent
  ensure !(onError.isAbsent && onEnd.isAbsent)
  return .of .tryStmt [body, onError, onEnd]

def returnStatement (rules : Rules) : Parse Ast := do
  expectWord "return"
  ensure (← context).allowReturn
  let e ← if ← atSemicolon then pure .absent else rules .expression
  semicolon
  return .of .returnStmt [e]

def throwStatement (rules : Rules) : Parse Ast := do
  expectWord "throw"
  ensure !(← afterBreak)
  let e ← rules .expression
  semicolon
  return .of .throwStmt [e]

def typeAlias (rules : Rules) (isDeclare : Bool) : Parse Ast := do
  expectWord "type"
  let name ← bindingName
  let generics ← typeParams? rules
  expect "="
  let type ← rules .type
  semicolon
  return .of (.typeAlias isDeclare) [name, generics, type]

/-- A name with points in it, read as an expression. -/
def isPath : Ast → Bool
  | .node (.reference _) _ _ => true
  | .node (.member _ false) _ [object] => isPath object
  | .node .paren _ [e] => isPath e
  | _ => false

/-- A type that an interface extends. -/
def baseType (rules : Rules) : Parse Ast := do
  let (base, args) ← match ← rules .leftHandSide with
    | .node .instantiate _ [inner, args] => pure (inner, args)
    | other => do pure (other, ← typeArgs? rules)
  ensure (isPath base)
  return .of .heritage [base, args]

def interfaceDecl (rules : Rules) (isDeclare : Bool) : Parse Ast := do
  expectWord "interface"
  let name ← bindingName
  let generics ← typeParams? rules
  let bases ← if ← eatWord "extends" then separated "," (baseType rules) else pure []
  expect "\x7b"
  let members ← typeMembers rules
  return .of (.interfaceDecl isDeclare) [name, generics, .of .group bases, .of .group members]

/-- The key names a member of an enumeration: it is a word or a string, which may be in brackets. -/
def isMemberName (key : Ast) (isComputed : Bool) : Bool :=
  match key with
  | .node (.name _) _ _ => !isComputed
  | .node (.string _) _ _ => true
  | .node (.template _) _ [] => isComputed
  | _ => false

/-- A member of an enumeration. -/
def enumMember (rules : Rules) : Parse Ast := do
  let comments ← lead
  let (key, isComputed) ← propertyKey rules
  ensure (isMemberName key isComputed)
  let value ← initializer rules
  return .node (.enumMember isComputed) comments [key, value]

def enumDecl (rules : Rules) (isConst isDeclare : Bool) : Parse Ast := do
  expectWord "enum"
  let name ← bindingName
  expect "\x7b"
  let members ← listUntil "\x7d" (enumMember rules)
  return .of (.enumDecl isConst isDeclare) (name :: members)

/-- The statements of a module in braces. -/
def moduleBody (rules : Rules) : Parse Ast := do
  expect "\x7b"
  let marks ← directives rules
  return .of (.moduleBody marks) (← itemsUntil "\x7d" (rules .statement))

/-- The name of a module or namespace, and whether the module may lack a body. -/
def declaredModule (keyword : String) : Parse (Ast × Bool) := do
  if keyword == "global" then return (.leaf (.name "global"), false)
  else
    match ← lexeme with
    | .string value _ => do advance; return (.leaf (.string value), true)
    | _ => do
      let name ← iterate (← bindingName) fun left => do
        if ← eat "." then return some (.of (.qualifiedName (← variableName)) [left])
        else return none
      return (name, false)

/-- A module or namespace, from its keyword on. -/
def moduleDecl (rules : Rules) (isDeclare : Bool) : Parse Ast := do
  let keyword ← anyName
  let (name, mayLackBody) ← declaredModule keyword
  if mayLackBody && !(← isPunct "\x7b") then
    semicolon
    return .of (.moduleDecl keyword isDeclare) [name, .absent]
  else
    let body ← within (fun c => { c with isAmbient := c.isAmbient || isDeclare }) (moduleBody rules)
    return .of (.moduleDecl keyword isDeclare) [name, body]

/-- A class declaration with its modifiers. -/
def classDecl (rules : Rules) (marks : Ast) (isDeclare : Bool) : Parse Ast := do
  let isAbstract ← eatWord "abstract"
  classLike rules { isDeclaration := true, isAbstract := isAbstract, isDeclare := isDeclare } marks

/-- A function declaration, which has a name. -/
def functionDecl (rules : Rules) (isDeclare : Bool) : Parse Ast := do
  let f ← functionLike rules .declaration isDeclare
  ensure !((f.part 0).isAbsent)
  return f

/-- The word is followed on its line by a name. -/
def Token.startsNamed (t : Token) : Bool := t.next.isVariableName && !t.next.afterBreak

/-- A declaration that a keyword announces. Types and modules have keywords that are names
elsewhere. -/
def declaration? (rules : Rules) (isDeclare : Bool) : Parse (Option Ast) := do
  let t ← token
  let next := t.next
  match t.lexeme with
  | .word "function" false => return some (← functionDecl rules isDeclare)
  | .word "async" false =>
    if next.isWord "function" && !next.afterBreak then return some (← functionDecl rules isDeclare)
    else return none
  | .word "class" false => return some (← classDecl rules (.of .group []) isDeclare)
  | .word "abstract" false =>
    if next.isWord "class" && !next.afterBreak then
      return some (← classDecl rules (.of .group []) isDeclare)
    else return none
  | .word "enum" false => return some (← enumDecl rules false isDeclare)
  | .word "type" false =>
    if Token.startsNamed t then return some (← typeAlias rules isDeclare) else return none
  | .word "interface" false =>
    if Token.startsNamed t then return some (← interfaceDecl rules isDeclare) else return none
  | .word "namespace" false =>
    if Token.startsNamed t then return some (← moduleDecl rules isDeclare) else return none
  | .word "module" false =>
    let isNamed := match next.lexeme with
      | .string .. => true
      | _ => next.isVariableName
    if isNamed && !next.afterBreak then return some (← moduleDecl rules isDeclare) else return none
  | .word "global" false =>
    if next.isPunct "\x7b" && !next.afterBreak then return some (← moduleDecl rules isDeclare)
    else return none
  | .word "const" false =>
    if next.isWord "enum" then
      advance
      return some (← enumDecl rules true isDeclare)
    else variableStatement
  | _ => variableStatement
where
  variableStatement : Parse (Option Ast) := do
    if startsVariables .statement (← token) then
      let d ← variableDecl rules .statement isDeclare
      semicolon
      return some d
    else return none

/-- The words that may follow `declare`. -/
def declarable : List String :=
  ["var", "let", "const", "function", "class", "abstract", "enum", "interface", "type", "namespace",
   "module", "global", "async"]

/-- A declaration after its keyword `declare`. -/
def declared? (rules : Rules) : Parse (Option Ast) := do
  let t ← token
  let isAnnounced := match t.next.lexeme with
    | .word w false => declarable.contains w && !t.next.afterBreak
    | _ => false
  if t.isWord "declare" && isAnnounced then attempt do
    advance
    match ← within (fun c => { c with isAmbient := true }) (declaration? rules true) with
    | some d => return d
    | none => failure
  else return none

/-- A statement that is an expression, or one with a label. -/
def expressionOrLabeled (rules : Rules) : Parse Ast := do
  let t ← token
  if t.isVariableName && t.next.isPunct ":" then
    let label ← variableName
    expect ":"
    return .of (.labeled label) [← substatement rules]
  else
    let e ← rules .expression
    semicolon
    return .of .exprStmt [e]

/-- A statement or declaration, without the comments before it. -/
def bareStatement (rules : Rules) : Parse Ast := do
  match ← lexeme with
  | .punct "\x7b" => rules .block
  | .punct ";" => do advance; return .leaf .emptyStmt
  | .word "export" false => rules .moduleItem
  | .word "if" false => ifStatement rules
  | .word "for" false => forStatement rules
  | .word "while" false => whileStatement rules
  | .word "do" false => doStatement rules
  | .word "switch" false => switchStatement rules
  | .word "try" false => tryStatement rules
  | .word "return" false => returnStatement rules
  | .word "throw" false => throwStatement rules
  | .word "break" false => do
    advance
    let label ← labelName?
    semicolon
    return .leaf (.breakStmt label)
  | .word "continue" false => do
    advance
    let label ← labelName?
    semicolon
    return .leaf (.continueStmt label)
  | .word "debugger" false => do
    advance
    semicolon
    return .leaf .debuggerStmt
  | .word "with" false => do
    advance
    let subject ← condition rules
    return .of .withStmt [subject, ← substatement rules]
  | .word "import" false =>
    if (← nextIsPunct "(") || (← nextIsPunct ".") then expressionOrLabeled rules
    else rules .moduleItem
  | _ =>
    match ← declared? rules with
    | some d => return d
    | none =>
      match ← declaration? rules false with
      | some d => return d
      | none => expressionOrLabeled rules

/-- Mark the function that a declaration gives a name to as one whose calls have no effects. -/
def markQuietDeclaration : Ast → Ast
  | .node (.functionLike facts) l p => .node (.functionLike { facts with isQuiet := true }) l p
  | .node (.variableDecl "const" isDeclare) l (.node k m [p, type, value] :: rest) =>
    .node (.variableDecl "const" isDeclare) l (.node k m [p, type, markQuiet value] :: rest)
  | other => other

/-- Mark the function that a statement declares or offers as one whose calls have no effects. -/
def markQuietStatement : Ast → Ast
  | .node (.exportNamed source typeOnly) l [d] =>
    .node (.exportNamed source typeOnly) l [markQuietDeclaration d]
  | .node .exportDefault l [e] => .node .exportDefault l [markQuiet e]
  | other => markQuietDeclaration other

/-- A statement or declaration. Marks before it tell about the function that it declares. -/
def statement (rules : Rules) : Parse Ast := do
  let t ← token
  let s ← if t.isPunct "@" then rules .decorated
    else do pure ((← bareStatement rules).withLead t.lead)
  return if t.isQuiet then markQuietStatement s else s

end Nativize.Syntax.Parse
