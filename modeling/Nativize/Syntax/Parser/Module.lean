import Nativize.Syntax.Parser.Statement

/-!
# Imports and exports

The declarations that bind names of other modules or offer names to them.
-/

namespace Nativize.Syntax.Parse

/-- The name of something that a module offers. -/
def moduleName : Parse ModuleName := do
  match ← lexeme with
  | .string value _ => do
    ensure !value.lone
    advance
    return .string value
  | .word name _ => do advance; return .ident name
  | _ => failure

/-- The name of a module. -/
def moduleSource : Parse StringValue := do
  match ← lexeme with
  | .string value _ => do advance; return value
  | _ => failure

/-- The key of an attribute of a module request. -/
def attributeKey : Parse ModuleName := do
  match ← lexeme with
  | .string value _ => do advance; return .string value
  | _ => return .ident (← anyName)

/-- The attributes of a module request, if there are any. No two have the same key. -/
def moduleAttributes? : Parse (Option ModuleAttributes) := do
  let t ← token
  let keyword? := if t.isWord "with" then some "with"
    else if t.isWord "assert" && !t.afterBreak then some "assert"
    else none
  match keyword? with
  | none => return none
  | some keyword => do
    advance
    expect "\x7b"
    let entries ← listUntil "\x7d" do
      let key ← attributeKey
      expect ":"
      return (key, ← moduleSource)
    ensure (entries.map fun e => e.1.text).Nodup
    return some ⟨keyword, entries⟩

/-- A name in a list of imports or exports, with the comments before it. -/
structure ListedName where
  name : ModuleName
  lead : List Comment

/-- A specifier as it is written: what is meant, what it is called if that differs, and whether it
is a type only. -/
structure Specifier where
  meant : ListedName
  renamed : Option ListedName
  typeOnly : Bool

def listedName : Parse ListedName := do
  let comments ← lead
  return ⟨← moduleName, comments⟩

/-- A specifier. The words `type` and `as` may be names themselves. -/
def specifier : Parse Specifier := do
  let atName : Parse Bool := do
    match ← lexeme with
    | .string .. => return true
    | .word .. => return true
    | _ => return false
  let renamed (name : ListedName) (typeOnly : Bool) : Parse Specifier := do
    if ← eatWord "as" then return ⟨name, some (← listedName), typeOnly⟩
    else return ⟨name, none, typeOnly⟩
  let first ← listedName
  if first.name = .ident "type" then
    if ← isWord "as" then
      let second ← listedName
      if ← isWord "as" then
        let third ← listedName
        if ← atName then return ⟨second, some (← listedName), true⟩
        else return ⟨first, some third, false⟩
      else if ← atName then return ⟨first, some (← listedName), false⟩
      else return ⟨second, none, true⟩
    else if ← atName then renamed (← listedName) true
    else return ⟨first, none, false⟩
  else renamed first false

/-- A name can be bound. -/
def isBindable (name : String) : Bool := !isReserved name && name != "await"

/-- A specifier of an import, where all names are types or one may be told to be. -/
def importSpecifier (ofTypes : Bool) : Parse ImportSpecifier := do
  let s ← specifier
  ensure !(ofTypes && s.typeOnly)
  match (s.renamed.getD s.meant).name with
  | .ident name => do
    ensure (isBindable name)
    return .byName s.meant.name name s.typeOnly
  | .string _ => failure

/-- The bindings of an import declaration, from the first one on. An import of types has either a
default or a list. -/
def importBindings (ofTypes : Bool) : Parse (List ImportSpecifier) := do
  let braced : Parse (List ImportSpecifier) := do
    if ← eat "*" then
      expectWord "as"
      return [.byNamespace (← variableName)]
    else
      expect "\x7b"
      listUntil "\x7d" (importSpecifier ofTypes)
  if ← atVariableName then
    let name ← variableName
    if ← eat "," then
      ensure !ofTypes
      return .byDefault name :: (← braced)
    else return [.byDefault name]
  else braced

/-- The module that an import names with an equals sign. -/
def moduleReference : Parse Ast := do
  let t ← token
  if t.isWord "require" && t.next.isPunct "(" then
    advance
    expect "("
    let source ← moduleSource
    expect ")"
    return .of .externalModule [.leaf (.string source)]
  else entityName

/-- An import that names a module with an equals sign, after its keywords. -/
def importEquals (typeOnly : Bool) : Parse Ast := do
  let name ← variableName
  expect "="
  let target ← moduleReference
  semicolon
  return .of (.importEquals name typeOnly) [target]

/-- An import declaration from its keyword on. -/
def importDeclaration : Parse Ast := do
  expectWord "import"
  let finish (specifiers : Option (List ImportSpecifier)) (typeOnly : Bool)
      (phase : Option String) :
      Parse Ast := do
    let source ← moduleSource
    let attributes ← moduleAttributes?
    semicolon
    return .leaf (.importDecl ⟨specifiers, source, typeOnly, phase, attributes⟩)
  match ← lexeme with
  | .string .. => finish none false none
  | _ =>
    let t ← token
    let next := t.next
    let isTypeOnly := t.isWord "type" &&
      (next.isPunct "*" || next.isPunct "\x7b" ||
        (next.isVariableName && (!next.isWord "from" || next.next.isWord "from" ||
          next.next.isPunct "=")))
    let isPhase := (t.isWord "defer" && next.isPunct "*") ||
      (t.isWord "source" && next.isVariableName && (!next.isWord "from" || next.next.isWord "from"))
    let phase ← if isPhase then some <$> anyName else pure none
    if isTypeOnly then advance
    let here ← token
    if here.isVariableName && here.next.isPunct "=" then importEquals isTypeOnly
    else
      let bindings ← importBindings isTypeOnly
      expectWord "from"
      finish (some bindings) isTypeOnly phase

/-- A name in a list of exports. -/
def ListedName.tree (n : ListedName) : Ast :=
  match n.name with
  | .ident name => .node (.name name) n.lead []
  | .string value => .node (.string value) n.lead []

/-- The words besides the reserved ones that no variable of a module is called. -/
def moduleReserved : List String :=
  ["await", "yield", "implements", "interface", "let", "package", "private", "protected",
    "public", "static"]

/-- A name in a list of exports that refers to a variable of the module. -/
def ListedName.reference (n : ListedName) : Parse Ast := do
  match n.name with
  | .ident name => do
    ensure !(isReserved name || moduleReserved.contains name)
    return .node (.reference name) n.lead []
  | .string _ => failure

/-- The source of an export, if it has one. -/
def exportSource? : Parse (Option ExportSource) := do
  if ← eatWord "from" then
    let source ← moduleSource
    return some ⟨source, ← moduleAttributes?⟩
  else return none

/-- A list of exports from its opening brace on. Without a source each name refers to a variable
of the module. -/
def exportList (typeOnly : Bool) : Parse Ast := do
  expect "\x7b"
  let names ← listUntil "\x7d" specifier
  let source ← exportSource?
  semicolon
  let specifiers ← names.mapM fun s => do
    ensure !(typeOnly && s.typeOnly)
    let meant ← if source.isSome then pure s.meant.tree else s.meant.reference
    return Ast.of (.exportSpecifier s.typeOnly) [meant, (s.renamed.getD s.meant).tree]
  return .of (.exportNamed source typeOnly) (.absent :: specifiers)

def exportAll (typeOnly : Bool) : Parse Ast := do
  expect "*"
  let name ← if ← eatWord "as" then some <$> moduleName else pure none
  match ← exportSource? with
  | some source => do
    semicolon
    return .leaf (.exportAll name source typeOnly)
  | none => failure

def exportDefault (rules : Rules) : Parse Ast := do
  let t ← token
  let next := t.next
  let value ←
    if t.isWord "function" || (t.isWord "async" && next.isWord "function" && !next.afterBreak) then
      functionLike rules .declaration false
    else if t.isWord "class" ||
        (t.isWord "abstract" && next.isWord "class" && !next.afterBreak) then
      classDecl rules (.of .group []) false
    else if t.isPunct "@" then do
      let marks ← decorators rules
      classDecl rules marks false
    else if t.isWord "interface" && Token.startsNamed t then interfaceDecl rules false
    else do
      let e ← rules .assignment
      semicolon
      pure e
  let value := if t.isQuiet then markQuietDeclaration value else value
  return .of .exportDefault [value]

/-- An export from its keyword on. -/
def exportDeclaration (rules : Rules) : Parse Ast := do
  expectWord "export"
  let t ← token
  let next := t.next
  if t.isPunct "*" then exportAll false
  else if t.isPunct "\x7b" then exportList false
  else if ← eat "=" then
    let e ← rules .assignment
    semicolon
    return .of .exportAssign [e]
  else if ← eatWord "default" then exportDefault rules
  else if t.isWord "as" && next.isWord "namespace" then
    advance
    advance
    let name ← anyName
    semicolon
    return .leaf (.exportNamespace name)
  else if t.isWord "type" && next.isPunct "\x7b" then
    advance
    exportList true
  else if t.isWord "type" && next.isPunct "*" then
    advance
    exportAll true
  else if t.isWord "import" then
    let d ← importDeclaration
    match d with
    | .node (.importEquals ..) _ _ => return .of (.exportNamed none false) [d]
    | _ => failure
  else if t.isPunct "@" then
    let marks ← decorators rules
    return .of (.exportNamed none false) [← classDecl rules marks (← eatWord "declare")]
  else
    ensure !(t.isWord "using" || t.isWord "await")
    let d? ← match ← declared? rules with
      | some d => pure (some d)
      | none => declaration? rules false
    match d? with
    | some d =>
      return .of (.exportNamed none false) [if t.isQuiet then markQuietDeclaration d else d]
    | none => failure

/-- A class with decorators before it or before its export. The comments of an exported one are
those before the export. -/
def decorated (rules : Rules) : Parse Ast := do
  let comments ← lead
  let marks ← decorators rules
  let inner ← lead
  if ← eatWord "export" then
    if ← eatWord "default" then
      return .node .exportDefault inner [← classDecl rules marks false]
    else
      let isDeclare ← eatWord "declare"
      return .node (.exportNamed none false) inner [← classDecl rules marks isDeclare]
  else
    let isDeclare ← eatWord "declare"
    return (← classDecl rules marks isDeclare).withLead comments

/-- An import or export. -/
def moduleItem (rules : Rules) : Parse Ast := do
  if ← isWord "import" then importDeclaration else exportDeclaration rules

end Nativize.Syntax.Parse
