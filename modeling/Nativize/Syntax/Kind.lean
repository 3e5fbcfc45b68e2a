import Nativize.Number.Basic

/-!
# Kinds of syntax nodes

A program is a tree whose nodes carry a `Kind`: the production that the node stands for, together
with the facts about it that are not nodes themselves, such as names, operators and modifiers. The
parts of a node are its subtrees in the order in which they are written. A part that may be missing
has a fixed place and is `absent` when it is not there; a part that is a list of its own is a
`group`.
-/

namespace Nativize.Syntax

/-- A comment with its delimiters, and whether a line break stood before and after it. -/
structure Comment where
  text : String
  isLine : Bool
  afterBreak : Bool
  beforeBreak : Bool
  /-- The length of the input from the token that the comment belongs to. It tells the comments of
  one token from those of another. -/
  anchor : Nat := 0
deriving DecidableEq, Repr

/-- The value of a string literal. When `lone` is set the value has halves of surrogate pairs: each
is held as U+FFFD followed by its four hexadecimal digits, and U+FFFD itself as though it were
one. -/
structure StringValue where
  text : String
  lone : Bool := false
deriving DecidableEq, Repr

/-- A fixed part of a template: the text as written, and its value if its escapes have one. -/
structure Quasi where
  raw : String
  cooked : Option String
deriving DecidableEq, Repr

/-- A directive, such as the one that asks for strict rules. Its text stands between the quotes. -/
structure Directive where
  text : String
  lead : List Comment
deriving DecidableEq, Repr

/-- The name under which a module offers a value: an identifier or a string. -/
inductive ModuleName where
  | ident (name : String)
  | string (value : StringValue)
deriving DecidableEq, Repr

def ModuleName.text : ModuleName → String
  | .ident name => name
  | .string value => value.text

/-- One binding of an import declaration. -/
inductive ImportSpecifier where
  | byDefault (name : String)
  | byNamespace (name : String)
  | byName (imported : ModuleName) (name : String) (typeOnly : Bool)
deriving DecidableEq, Repr

/-- The name that a specifier binds. -/
def ImportSpecifier.localName : ImportSpecifier → String
  | .byDefault name => name
  | .byNamespace name => name
  | .byName _ name _ => name

/-- The attributes of a module request, after the keyword that introduces them. -/
structure ModuleAttributes where
  keyword : String
  entries : List (ModuleName × StringValue)
deriving DecidableEq, Repr

/-- An import declaration. One that only runs the module has no list of specifiers. -/
structure ImportDecl where
  specifiers : Option (List ImportSpecifier)
  source : StringValue
  typeOnly : Bool
  phase : Option String
  attributes : Option ModuleAttributes
deriving DecidableEq, Repr

/-- The source of an export that passes on what another module offers. -/
structure ExportSource where
  source : StringValue
  attributes : Option ModuleAttributes
deriving DecidableEq, Repr

inductive FunctionForm where
  | declaration
  | expression
  /-- A signature without a body. -/
  | signature
deriving DecidableEq, Repr

structure FunctionFacts where
  form : FunctionForm
  isAsync : Bool := false
  isGenerator : Bool := false
  isDeclare : Bool := false
  /-- Marked as a function whose calls have no effects. -/
  isQuiet : Bool := false
  /-- Written in parentheses, and called there. -/
  inParens : Bool := false
deriving DecidableEq, Repr

structure ArrowFacts where
  isAsync : Bool := false
  /-- The body is an expression. -/
  isExpression : Bool := false
  /-- Marked as a function whose calls have no effects. -/
  isQuiet : Bool := false
  inParens : Bool := false
deriving DecidableEq, Repr

structure ClassFacts where
  isDeclaration : Bool := false
  isAbstract : Bool := false
  isDeclare : Bool := false
deriving DecidableEq, Repr

structure ParamFacts where
  access : Option String := none
  isOverride : Bool := false
  isReadonly : Bool := false
  isOptional : Bool := false
deriving DecidableEq, Repr

/-- Whether a property or method is an accessor. -/
inductive AccessorForm where
  | plain
  | getter
  | setter
deriving DecidableEq, Repr

structure PropertyFacts where
  form : AccessorForm := .plain
  isMethod : Bool := false
  isShorthand : Bool := false
  isComputed : Bool := false
deriving DecidableEq, Repr

structure MemberFacts where
  form : AccessorForm := .plain
  access : Option String := none
  isStatic : Bool := false
  isAbstract : Bool := false
  isOverride : Bool := false
  isReadonly : Bool := false
  isDeclare : Bool := false
  isOptional : Bool := false
  isComputed : Bool := false
deriving DecidableEq, Repr

/-- The sign before a modifier of a mapped type. -/
inductive MappedSign where
  | none
  | plain
  | plus
  | minus
deriving DecidableEq, Repr

/-- The production of a node and its facts. The parts are listed after each group. -/
inductive Kind where
  /-- A part that is not there. -/
  | absent
  /-- Parts that form a list. -/
  | group
  -- Names and literals, without parts.
  | reference (name : String)
  | binding (name : String)
  | name (text : String)
  | privateName (text : String)
  | thisValue
  | superValue
  | nullValue
  | boolean (value : Bool)
  | number (value : Number) (raw : String)
  | bigint (digits : String)
  | string (value : StringValue)
  | regex (pattern flags : String)
  /-- Parts: the substitutions. -/
  | template (quasis : List Quasi)
  /-- Parts: tag, type arguments, template. -/
  | taggedTemplate
  -- Expressions.
  /-- Parts: the elements; a hole is `absent`. -/
  | array
  | object
  /-- Parts: key, value. -/
  | property (facts : PropertyFacts)
  /-- A property `a = b`, which is valid only in a target. Parts: reference, value. -/
  | coverDefault
  /-- In a list or object, the spread tells whether a comma follows it. -/
  | spread (isFollowed : Bool)
  /-- Parts: name, type parameters, parameters, result type, body. -/
  | functionLike (facts : FunctionFacts)
  /-- Parts: type parameters, parameters, result type, body. -/
  | arrow (facts : ArrowFacts)
  | params
  /-- Parts: decorators, pattern, type, default. -/
  | param (facts : ParamFacts)
  /-- Parts: type. -/
  | thisParam
  /-- Parts: the statements. -/
  | body (directives : List Directive) (closing : List Comment)
  /-- Parts: decorators, name, type parameters, base class, its type arguments, interfaces,
  members. -/
  | classLike (facts : ClassFacts)
  | decorator
  /-- Parts: decorators, key, function. -/
  | method (facts : MemberFacts)
  /-- Parts: decorators, key, type, value. -/
  | field (facts : MemberFacts)
  /-- Parts: decorators, key, type, value. -/
  | autoAccessor (facts : MemberFacts)
  | staticBlock
  | unary (op : String)
  | update (op : String) (isBefore : Bool)
  | binary (op : String)
  | logical (op : String)
  | conditional
  | assign (op : String)
  | sequence
  /-- Parts: object. -/
  | member (property : String) (optional : Bool)
  /-- Parts: object, index. -/
  | index (optional : Bool)
  | privateMember (property : String) (optional : Bool)
  /-- Parts: callee, type arguments, then the arguments. -/
  | call (optional isPure : Bool) (closing : List Comment)
  | newCall (isPure : Bool) (closing : List Comment)
  | chain
  | paren
  | awaitValue
  | yieldValue (delegate : Bool)
  /-- Parts: source, options. -/
  | importCall (phase : Option String) (closing : List Comment)
  | metaProperty (object property : String)
  /-- Parts: expression, type. -/
  | asType
  | satisfies
  | nonNull
  /-- Parts: expression, type arguments. -/
  | instantiate
  -- Patterns and targets.
  | objectPattern
  /-- Parts: key, pattern. -/
  | patternProperty (isShorthand isComputed : Bool)
  | arrayPattern
  /-- Parts: pattern, default. -/
  | defaulted
  /-- Parts: pattern, type, decorators. -/
  | rest
  | objectTarget
  /-- Parts: reference, default. -/
  | targetName
  /-- Parts: key, target. -/
  | targetProperty (isComputed : Bool)
  | arrayTarget
  /-- Parts: target, default. -/
  | targetDefault
  | targetRest
  -- Statements.
  | exprStmt
  | block
  | emptyStmt
  /-- Parts: test, then, else. -/
  | ifElse
  /-- Parts: start, test, step, body. -/
  | forLoop
  | forIn
  | forOf (isAwait : Bool)
  | whileLoop
  | doWhile
  /-- Parts: subject, then the cases. -/
  | switchStmt
  /-- Parts: test, then the statements. -/
  | switchCase
  | returnStmt
  | throwStmt
  /-- Parts: block, handler, finalizer. -/
  | tryStmt
  /-- Parts: pattern, type, body. -/
  | handler
  | labeled (label : String)
  | breakStmt (label : Option String)
  | continueStmt (label : Option String)
  | debuggerStmt
  | withStmt
  /-- Parts: the declarators. -/
  | variableDecl (keyword : String) (isDeclare : Bool)
  /-- Parts: pattern, type, value. -/
  | declarator (isDefinite : Bool)
  -- Modules.
  | importDecl (decl : ImportDecl)
  | exportAll (exported : Option ModuleName) (source : ExportSource) (typeOnly : Bool)
  /-- Parts: declaration, then the specifiers. -/
  | exportNamed (source : Option ExportSource) (typeOnly : Bool)
  /-- Parts: local name, exported name. -/
  | exportSpecifier (typeOnly : Bool)
  | exportDefault
  | exportAssign
  | exportNamespace (name : String)
  /-- Parts: the module that is named. -/
  | importEquals (name : String) (typeOnly : Bool)
  | externalModule
  -- Type declarations.
  /-- Parts: name, type parameters, type. -/
  | typeAlias (isDeclare : Bool)
  /-- Parts: name, type parameters, extended types, members. -/
  | interfaceDecl (isDeclare : Bool)
  /-- Parts: name, then the members. -/
  | enumDecl (isConst isDeclare : Bool)
  /-- Parts: key, value. -/
  | enumMember (isComputed : Bool)
  /-- Parts: name, body. -/
  | moduleDecl (keyword : String) (isDeclare : Bool)
  /-- Parts: the statements. -/
  | moduleBody (directives : List Directive)
  /-- Parts: expression, type arguments. -/
  | heritage
  -- Types.
  | keywordType (text : String)
  /-- Parts: name, type arguments. -/
  | typeReference
  /-- Parts: the name on the left. -/
  | qualifiedName (right : String)
  /-- Parts: name, type arguments. -/
  | typeQuery
  /-- Parts: argument, options, qualifier, type arguments. -/
  | importType
  | literalType
  | unionType
  | intersectionType
  | arrayType
  | tupleType
  | namedMember (label : String) (isOptional : Bool)
  | optionalType
  | restType
  /-- A type with a question mark before or after it. -/
  | nullableType (isBefore : Bool)
  /-- A type with an exclamation mark before or after it. -/
  | presentType (isBefore : Bool)
  /-- A question mark alone. -/
  | anyType
  /-- Parts: type parameters, parameters, result type. -/
  | functionType
  | constructorType (isAbstract : Bool)
  | typeLiteral
  /-- Parts: constraint, name type, type. -/
  | mappedType (key : String) (readonlySign optionalSign : MappedSign)
  /-- Parts: checked type, extended type, then, else. -/
  | conditionalType
  | inferType
  | indexedType
  | typeOperator (op : String)
  | parenType
  | templateType (quasis : List Quasi)
  /-- Parts: parameter, type. -/
  | typePredicate (isAsserts : Bool)
  | typeParams
  /-- Parts: name, constraint, default. -/
  | typeParam (isConst isIn isOut : Bool)
  | typeArgs
  /-- Parts: key, type. -/
  | propertySignature (isOptional isReadonly isComputed : Bool)
  /-- Parts: key, type parameters, parameters, result type. -/
  | methodSignature (form : AccessorForm) (isOptional isComputed : Bool)
  /-- Parts: type parameters, parameters, result type. -/
  | callSignature
  | constructSignature
  /-- Parts: key type, value type. -/
  | indexSignature (parameter : String) (isReadonly : Bool)
  -- Markup.
  /-- Parts: opening name, type arguments, attributes, children, closing name. -/
  | element
  /-- Parts: the children. -/
  | fragment
  | markupName (text : String)
  | markupMember (property : String)
  | markupNamespaced (space name : String)
  /-- Parts: name, value. -/
  | markupAttribute
  | markupSpread
  | markupString (text : String)
  | markupText (text : String)
  | container
  | emptyContent (comments : List Comment)
  | spreadChild
  /-- Parts: the statements. -/
  | program (hashbang : Option String) (directives : List Directive) (closing : List Comment)
deriving DecidableEq

instance : Inhabited Kind := ⟨.absent⟩

end Nativize.Syntax
