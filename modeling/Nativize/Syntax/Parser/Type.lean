import Nativize.Syntax.Parser.Pattern

/-!
# Types

The grammar of types: unions and intersections, operators, function types, object types, tuples,
conditional and mapped types.
-/

namespace Nativize.Syntax.Parse

def keywordTypes : List String :=
  ["any", "unknown", "string", "number", "bigint", "symbol", "boolean", "undefined", "never",
   "object", "intrinsic"]

/-- A parameter of a type, with its modifiers, none of them twice. -/
def typeParam (rules : Rules) : Parse Ast := do
  let facts ← iterate (false, false, false) fun (isConst, isIn, isOut) => do
    let t ← token
    if t.isModifier "const" then do
      ensure !isConst
      advance
      return some (true, isIn, isOut)
    else if t.isModifier "in" then do
      ensure !isIn
      advance
      return some (isConst, true, isOut)
    else if t.isModifier "out" then do
      ensure !isOut
      advance
      return some (isConst, isIn, true)
    else return none
  let name ← bindingName
  let bound ← if ← eatWord "extends" then rules .type else pure .absent
  let start ← if ← eat "=" then rules .type else pure .absent
  return .of (.typeParam facts.1 facts.2.1 facts.2.2) [name, bound, start]

/-- Parameters of a type in angle brackets, if there are any. -/
def typeParams? (rules : Rules) : Parse Ast := do
  if ← eat "<" then
    let items ← listUntil ">" (typeParam rules)
    ensure !items.isEmpty
    return .of .typeParams items
  else return .absent

/-- Arguments of a type in angle brackets. -/
def typeArgs (rules : Rules) : Parse Ast := do
  reread Token.asLess
  expect "<"
  let items ← listUntil ">" (rules .type)
  ensure !items.isEmpty
  return .of .typeArgs items

/-- Arguments of a type on the same line, if there are any. -/
def typeArgs? (rules : Rules) : Parse Ast := do
  let t ← token
  if !t.afterBreak && (t.isPunct "<" || t.isPunct "<<") then typeArgs rules else return .absent

/-- A name with points in it. Any word may be the name of a type. -/
def entityName : Parse Ast := do
  let first ← if ← eatWord "this" then pure (Ast.leaf .thisValue)
    else do pure (Ast.leaf (.reference (← anyName)))
  iterate first fun left => do
    if ← eat "." then return some (.of (.qualifiedName (← anyName)) [left]) else return none

/-- A result type, which may tell the type of a parameter. -/
def resultType (rules : Rules) : Parse Ast := do
  let t ← token
  if t.isVariableName && t.next.isWord "is" && !t.next.afterBreak then
    let who ← anyName
    expectWord "is"
    return .of (.typePredicate false) [.leaf (.name who), ← rules .type]
  else rules .type

/-- A result type after a colon, if there is one. -/
def resultAnnotation (rules : Rules) : Parse Ast := do
  if ← eat ":" then within (fun c => { c with allowConditionalType := true }) (resultType rules)
  else return .absent

/-- The end of a member of an object type. -/
def memberEnd : Parse Unit := do
  unless ← eat "," do semicolon

/-- An index signature, after its opening bracket. -/
def indexSignature (rules : Rules) (isReadonly : Bool) : Parse Ast := do
  let name ← variableName
  expect ":"
  let key ← rules .type
  expect "]"
  expect ":"
  return .of (.indexSignature name isReadonly) [key, ← rules .type]

/-- The bracket is that of an index signature. -/
def atIndexSignature : Parse Bool := do
  let t ← token
  return t.isPunct "[" && t.next.isVariableName && t.next.next.isPunct ":"

/-- Type parameters, parameters and result type of a signature. -/
def signatureParts (rules : Rules) : Parse (List Ast) := do
  let generics ← typeParams? rules
  let ps ← params rules false
  return [generics, ps, ← resultAnnotation rules]

/-- A parameter that takes one value, which must be given. -/
def isPlainParam : Ast → Bool
  | .node (.param facts) _ [_, _, _, value] => !facts.isOptional && value.isAbsent
  | _ => false

/-- The parts of a signature are those of an accessor: without type parameters, and with no
parameter to read and exactly one to write, where no result is told. -/
def fitsAccessor (form : AccessorForm) (generics ps result : Ast) : Bool :=
  let items := ps.parts.filter fun p => p.kind ≠ .thisParam
  match form with
  | .plain => true
  | .getter => generics.isAbsent && items.isEmpty
  | .setter => generics.isAbsent && items.length = 1 && items.all isPlainParam && result.isAbsent

/-- A member of an object type with a key. Only a property can be protected from writing. -/
def keyedMember (rules : Rules) (isReadonly : Bool) : Parse Ast := do
  let t ← token
  let form : AccessorForm :=
    if t.isModifier "get" then .getter else if t.isModifier "set" then .setter else .plain
  if form ≠ .plain then advance
  let (key, isComputed) ← propertyKey rules
  let isOptional ← if form = .plain then eat "?" else pure false
  if form ≠ .plain || (← isPunct "(") || (← isPunct "<") then
    ensure !isReadonly
    let parts ← signatureParts rules
    match parts with
    | [generics, ps, result] => ensure (fitsAccessor form generics ps result)
    | _ => failure
    return .of (.methodSignature form isOptional isComputed) (key :: parts)
  else
    return .of (.propertySignature isOptional isReadonly isComputed) [key, ← typeAnnotation rules]

/-- A member of an object type. -/
def typeMember (rules : Rules) : Parse Ast := do
  let comments ← lead
  let t ← token
  let member ←
    if t.isPunct "(" || t.isPunct "<" then do
      pure (Ast.of .callSignature (← signatureParts rules))
    else if t.isWord "new" && (t.next.isPunct "(" || t.next.isPunct "<") then do
      advance
      let parts ← signatureParts rules
      ensure !(parts.any hasReceiver)
      pure (Ast.of .constructSignature parts)
    else do
      ensure !(t.isModifier "static")
      let isReadonly := t.isModifier "readonly"
      if isReadonly then advance
      if ← atIndexSignature then
        advance
        indexSignature rules isReadonly
      else keyedMember rules isReadonly
  memberEnd
  return member.withLead comments

/-- Members of an object type, after the opening brace. -/
def typeMembers (rules : Rules) : Parse (List Ast) := itemsUntil "\x7d" (rules .typeMember)

/-- The current word or sign gives a modifier of a mapped type. -/
def mappedSign (isHere : Parse Bool) : Parse MappedSign := do
  if (← isPunct "+") || (← isPunct "-") then
    let isPlus ← isPunct "+"
    advance
    ensure (← isHere)
    advance
    return if isPlus then .plus else .minus
  else if ← isHere then
    advance
    return .plain
  else return .none

/-- An object type after its opening brace is a mapped type. -/
def atMappedType : Parse Bool := lookahead do
  if ← isPunct "\x7b" then
    advance
    if (← isPunct "+") || (← isPunct "-") then
      advance
      isWord "readonly"
    else
      if ← isWord "readonly" then advance
      let t ← token
      return t.isPunct "[" && t.next.isAnyWord && t.next.next.isWord "in"
  else return false

def mappedType (rules : Rules) : Parse Ast := do
  expect "\x7b"
  let readonlySign ← mappedSign (isWord "readonly")
  expect "["
  let key ← variableName
  expectWord "in"
  let bound ← rules .type
  let nameType ← if ← eatWord "as" then rules .type else pure .absent
  expect "]"
  let optionalSign ← mappedSign (isPunct "?")
  let type ← typeAnnotation rules
  discard (eat ";")
  expect "\x7d"
  return .of (.mappedType key readonlySign optionalSign) [bound, nameType, type]

/-- The type of an element of a tuple type. With a question mark after it the element may be left
out. -/
def tupleElementType (rules : Rules) : Parse Ast := do
  if ← eat "..." then return .of .restType [← rules .type]
  else
    match ← rules .type with
    | .node (.nullableType false) _ [inner] => return .of .optionalType [inner]
    | type => return type

/-- An element of a tuple type, with an optional label. -/
def tupleElement (rules : Rules) : Parse Ast := do
  let t ← token
  let isNamed (t : Token) : Bool :=
    t.isAnyWord && (t.next.isPunct ":" || (t.next.isPunct "?" && t.next.next.isPunct ":"))
  let named : Parse Ast := do
    let label ← anyName
    let isOptional ← eat "?"
    expect ":"
    return .of (.namedMember label isOptional) [← tupleElementType rules]
  if t.isPunct "..." && isNamed t.next then
    advance
    ensure !(← nextIsPunct "?")
    return .of .restType [← named]
  else if isNamed t then named
  else tupleElementType rules

/-- The type of a list, in parentheses or not. -/
def isList : Ast → Bool
  | .node .arrayType _ _ => true
  | .node .parenType _ [type] => isList type
  | .node (.namedMember ..) _ [type] => isList type
  | _ => false

/-- What an element of a tuple type asks of the ones after it. -/
inductive TupleRole where
  | required
  | optional
  /-- Any number of elements of one type. -/
  | repeated
  /-- The elements of another tuple type. -/
  | spread
deriving DecidableEq

def TupleRole.of : Ast → TupleRole
  | .node .optionalType _ _ => .optional
  | .node (.namedMember _ true) _ _ => .optional
  | .node .restType _ [type] => if isList type then .repeated else .spread
  | _ => .required

/-- After what may be left out nothing is required, and after what is repeated nothing may be left
out or repeated. -/
def isOrdered : List TupleRole → Bool
  | [] => true
  | .optional :: rest => !rest.contains .required && isOrdered rest
  | .repeated :: rest => !rest.contains .optional && !rest.contains .repeated && isOrdered rest
  | _ :: rest => isOrdered rest

def tupleType (rules : Rules) : Parse Ast := do
  expect "["
  let items ← listUntil "]" (tupleElement rules)
  ensure (isOrdered (items.map TupleRole.of))
  return .of .tupleType items

/-- A template as far as it is read: its fixed parts, its substitutions, and whether it is at its
end. -/
structure TemplateParts where
  quasis : List Quasi
  items : List Ast
  isComplete : Bool

/-- Take the fixed part of a template that the current token is. -/
def templatePiece (read : TemplateParts) (item : Option Ast) : Parse TemplateParts := do
  match ← lexeme with
  | .template quasi isLast => do
    advance
    return ⟨read.quasis ++ [quasi], read.items ++ item.toList, isLast⟩
  | _ => failure

/-- The fixed parts of a template and its substitutions. -/
def templateParts (item : Parse Ast) : Parse TemplateParts := do
  let first ← templatePiece ⟨[], [], false⟩ none
  iterate first fun read => do
    if read.isComplete then return none
    else
      let e ← item
      ensure (← isPunct "\x7d")
      reread Token.asTemplate
      return some (← templatePiece read e)

def isObjectLiteral : Ast → Bool
  | .node .object _ _ => true
  | _ => false

/-- The parts of an imported type, after its keyword. -/
def importTypeParts (rules : Rules) : Parse (List Ast) := do
  expect "("
  let source ← match ← lexeme with
    | .string value _ => do advance; pure (Ast.leaf (.string value))
    | _ => failure
  let options ← if ← eat "," then
      if ← isPunct ")" then pure Ast.absent
      else do
        let e ← rules .assignment
        ensure (isObjectLiteral e)
        pure e
    else pure Ast.absent
  discard (eat ",")
  expect ")"
  let qualifier ← if ← eat "." then do
      let first ← anyName
      iterate (Ast.leaf (.name first)) fun left => do
        if ← eat "." then return some (.of (.qualifiedName (← anyName)) [left]) else return none
    else pure Ast.absent
  return [source, options, qualifier, ← typeArgs? rules]

/-- What holds of a parameter after a call, from its keyword on. -/
def assertedPredicate (rules : Rules) : Parse Ast := do
  expectWord "asserts"
  let who ← if ← eatWord "this" then pure (Ast.leaf .thisValue)
    else do pure (Ast.leaf (.name (← anyName)))
  let type ← if ← eatWord "is" then rules .type else pure .absent
  return .of (.typePredicate true) [who, type]

/-- A type after a question mark. The mark alone stands for any type. -/
def questionedType (rules : Rules) : Parse Ast := do
  expect "?"
  match ← lexeme with
  | .punct p =>
    if [",", "\x7d", ")", ">", "=", "|"].contains p then return .leaf .anyType
    else return .of (.nullableType true) [← rules .type]
  | _ => return .of (.nullableType true) [← rules .type]

/-- The receiver's type, or what holds of the receiver. -/
def receiverType (rules : Rules) : Parse Ast := do
  expectWord "this"
  if (← isWord "is") && !(← afterBreak) then
    advance
    return .of (.typePredicate false) [.leaf .thisValue, ← rules .type]
  else return .leaf (.keywordType "this")

/-- A type without an operator before or after it. -/
def primaryType (rules : Rules) : Parse Ast := do
  let t ← token
  match t.lexeme with
  | .string value _ => do advance; return .of .literalType [.leaf (.string value)]
  | .number value raw => do advance; return .of .literalType [.leaf (.number value raw)]
  | .bigint digits => do advance; return .of .literalType [.leaf (.bigint digits)]
  | .template _ _ =>
    let read ← templateParts (rules .type)
    return .of (.templateType read.quasis) read.items
  | .punct "-" => do
    advance
    match ← lexeme with
    | .number value raw => do
      advance
      return .of .literalType [.of (.unary "-") [.leaf (.number value raw)]]
    | .bigint digits => do
      advance
      return .of .literalType [.of (.unary "-") [.leaf (.bigint digits)]]
    | _ => failure
  | .punct "?" => questionedType rules
  | .punct "!" => do
    advance
    return .of (.presentType true) [← rules .primaryType]
  | .punct "\x7b" =>
    if ← atMappedType then mappedType rules
    else do
      advance
      return .of .typeLiteral (← typeMembers rules)
  | .punct "[" => tupleType rules
  | .punct "(" => do
    advance
    let type ← within (fun c => { c with allowConditionalType := true }) (rules .type)
    expect ")"
    return .of .parenType [type]
  | .word "true" false => do advance; return .of .literalType [.leaf (.boolean true)]
  | .word "false" false => do advance; return .of .literalType [.leaf (.boolean false)]
  | .word "null" false => do advance; return .leaf (.keywordType "null")
  | .word "void" false => do advance; return .leaf (.keywordType "void")
  | .word "this" false => receiverType rules
  | .word "typeof" false => do
    advance
    if ← isWord "import" then
      advance
      return .of .typeQuery [.of .importType (← importTypeParts rules), .absent]
    else
      let name ← entityName
      return .of .typeQuery [name, ← typeArgs? rules]
  | .word "import" false => do
    advance
    return .of .importType (← importTypeParts rules)
  | .word w isEscaped =>
    let next := t.next
    if w == "asserts" && !isEscaped && (next.isVariableName || next.isWord "this") &&
        !next.afterBreak then
      assertedPredicate rules
    else if keywordTypes.contains w && !isEscaped && !next.isPunct "." then
      advance
      return .leaf (.keywordType w)
    else
      let name ← entityName
      return .of .typeReference [name, ← typeArgs? rules]
  | _ => failure

/-- The reserved words that can start a type. -/
def typeWords : List String :=
  ["void", "null", "this", "typeof", "new", "true", "false", "import", "function"]

/-- The token starts a type. The first argument bounds the number of parentheses. -/
def startsTypeWithin : Nat → Token → Bool
  | 0, _ => false
  | depth + 1, t =>
    let next := t.next
    match t.lexeme with
    | .number .. | .bigint _ | .string .. | .template .. => true
    | .word w _ => typeWords.contains w || (!isReserved w && w != "await" && w != "yield")
    | .punct "-" =>
      match next.lexeme with
      | .number .. | .bigint _ => true
      | _ => false
    | .punct "(" =>
      next.isPunct ")" || next.isPunct "@" || next.isVariableName ||
        ["const", "default", "export", "in"].any next.isWord || startsTypeWithin depth next
    | .punct p => ["\x7b", "[", "<", "|", "&", "*", "?", "!", "..."].contains p
    | _ => false

def startsType (t : Token) : Bool := startsTypeWithin (t.start.length + 1) t

/-- A type with signs or brackets after it. A question mark before another type is that of a
conditional. -/
def suffixedType (rules : Rules) : Parse Ast := do
  let first ← primaryType rules
  iterate first fun type => do
    let t ← token
    if t.afterBreak then return none
    else if t.isPunct "!" then
      advance
      return some (.of (.presentType false) [type])
    else if t.isPunct "?" && !startsType t.next then
      advance
      return some (.of (.nullableType false) [type])
    else if t.isPunct "[" then
      advance
      if ← eat "]" then return some (.of .arrayType [type])
      else
        ensure (startsType (← token))
        let i ← within (fun c => { c with allowConditionalType := true }) (rules .type)
        expect "]"
        return some (.of .indexedType [type, i])
    else return none

/-- A type that is inferred, after its keyword. Its bound belongs to it unless a conditional type
starts there. -/
def inferType (rules : Rules) : Parse Ast := do
  let name ← bindingName
  let bound? ← attempt do
    expectWord "extends"
    let bound ← within (fun c => { c with allowConditionalType := false }) (rules .type)
    if (← context).allowConditionalType then ensure !(← isPunct "?")
    return bound
  return .of .inferType [.of (.typeParam false false false) [name, bound?.getD .absent, .absent]]

/-- The type of a list or tuple, not in parentheses. -/
def isListOrTuple : Ast → Bool
  | .node .arrayType _ _ => true
  | .node .tupleType _ _ => true
  | _ => false

/-- A type with an operator before it. Only lists and tuples can be protected from writing. -/
def operatorType (rules : Rules) : Parse Ast := do
  let plain := within (fun c => { c with allowConditionalType := true }) (suffixedType rules)
  match ← lexeme with
  | .word w false =>
    if w == "keyof" || w == "unique" || w == "readonly" then
      advance
      let type ← rules .operatorType
      ensure (w != "readonly" || isListOrTuple type)
      return .of (.typeOperator w) [type]
    else if w == "infer" then
      advance
      inferType rules
    else plain
  | _ => plain

/-- A function type starts at the opening parenthesis. -/
def atFunctionParams (rules : Rules) : Parse Bool := lookahead do
  expect "("
  if (← isPunct ")") || (← isPunct "...") then return true
  else
    discard (paramModifiers true)
    if ← eatWord "this" then pure ()
    else discard (rules .pattern)
    let t ← token
    if t.isPunct ":" || t.isPunct "," || t.isPunct "?" || t.isPunct "=" then return true
    else return t.isPunct ")" && t.next.isPunct "=>"

/-- A function type starts here. -/
def atFunctionType (rules : Rules) : Parse Bool := do
  let t ← token
  if t.isPunct "<" || t.isWord "new" || (t.isWord "abstract" && t.next.isWord "new") then
    return true
  else if t.isPunct "(" then atFunctionParams rules
  else return false

/-- The type of a function, or of a class by its constructor, which has no receiver. -/
def functionType (rules : Rules) : Parse Ast := do
  let isAbstract ← eatWord "abstract"
  let isConstructor ← eatWord "new"
  let generics ← typeParams? rules
  let ps ← params rules false
  expect "=>"
  let parts := [generics, ps, ← resultType rules]
  if isConstructor then
    ensure !(hasReceiver ps)
    return .of (.constructorType isAbstract) parts
  else return .of .functionType parts

/-- Types joined by an operator, which may also stand before the first one. -/
def joinedTypes (op : String) (kind : Kind) (item : Parse Ast) : Parse Ast := do
  let isLed ← eat op
  let items ← separated op item
  match items with
  | [single] => return if isLed then .of kind items else single
  | _ => return .of kind items

/-- Types joined by `|`, of which each may be joined by `&`. A function type among them stands in
parentheses. -/
def unionType (rules : Rules) : Parse Ast :=
  joinedTypes "|" .unionType (joinedTypes "&" .intersectionType (rules .operatorType))

/-- A type. -/
def type (rules : Rules) : Parse Ast := do
  if ← atFunctionType rules then functionType rules
  else
    let first ← unionType rules
    let t ← token
    if (← context).allowConditionalType && t.isWord "extends" && !t.afterBreak then
      advance
      let bound ← within (fun c => { c with allowConditionalType := false }) (rules .type)
      expect "?"
      let yes ← within (fun c => { c with allowConditionalType := true }) (rules .type)
      expect ":"
      let no ← within (fun c => { c with allowConditionalType := true }) (rules .type)
      return .of .conditionalType [first, bound, yes, no]
    else return first

end Nativize.Syntax.Parse
