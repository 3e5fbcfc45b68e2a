import Nativize.Syntax.Parser.Class
import Nativize.Syntax.Parser.Markup
import Nativize.Syntax.Parser.Target

/-!
# Expressions

From literals over member chains and operators to assignments and sequences.
-/

namespace Nativize.Syntax.Parse

/-- Operators inside brackets follow the ordinary rules again. -/
def inBrackets (c : Context) : Context := { c with allowIn := true, inDecorator := false }

/-- One argument of a call, with the comments before it. -/
def argument (rules : Rules) : Parse Ast := do
  let comments ← lead
  if ← eat "..." then return .node (.spread false) comments [← rules .assignment]
  else return (← rules .assignment).withLead comments

/-- Arguments in parentheses, and the comments before the closing one. -/
def arguments (rules : Rules) : Parse (List Ast × List Comment) := within inBrackets do
  expect "("
  let items ← many do
    if ← isPunct ")" then return none
    else
      let x ← argument rules
      unless ← isPunct ")" do expect ","
      return some x
  let closing ← lead
  expect ")"
  return (items, closing)

/-- A template. Where no tag takes care of it, each escape must have a value. -/
def template (rules : Rules) (isTagged : Bool) : Parse Ast := do
  let read ← within inBrackets (templateParts (rules .expression))
  if !isTagged then ensure (read.quasis.all (·.cooked.isSome))
  return .of (.template read.quasis) read.items

/-- What is spread into a list or object, after its dots. -/
def spreadItem (rules : Rules) : Parse Ast := do
  let e ← rules .assignment
  return .of (.spread (← isPunct ",")) [e]

/-- A property of an object literal. -/
def property (rules : Rules) : Parse Ast := do
  if ← eat "..." then spreadItem rules
  else
    let t ← token
    let isAsync := t.isModifier "async"
    let form : AccessorForm :=
      if t.isModifier "get" then .getter else if t.isModifier "set" then .setter else .plain
    if isAsync || form ≠ .plain then advance
    let isGenerator ← if form = .plain then eat "*" else pure false
    let name? ← variableName?
    let (key, isComputed) ← propertyKey rules
    let isMethod := isAsync || isGenerator || form ≠ .plain || (← isPunct "(") || (← isPunct "<")
    if isMethod then
      let f ← functionParts rules
        { form := .expression, isAsync := isAsync, isGenerator := isGenerator } false .absent
      ensure (isAccessor form f)
      return .of (.property
        { form := form, isMethod := form = .plain, isComputed := isComputed }) [key, f]
    else if ← eat ":" then
      return .of (.property { isComputed := isComputed }) [key, ← rules .assignment]
    else
      match name? with
      | some name =>
        let reference := Ast.leaf (.reference name)
        if ← eat "=" then return .of .coverDefault [reference, ← rules .assignment]
        else return .of (.property { isShorthand := true }) [key, reference]
      | none => failure

/-- An object literal, with the comments before it. -/
def objectLiteral (rules : Rules) : Parse Ast := within inBrackets do
  let comments ← lead
  expect "\x7b"
  return .node .object comments (← listUntil "\x7d" (property rules))

def arrayLiteral (rules : Rules) : Parse Ast := within inBrackets do
  expect "["
  let item : Parse Ast := do
    if ← eat "..." then spreadItem rules else rules .assignment
  return .of .array (← itemsUntil "]" (listElement item))

def parenthesized (rules : Rules) : Parse Ast := do
  expect "("
  let e ← within inBrackets (rules .expression)
  expect ")"
  return .of .paren [markInParens e]

def isSpread : Ast → Bool
  | .node (.spread _) _ _ => true
  | _ => false

/-- A call of the import function or a property of the import object, after the keyword. -/
def importExpression (rules : Rules) : Parse Ast := do
  let call (phase : Option String) : Parse Ast := do
    let (items, closing) ← arguments rules
    ensure !(items.any isSpread)
    match items with
    | [source] => return .of (.importCall phase closing) [source, .absent]
    | [source, options] => return .of (.importCall phase closing) [source, options]
    | _ => failure
  if ← eat "." then
    let name ← anyName
    if name == "meta" then return .leaf (.metaProperty "import" "meta")
    else
      ensure (name == "source" || name == "defer")
      call (some name)
  else call none

/-- An expression without operators. -/
def primary (rules : Rules) : Parse Ast := do
  let t ← token
  match t.lexeme with
  | .number value raw => do advance; return .leaf (.number value raw)
  | .bigint digits => do advance; return .leaf (.bigint digits)
  | .string value _ => do advance; return .leaf (.string value)
  | .template _ _ => template rules false
  | .punct "(" => parenthesized rules
  | .punct "[" => arrayLiteral rules
  | .punct "\x7b" => objectLiteral rules
  | .punct "<" => rules .element
  | .punct "@" => rules .classExpression
  | .punct "/" => regex
  | .punct "/=" => regex
  | .word "this" false => do advance; return .leaf .thisValue
  | .word "null" false => do advance; return .leaf .nullValue
  | .word "true" false => do advance; return .leaf (.boolean true)
  | .word "false" false => do advance; return .leaf (.boolean false)
  | .word "function" false => functionLike rules .expression false
  | .word "class" false => rules .classExpression
  | .word "super" false => do
    advance
    let next ← token
    ensure (next.isPunct "." || next.isPunct "[" || next.isPunct "(")
    return .leaf .superValue
  | .word "import" false => do
    advance
    importExpression rules
  | .word "async" false =>
    if t.next.isWord "function" && !t.next.afterBreak then functionLike rules .expression false
    else return .leaf (.reference (← variableName))
  | _ => return .leaf (.reference (← variableName))
where
  regex : Parse Ast := do
    reread Token.asRegex
    match ← lexeme with
    | .regex pattern flags => do advance; return .leaf (.regex pattern flags)
    | _ => failure

/-- The token starts an expression. -/
def startsExpression (t : Token) : Bool :=
  match t.lexeme with
  | .number .. => true
  | .bigint _ => true
  | .string .. => true
  | .template .. => true
  | .regex .. => true
  | .privateName _ => true
  | .punct p =>
    ["(", "[", "\x7b", "<", "@", "/", "/=", "+", "-", "~", "!", "++", "--"].contains p
  | .word w false =>
    !isReserved w || ["this", "null", "true", "false", "function", "class", "super", "import",
      "new", "delete", "typeof", "void"].contains w
  | .word _ true => true
  | .finish => false
  | .invalid => false

def binaryOperators : List String :=
  ["??", "||", "&&", "|", "^", "&", "==", "!=", "===", "!==", "<", ">", "<=", ">=", "<<", ">>",
   ">>>", "+", "-", "*", "/", "%", "**"]

/-- The token is an operator between two expressions. -/
def isBinaryOperator (t : Token) : Bool :=
  match t.lexeme with
  | .punct p => binaryOperators.contains p
  | .word w false => w == "instanceof" || w == "in" || w == "as" || w == "satisfies"
  | _ => false

/-- After type arguments that no call follows, the expression must end here. -/
def endsInstantiation (t : Token) : Bool :=
  if t.isPunct "<" || t.isPunct ">" || t.isPunct "+" || t.isPunct "-" then false
  else t.afterBreak || isBinaryOperator t || !startsExpression t

/-- A member chain as far as it is read. -/
structure Chain where
  expr : Ast
  /-- Some step of the chain is optional. -/
  isOptional : Bool

/-- A member after a point. -/
def memberAfterPoint (object : Ast) (optional : Bool) : Parse Ast := do
  match ← lexeme with
  | .privateName name => do advance; return .of (.privateMember name optional) [object]
  | .word name _ => do advance; return .of (.member name optional) [object]
  | _ => failure

def indexAfter (rules : Rules) (object : Ast) (optional : Bool) : Parse Ast := do
  expect "["
  let e ← within inBrackets (rules .expression)
  expect "]"
  return .of (.index optional) [object, e]

def callAfter (rules : Rules) (callee typeArgs : Ast) (optional : Bool) : Parse Ast := do
  let (items, closing) ← arguments rules
  return .of (.call optional false closing) (callee :: typeArgs :: items)

def atTemplate : Parse Bool := do
  match ← lexeme with
  | .template .. => return true
  | _ => return false

/-- A step of a member chain after its question mark and point. -/
def optionalStep (rules : Rules) (object : Ast) : Parse Ast := do
  if ← isPunct "(" then callAfter rules object .absent true
  else if ← isPunct "[" then indexAfter rules object true
  else if (← isPunct "<") || (← isPunct "<<") then
    let args ← typeArgs rules
    callAfter rules object args true
  else memberAfterPoint object true

/-- What type arguments after an expression belong to. The sign that ends them is not part of a
comparison. -/
def genericStep (rules : Rules) (allowCall : Bool) (read : Chain) : Parse (Option Chain) :=
  attempt do
    let args ← typeArgs rules
    let t ← token
    ensure (t.before.head? != some '=')
    if t.isPunct "(" && allowCall then
      return { read with expr := ← callAfter rules read.expr args false }
    else if ← atTemplate then
      ensure !read.isOptional
      return { read with expr := .of .taggedTemplate [read.expr, args, ← template rules true] }
    else
      ensure (t.isPunct "(" || endsInstantiation t)
      return { read with expr := .of .instantiate [read.expr, args] }

/-- One step of a member chain, if there is one. -/
def chainStep (rules : Rules) (allowCall : Bool) (read : Chain) : Parse (Option Chain) := do
  let t ← token
  match t.lexeme with
  | .punct "." => do
    advance
    return some { read with expr := ← memberAfterPoint read.expr false }
  | .punct "?." => do
    ensure allowCall
    advance
    return some ⟨← optionalStep rules read.expr, true⟩
  | .punct "[" =>
    if (← context).inDecorator then return none
    else return some { read with expr := ← indexAfter rules read.expr false }
  | .punct "!" =>
    if t.afterBreak then return none
    else do
      advance
      return some { read with expr := .of .nonNull [read.expr] }
  | .punct "(" =>
    if allowCall then return some { read with expr := ← callAfter rules read.expr .absent false }
    else return none
  | .punct "<" => genericStep rules allowCall read
  | .punct "<<" => genericStep rules allowCall read
  | .template .. => do
    ensure !read.isOptional
    return some
      { read with expr := .of .taggedTemplate [read.expr, .absent, ← template rules true] }
  | _ => return none

/-- A `new` expression from its keyword on. -/
def newExpression (rules : Rules) : Parse Ast := do
  expectWord "new"
  if ← eat "." then
    ensure ((← anyName) == "target")
    return .leaf (.metaProperty "new" "target")
  else
    ensure !(← isWord "import")
    let callee ← rules .constructor
    let (callee, generics) := match callee with
      | .node .instantiate _ [inner, args] => (inner, args)
      | other => (other, Ast.absent)
    ensure !(← isPunct "?.")
    if ← isPunct "(" then
      let (items, closing) ← arguments rules
      return .of (.newCall false closing) (callee :: generics :: items)
    else return .of (.newCall false []) [callee, generics]

/-- The start of a member chain. -/
def chainHead (rules : Rules) : Parse Ast := do
  if ← isWord "new" then newExpression rules else primary rules

/-- The callee of `new`: a member chain without calls. -/
def constructor (rules : Rules) : Parse Ast := do
  let head ← chainHead rules
  return (← iterate ⟨head, false⟩ (chainStep rules false)).expr

/-- Mark a call as having no effects, if the expression is one. -/
def markCall : Ast → Ast
  | .node (.call optional _ closing) l p => .node (.call optional true closing) l p
  | other => other

/-- Mark the call that an expression starts with as having no effects. -/
def markPure : Ast → Ast
  | .node (.call optional _ closing) l p => .node (.call optional true closing) l p
  | .node (.newCall _ closing) l p => .node (.newCall true closing) l p
  | .node .chain l [e] => .node .chain l [markCall e]
  | .node .paren l [e] => .node .paren l [markPure e]
  | .node (.binary op) l [left, right] => .node (.binary op) l [markPure left, right]
  | .node (.logical op) l [left, right] => .node (.logical op) l [markPure left, right]
  | .node .conditional l [test, yes, no] => .node .conditional l [markPure test, yes, no]
  | other => other

/-- A member chain with calls. One with an optional step is a node of its own. -/
def leftHandSide (rules : Rules) : Parse Ast := do
  let head ← chainHead rules
  let read ← iterate ⟨head, false⟩ (chainStep rules true)
  return if read.isOptional then .of .chain [read.expr] else read.expr

def unaryOperators : List String := ["+", "-", "~", "!"]

def unaryWords : List String := ["typeof", "void", "delete"]

/-- The operand of an operator. A mark before it tells about its first call. -/
def operand (rules : Rules) : Parse Ast := do
  let t ← token
  let e ← rules .unary
  return if t.isPure then markPure e else e

def simpleTarget (e : Ast) : Parse Ast :=
  match e.simpleTarget? with
  | some t => return t
  | none => failure

/-- An expression with an operator before it, or a counting one after it. No member of an element is
taken. -/
def unary (rules : Rules) : Parse Ast := do
  match ← lexeme with
  | .punct "++" => do
    advance
    return .of (.update "++" true) [← simpleTarget (← rules .unary)]
  | .punct "--" => do
    advance
    return .of (.update "--" true) [← simpleTarget (← rules .unary)]
  | .punct p =>
    if unaryOperators.contains p then
      advance
      return .of (.unary p) [← operand rules]
    else counted
  | .word "await" false => do
    if (← context).allowAwait then
      advance
      return .of .awaitValue [← operand rules]
    else
      ensure !(← token).next.isPlainOperand
      counted
  | .word w false =>
    if unaryWords.contains w then
      advance
      return .of (.unary w) [← operand rules]
    else counted
  | _ => counted
where
  counted : Parse Ast := do
    let start ← token
    if start.isPunct "<" && start.next.isAnyWord then rules .element
    else
      let e ← rules .leftHandSide
      let t ← token
      if !t.afterBreak && (t.isPunct "++" || t.isPunct "--") then
        let op := if t.isPunct "++" then "++" else "--"
        let target ← simpleTarget e
        advance
        return .of (.update op false) [target]
      else return e

/-- How tightly an operator between two expressions binds. -/
def bindingLevel : String → Option Nat
  | "??" => some 1
  | "||" => some 2
  | "&&" => some 3
  | "|" => some 4
  | "^" => some 5
  | "&" => some 6
  | "==" => some 7
  | "!=" => some 7
  | "===" => some 7
  | "!==" => some 7
  | "<" => some 8
  | ">" => some 8
  | "<=" => some 8
  | ">=" => some 8
  | "instanceof" => some 8
  | "in" => some 8
  | "as" => some 8
  | "satisfies" => some 8
  | "<<" => some 9
  | ">>" => some 9
  | ">>>" => some 9
  | "+" => some 10
  | "-" => some 10
  | "*" => some 11
  | "/" => some 11
  | "%" => some 11
  | "**" => some 12
  | _ => none

/-- The operator that the current token is, if it is one between two expressions. -/
def operator? : Parse (Option String) := do
  if ← isPunct ">" then reread Token.asGreater
  let t ← token
  match t.lexeme with
  | .punct p => return if (bindingLevel p).isSome then some p else none
  | .word "instanceof" false => return some "instanceof"
  | .word "in" false => return if (← context).allowIn then some "in" else none
  | .word "as" false => return if t.afterBreak then none else some "as"
  | .word "satisfies" false => return if t.afterBreak then none else some "satisfies"
  | _ => return none

/-- One of the logical operators that nullish defaults do not mix with. -/
def isChoice : Ast → Bool
  | .node (.logical op) _ _ => op == "||" || op == "&&"
  | _ => false

/-- An operation of two expressions. Nullish defaults do not mix with the other logical operators,
except in a side that starts with a parenthesis, and a power has no bare operator before its
base. -/
def operation (op : String) (leftIsOpen rightIsOpen : Bool) (left right : Ast) : Parse Ast := do
  if op == "??" || op == "||" || op == "&&" then
    let mixes (side : Ast) (isOpen : Bool) : Bool := op == "??" && isChoice side && !isOpen
    ensure !(mixes left leftIsOpen || mixes right rightIsOpen)
    return .of (.logical op) [left, right]
  else
    if op == "**" then
      match left with
      | .node (.unary _) _ _ => failure
      | .node .awaitValue _ _ => failure
      | _ => pure ()
    return .of (.binary op) [left, right]

/-- Expressions joined by operators that bind tighter than a level. A private name is an operand of
`in` alone. -/
def binary (rules : Rules) (level : Nat) : Parse Ast := do
  let start ← token
  let isOpen := start.isPunct "("
  let first ← match start.lexeme with
    | .privateName name => do
      advance
      ensure ((← isWord "in") && (← context).allowIn && level < 8)
      pure (Ast.leaf (.privateName name))
    | _ => operand rules
  iterate first fun left => do
    match ← operator? with
    | none => return none
    | some op =>
      let own := (bindingLevel op).getD 0
      if level < own || (op == "**" && level == own) then
        advance
        if op == "as" then return some (.of .asType [left, ← rules .type])
        else if op == "satisfies" then return some (.of .satisfies [left, ← rules .type])
        else
          let rightIsOpen ← isPunct "("
          let right ← rules (.binary own)
          return some (← operation op isOpen rightIsOpen left right)
      else return none

def assignmentOperators : List String :=
  ["=", "+=", "-=", "*=", "/=", "%=", "**=", "<<=", ">>=", ">>>=", "&=", "|=", "^=", "&&=", "||=",
   "??="]

def targetOf (op : String) (e : Ast) : Parse Ast :=
  match if op == "=" then e.target? else e.simpleTarget? with
  | some t => return t
  | none => failure

/-- The token ends an expression. -/
def endsExpression (t : Token) : Bool :=
  [";", "\x7d", ")", "]", ":", ","].any t.isPunct || t.isWord "in" || t.lexeme == .finish

/-- The operand of `yield`, if there is one. -/
def yieldRest (rules : Rules) : Parse Ast := do
  let t ← token
  if t.afterBreak then return .of (.yieldValue false) [.absent]
  else if ← eat "*" then return .of (.yieldValue true) [← rules .assignment]
  else if endsExpression t then return .of (.yieldValue false) [.absent]
  else return .of (.yieldValue false) [← rules .assignment]

/-- An expression without a comma, without regard to the marks before it. -/
def bareAssignment (rules : Rules) (inMiddle : Bool) : Parse Ast := do
  let t ← token
  if t.isWord "yield" && (← context).allowYield then
    advance
    yieldRest rules
  else if t.isWord "yield" && t.next.isPlainOperand then failure
  else
    match ← arrow? rules inMiddle with
    | some f => return f
    | none =>
      match ← asyncSimpleArrow? rules inMiddle with
      | some f => return f
      | none =>
        let left ← rules (.binary 0)
        let t ← token
        match left, t.lexeme with
        | .node (.reference name) _ _, .punct "=>" =>
          arrowRest rules false inMiddle .absent (singleParam name) .absent
        | _, .punct "?" => do
          advance
          let yes ← within (fun c => { c with allowIn := true }) (rules .middle)
          expect ":"
          let no ← rules (if inMiddle then .middle else .assignment)
          return .of .conditional [left, yes, no]
        | _, .punct op =>
          if assignmentOperators.contains op then
            let target ← targetOf op left
            advance
            return .of (.assign op) [target, ← rules (if inMiddle then .middle else .assignment)]
          else return left
        | _, _ => return left

/-- An expression without a comma. Marks before it tell about its first call or its function. -/
def assignment (rules : Rules) (inMiddle : Bool) : Parse Ast := do
  let t ← token
  let e ← bareAssignment rules inMiddle
  let e := if t.isPure then markPure e else e
  return if t.isQuiet then markQuiet e else e

/-- Expressions separated by commas. -/
def expression (rules : Rules) : Parse Ast := do
  let items ← separated "," (rules .assignment)
  match items with
  | [single] => return single
  | _ => return .of .sequence items

/-- A class in an expression, with its decorators. -/
def classExpression (rules : Rules) : Parse Ast := do
  let marks ← decorators rules
  classLike rules {} marks

end Nativize.Syntax.Parse
