import Nativize.Syntax.Parser.Type

/-!
# Functions

Function declarations and expressions, arrow functions, and how an arrow function is told from an
expression in parentheses.
-/

namespace Nativize.Syntax.Parse

/-- The context of a function's parameters and body. -/
def functionContext (isAsync isGenerator : Bool) (c : Context) : Context :=
  { c with
    allowIn := true
    allowAwait := isAsync
    allowYield := isGenerator
    allowReturn := true
    allowConditionalType := true
    inDecorator := false }

/-- A statement that is a string alone. -/
def isStringStatement : Ast → Bool
  | .node .exprStmt _ [.node (.string _) _ _] => true
  | _ => false

/-- The directives at the start of a body or program. -/
def directives (rules : Rules) : Parse (List Directive) := many do
  match ← lexeme with
  | .string _ raw => do
    let comments ← lead
    attempt do
      ensure (isStringStatement (← rules .statement))
      return ⟨raw, comments⟩
  | _ => return none

/-- A function body, with the comments before its closing brace. -/
def functionBody (rules : Rules) : Parse Ast := do
  expect "\x7b"
  let marks ← directives rules
  let statements ← many do
    if ← isPunct "\x7d" then return none else return some (← rules .statement)
  let closing ← lead
  expect "\x7d"
  return .of (.body marks closing) statements

/-- The parts of a function after its name. One without a body ends like a statement, and what is
declared as defined elsewhere has none. -/
def functionParts (rules : Rules) (facts : FunctionFacts) (ofConstructor : Bool) (name : Ast) :
    Parse Ast :=
  within (functionContext facts.isAsync facts.isGenerator) do
    let generics ← typeParams? rules
    let ps ← params rules ofConstructor
    let result ← resultAnnotation rules
    if ← isPunct "\x7b" then
      ensure !facts.isDeclare
      let body ← rules .body
      return .of (.functionLike facts) [name, generics, ps, result, body]
    else
      semicolon
      let form := if facts.form = .declaration then .signature else facts.form
      return .of (.functionLike { facts with form := form }) [name, generics, ps, result, .absent]

/-- The signature of a function is that of an accessor. -/
def isAccessor (form : AccessorForm) (f : Ast) : Bool :=
  fitsAccessor form (f.part 1) (f.part 2) (f.part 3)

/-- A function, from its keyword or the one before. The name of an expression belongs to the
function itself. -/
def functionLike (rules : Rules) (form : FunctionForm) (isDeclare : Bool) : Parse Ast := do
  let isAsync ← eatWord "async"
  expectWord "function"
  let isGenerator ← eat "*"
  let ownName (c : Context) : Context :=
    if form = .expression then { c with allowAwait := isAsync, allowYield := isGenerator } else c
  let name ← within ownName do
    if ← atVariableName then bindingName else pure .absent
  let facts : FunctionFacts :=
    { form := form, isAsync := isAsync, isGenerator := isGenerator, isDeclare := isDeclare }
  functionParts rules facts false name

/-- The body of an arrow function. -/
def arrowBody (rules : Rules) (isAsync inMiddle : Bool) : Parse (Ast × Bool) := do
  if ← isPunct "\x7b" then
    let body ← within (functionContext isAsync false) (rules .body)
    return (body, false)
  else
    let e ← within
      (fun c => { c with allowAwait := isAsync, allowYield := false, allowReturn := true })
      (rules (if inMiddle then .middle else .assignment))
    return (.of (.body [] []) [.of .exprStmt [e]], true)

/-- An arrow function from its arrow on. -/
def arrowRest (rules : Rules) (isAsync inMiddle : Bool) (generics ps result : Ast) : Parse Ast := do
  ensure !(← afterBreak)
  expect "=>"
  let (body, isExpression) ← arrowBody rules isAsync inMiddle
  return .of (.arrow { isAsync := isAsync, isExpression := isExpression })
    [generics, ps, result, body]

/-- The parameters of an arrow function that is written with one name. -/
def singleParam (name : String) : Ast :=
  .of .params [.of (.param {}) [.of .group [], .leaf (.binding name), .absent, .absent]]

/-- An arrow function with parameters in parentheses. In the middle of a conditional one with a
result type must be followed by the colon of the conditional. -/
def parenthesizedArrow (rules : Rules) (inMiddle : Bool) : Parse Ast := do
  let isAsync ← eatWord "async"
  let inHead (c : Context) : Context :=
    { c with
      allowIn := true
      allowAwait := c.allowAwait || isAsync
      allowConditionalType := true
      inDecorator := false }
  let (generics, ps, result) ← within inHead do
    let generics ← typeParams? rules
    let ps ← params rules false
    let result ← resultAnnotation rules
    return (generics, ps, result)
  ensure !(hasReceiver ps)
  let f ← arrowRest rules isAsync inMiddle generics ps result
  if inMiddle && !result.isAbsent then ensure (← isPunct ":")
  return f

/-- The words that modify what follows them, but for `async`. -/
def modifierWords : List String :=
  ["abstract", "accessor", "const", "declare", "default", "export", "in", "out", "private",
   "protected", "public", "override", "readonly", "static"]

/-- Whether an arrow function with parameters in parentheses starts at a token: yes, no, or not
known without reading on. -/
def arrowOutlook (t : Token) : Option Bool :=
  if t.isWord "async" then
    let next := t.next
    if next.afterBreak then some false
    else if next.isPunct "(" || next.isPunct "<" then fromOpening next
    else some false
  else fromOpening t
where
  fromOpening (first : Token) : Option Bool :=
    let second := first.next
    if first.isPunct "(" then
      if second.isPunct ")" then
        let third := second.next
        some (third.isPunct "=>" || third.isPunct ":" || third.isPunct "\x7b")
      else if second.isPunct "[" || second.isPunct "\x7b" then none
      else if second.isPunct "..." then some true
      else if modifierWords.any second.isWord && second.next.isVariableName then
        some !(second.next.isWord "as")
      else if !second.isVariableName && !second.isWord "this" then some false
      else
        let third := second.next
        if third.isPunct ":" then some true
        else if third.isPunct "?" then
          let fourth := third.next
          some (fourth.isPunct ":" || fourth.isPunct "," || fourth.isPunct "=" ||
            fourth.isPunct ")")
        else if third.isPunct "," || third.isPunct "=" || third.isPunct ")" then none
        else some false
    else if first.isPunct "<" then
      let name := if second.isWord "const" then second.next else second
      if !name.isVariableName then some false
      else
        let third := name.next
        if third.isWord "extends" then
          let fourth := third.next
          some !(fourth.isPunct "=" || fourth.isPunct ">" || fourth.isPunct "/")
        else some (third.isPunct "," || third.isPunct "=")
    else some false

/-- An arrow function with parameters in parentheses, if one starts here. -/
def arrow? (rules : Rules) (inMiddle : Bool) : Parse (Option Ast) := do
  match arrowOutlook (← token) with
  | some true => return some (← parenthesizedArrow rules inMiddle)
  | some false => return none
  | none => attempt (parenthesizedArrow rules inMiddle)

/-- An asynchronous arrow function with one name, if one starts here. -/
def asyncSimpleArrow? (rules : Rules) (inMiddle : Bool) : Parse (Option Ast) := do
  let t ← token
  let next := t.next
  if t.isWord "async" && next.isVariableName && !next.afterBreak && next.next.isPunct "=>" then
    advance
    let name ← variableName
    return some (← arrowRest rules true inMiddle .absent (singleParam name) .absent)
  else return none

/-- Mark a function whose calls have no effects, in parentheses or not. -/
def markQuiet : Ast → Ast
  | .node (.functionLike facts) l p => .node (.functionLike { facts with isQuiet := true }) l p
  | .node (.arrow facts) l p => .node (.arrow { facts with isQuiet := true }) l p
  | .node .paren l [e] => .node .paren l [markQuiet e]
  | other => other

/-- Mark a function that is written in parentheses. -/
def markInParens : Ast → Ast
  | .node (.functionLike facts) l p => .node (.functionLike { facts with inParens := true }) l p
  | .node (.arrow facts) l p => .node (.arrow { facts with inParens := true }) l p
  | other => other

end Nativize.Syntax.Parse
