import Nativize.Syntax.Parser.Type

/-!
# Markup

Elements and fragments inside a program. The text between tags is taken as it is written; an
element closes with the name that it opened with.
-/

namespace Nativize.Syntax.Parse

/-- A name of markup, with dashes. -/
def markupWord : Parse String := do
  reread Token.asMarkupName
  match ← lexeme with
  | .word name _ => do advance; return name
  | _ => failure

/-- A tag is a plain name when it starts with a small letter or has a dash. -/
def isPlainTag (name : String) : Bool :=
  match name.toList with
  | c :: rest => ('a' ≤ c && c ≤ 'z') || rest.contains '-'
  | [] => false

/-- A tag that refers to a variable. -/
def tagReference (name : String) : Ast :=
  if name = "this" then .leaf .thisValue else .leaf (.reference name)

/-- The name of an element. Only the first word of a path may have dashes. -/
def elementName : Parse Ast := do
  let first ← markupWord
  if ← eat ":" then return .leaf (.markupNamespaced first (← markupWord))
  else if ← isPunct "." then
    iterate (tagReference first) fun object => do
      if ← eat "." then
        let property ← markupWord
        ensure !(property.toList.contains '-')
        return some (.of (.markupMember property) [object])
      else return none
  else return if first != "this" && isPlainTag first then .leaf (.markupName first)
    else tagReference first

/-- Two names of elements are written alike. -/
def sameName : Ast → Ast → Bool
  | .node (.markupName a) _ _, .node (.markupName b) _ _ => a = b
  | .node (.reference a) _ _, .node (.reference b) _ _ => a = b
  | .node .thisValue _ _, .node .thisValue _ _ => true
  | .node (.markupNamespaced s a) _ _, .node (.markupNamespaced t b) _ _ => s = t && a = b
  | .node (.markupMember a) _ [x], .node (.markupMember b) _ [y] => a = b && sameName x y
  | _, _ => false

/-- An expression in braces as the value of an attribute. -/
def attributeContainer (rules : Rules) : Parse Ast := do
  expect "\x7b"
  let e ← rules .assignment
  expect "\x7d"
  return .of .container [e]

def attributeValue (rules : Rules) : Parse Ast := do
  reread Token.asMarkupString
  match ← lexeme with
  | .string value _ => do advance; return .leaf (.markupString value.text)
  | .punct "\x7b" => attributeContainer rules
  | .punct "<" => rules .element
  | _ => failure

def attributeItem (rules : Rules) : Parse Ast := do
  if ← eat "\x7b" then
    expect "..."
    let e ← rules .assignment
    expect "\x7d"
    return .of .markupSpread [e]
  else
    let first ← markupWord
    let name ← if ← eat ":" then do pure (Ast.leaf (.markupNamespaced first (← markupWord)))
      else pure (Ast.leaf (.markupName first))
    if ← eat "=" then return .of .markupAttribute [name, ← attributeValue rules]
    else return .of .markupAttribute [name, .absent]

/-- The attributes of an opening tag. -/
def attributes (rules : Rules) : Parse (List Ast) := many do
  if (← isPunct ">") || (← isPunct "/") then return none else return some (← attributeItem rules)

/-- Go to a place in the input where a sign of one character stands. -/
def goTo (sign : String) (text : List Char) : Parse Unit :=
  modify fun s =>
    { s with token := ⟨.punct sign, false, [], text, text, text.drop 1, false, false⟩ }

/-- A container among the children of an element. -/
def childContainer (rules : Rules) : Parse Ast := do
  expect "\x7b"
  if ← isPunct "\x7d" then
    let comments ← lead
    advance
    return .of .container [.leaf (.emptyContent comments)]
  else if ← eat "..." then
    let e ← rules .assignment
    expect "\x7d"
    return .of .spreadChild [e]
  else
    let e ← rules .assignment
    expect "\x7d"
    return .of .container [e]

/-- The next child of an element, if there is one. The input is read from the end of the token
before, and stays at the sign that opens the closing tag. -/
def child? (rules : Rules) : Parse (Option Ast) := do
  let (text, rest) := (← token).markupText
  if !text.isEmpty then
    ensure !(text.any fun c => c == '>' || c == '\x7d')
    match rest with
    | c :: _ => goTo (String.singleton c) rest
    | [] => failure
    return some (.leaf (.markupText (String.ofList text)))
  else
    match rest with
    | '<' :: _ => do
      goTo "<" rest
      if ← nextIsPunct "/" then return none else return some (← rules .element)
    | '\x7b' :: _ => do
      goTo "\x7b" rest
      return some (← childContainer rules)
    | _ => failure

/-- An element or fragment. -/
def element (rules : Rules) : Parse Ast := do
  reread Token.asLess
  expect "<"
  if ← eat ">" then
    let children ← many (child? rules)
    expect "<"
    expect "/"
    expect ">"
    return .of .fragment children
  else
    let name ← elementName
    let generics ← if ← isPunct "<" then typeArgs rules else pure .absent
    let attrs ← attributes rules
    if ← eat "/" then
      expect ">"
      return .of .element [name, generics, .of .group attrs, .of .group [], .absent]
    else
      expect ">"
      let children ← many (child? rules)
      expect "<"
      expect "/"
      let closing ← elementName
      ensure (sameName name closing)
      expect ">"
      return .of .element [name, generics, .of .group attrs, .of .group children, closing]

end Nativize.Syntax.Parse
