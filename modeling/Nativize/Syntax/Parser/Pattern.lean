import Nativize.Syntax.Parser.Basic

/-!
# Patterns and parameters

What may stand where names are bound: a name, or an object or list of patterns, each with a
default. Parameters of functions are patterns with types.
-/

namespace Nativize.Syntax.Parse

/-- The type after a colon, if there is one. -/
def typeAnnotation (rules : Rules) : Parse Ast := do
  if ← eat ":" then rules .type else return .absent

/-- A value after an equals sign, if there is one. -/
def initializer (rules : Rules) : Parse Ast := do
  if ← eat "=" then rules .assignment else return .absent

/-- The key of a property or member, and whether it is computed. -/
def propertyKey (rules : Rules) : Parse (Ast × Bool) := do
  match ← lexeme with
  | .punct "[" => do
    advance
    let e ← within (fun c => { c with allowIn := true }) (rules .assignment)
    expect "]"
    return (e, true)
  | .string value _ => do advance; return (.leaf (.string value), false)
  | .number value raw => do advance; return (.leaf (.number value raw), false)
  | .bigint digits => do advance; return (.leaf (.bigint digits), false)
  | .word name _ => do advance; return (.leaf (.name name), false)
  | _ => failure

/-- A pattern with an optional default. -/
def withDefault (rules : Rules) (pattern : Ast) : Parse Ast := do
  if ← eat "=" then
    let value ← within (fun c => { c with allowIn := true }) (rules .assignment)
    return .of .defaulted [pattern, value]
  else return pattern

def patternElement (rules : Rules) : Parse Ast := do withDefault rules (← rules .pattern)

/-- What takes the rest is the last of a list. A comma may follow it only in a description. -/
def endsList (close : String) : Parse Unit := do
  let t ← token
  ensure (t.isPunct close || ((← context).isAmbient && t.isPunct "," && t.next.isPunct close))

/-- The rest of a list or object, after its dots. -/
def restElement (rules : Rules) (close : String) : Parse Ast := do
  let p ← rules .pattern
  endsList close
  return .of .rest [p, .absent, .absent]

def patternProperty (rules : Rules) : Parse Ast := do
  if ← eat "..." then
    ensure (← atVariableName)
    restElement rules "\x7d"
  else
    let name? ← variableName?
    let (key, isComputed) ← propertyKey rules
    if ← eat ":" then
      return .of (.patternProperty false isComputed) [key, ← patternElement rules]
    else
      match name? with
      | some name =>
        let value ← withDefault rules (.leaf (.binding name))
        return .of (.patternProperty true false) [key, value]
      | none => failure

/-- An element of a list: a hole where a comma stands. -/
def listElement (item : Parse Ast) : Parse Ast := do
  if ← eat "," then return .absent
  else
    let x ← item
    unless ← isPunct "]" do expect ","
    return x

def patternListItem (rules : Rules) : Parse Ast := do
  if ← eat "..." then restElement rules "]" else patternElement rules

/-- A pattern without a default. -/
def pattern (rules : Rules) : Parse Ast := do
  if ← eat "\x7b" then return .of .objectPattern (← listUntil "\x7d" (patternProperty rules))
  else if ← eat "[" then
    return .of .arrayPattern (← itemsUntil "]" (listElement (patternListItem rules)))
  else bindingName

/-- Decorators before a class, member or parameter. -/
def decorators (rules : Rules) : Parse Ast := do
  let items ← many do
    if ← eat "@" then
      let e ← within (fun c => { c with inDecorator := true }) (rules .leftHandSide)
      return some (.of .decorator [e])
    else return none
  return .of .group items

/-- The modifier that the current token is, if it is one of a parameter. Who may access a
parameter is told for constructors only. -/
def paramModifier? (ofConstructor : Bool) : Parse (Option String) := do
  let t ← token
  let words :=
    "readonly" :: if ofConstructor then ["public", "private", "protected", "override"] else []
  return words.find? t.isModifier

/-- The modifiers of a parameter, none of them twice. -/
def paramModifiers (ofConstructor : Bool) : Parse ParamFacts :=
  iterate {} fun facts => do
    match ← paramModifier? ofConstructor with
    | none => return none
    | some w => do
      advance
      if w == "readonly" then
        ensure !facts.isReadonly
        return some { facts with isReadonly := true }
      else if w == "override" then
        ensure !facts.isOverride
        return some { facts with isOverride := true }
      else
        ensure facts.access.isNone
        return some { facts with access := some w }

/-- One parameter. One that may be left out has no default. -/
def param (rules : Rules) (ofConstructor : Bool) : Parse Ast := do
  let marks ← decorators rules
  if ← eat "..." then
    let p ← rules .pattern
    let type ← typeAnnotation rules
    endsList ")"
    return .of .rest [p, type, marks]
  else
    let facts ← paramModifiers ofConstructor
    let p ← rules .pattern
    let isOptional ← eat "?"
    let type ← typeAnnotation rules
    let value ← within (fun c => { c with allowIn := true }) (initializer rules)
    ensure !(isOptional && !value.isAbsent)
    return .of (.param { facts with isOptional := isOptional }) [marks, p, type, value]

/-- Parameters in parentheses. The first one may give the type of the receiver. -/
def params (rules : Rules) (ofConstructor : Bool) : Parse Ast := do
  expect "("
  if ← eatWord "this" then
    let receiver := Ast.of .thisParam [← typeAnnotation rules]
    discard (eat ",")
    return .of .params (receiver :: (← listUntil ")" (param rules ofConstructor)))
  else return .of .params (← listUntil ")" (param rules ofConstructor))

/-- Some parameter gives the type of the receiver. -/
def hasReceiver (ps : Ast) : Bool := ps.parts.any fun p => p.kind = .thisParam

end Nativize.Syntax.Parse
