import Nativize.Syntax.Parser.Function

/-!
# Classes

Classes with their fields, methods, accessors and static blocks.
-/

namespace Nativize.Syntax.Parse

/-- A type that a class implements. -/
def heritage (rules : Rules) : Parse Ast := do
  let name ← entityName
  return .of .heritage [name, ← typeArgs? rules]

/-- The modifiers of a member as far as they are read. -/
structure MemberModifiers where
  facts : MemberFacts := {}
  isAsync : Bool := false
  isAccessor : Bool := false

namespace MemberModifiers

def set? (m : MemberModifiers) : String → Option MemberModifiers
  | "static" => some { m with facts.isStatic := true }
  | "abstract" => if m.facts.isAbstract then none else some { m with facts.isAbstract := true }
  | "override" => if m.facts.isOverride then none else some { m with facts.isOverride := true }
  | "readonly" => if m.facts.isReadonly then none else some { m with facts.isReadonly := true }
  | "declare" => if m.facts.isDeclare then none else some { m with facts.isDeclare := true }
  | "async" => if m.isAsync then none else some { m with isAsync := true }
  | "accessor" => if m.isAccessor then none else some { m with isAccessor := true }
  | access => if m.facts.access.isSome then none else some { m with facts.access := some access }

/-- No modifier but those that an index signature can have. -/
def fitsIndex (m : MemberModifiers) : Bool :=
  m.facts.access.isNone && !m.facts.isAbstract && !m.facts.isOverride && !m.facts.isDeclare &&
    !m.isAsync && !m.isAccessor

/-- No modifier but those that a constructor can have. -/
def fitsConstructor (m : MemberModifiers) : Bool :=
  !m.facts.isAbstract && !m.facts.isOverride && !m.facts.isReadonly && !m.facts.isDeclare &&
    !m.isAsync && !m.isAccessor

/-- No modifier but those that a field, or an accessor written like one, can have. -/
def fitsField (m : MemberModifiers) : Bool :=
  !m.isAsync && !(m.isAccessor && (m.facts.isReadonly || m.facts.isDeclare))

end MemberModifiers

/-- The words that modify a member. -/
def memberWords : List String :=
  ["public", "private", "protected", "static", "abstract", "override", "readonly", "declare",
   "async", "accessor"]

/-- The modifiers of a member, none of them twice. After one `static` another is a name. -/
def memberModifiers : Parse MemberModifiers :=
  iterate {} fun m => do
    let t ← token
    match memberWords.find? t.isModifier with
    | none => return none
    | some w =>
      if w == "static" && (m.facts.isStatic || t.next.isPunct "\x7b") then return none
      else
        match m.set? w with
        | none => failure
        | some m => do
          advance
          return some m

/-- The key of a member is the given name. -/
def isKeyOf (name : String) (facts : MemberFacts) (key : Ast) : Bool :=
  !facts.isComputed && match key with
    | .node (.name n) _ _ => n = name
    | .node (.string value) _ _ => value.text = name
    | _ => false

/-- The key of a member. A private one has no other name for who may use it, and is not that of
the constructor. -/
def memberKey (rules : Rules) (facts : MemberFacts) : Parse (Ast × Bool) := do
  match ← lexeme with
  | .privateName name => do
    ensure (name != "constructor" && facts.access.isNone)
    advance
    return (.leaf (.privateName name), false)
  | _ => propertyKey rules

/-- A constructor has no type parameters, no result and no receiver. -/
def isConstructorFunction (f : Ast) : Bool :=
  (f.part 1).isAbsent && (f.part 3).isAbsent && !hasReceiver (f.part 2)

/-- A method after its key. One that is abstract has no body. -/
def methodRest (rules : Rules) (m : MemberModifiers) (isGenerator : Bool) (marks key : Ast) :
    Parse Ast := do
  let facts := m.facts
  let isConstructor := isKeyOf "constructor" facts key && !facts.isStatic
  let f ← functionParts rules
    { form := .expression, isAsync := m.isAsync, isGenerator := isGenerator } isConstructor .absent
  ensure (isAccessor facts.form f && !(facts.isAbstract && !(f.part 4).isAbsent))
  if isConstructor then
    ensure (facts.form = .plain && !isGenerator && m.fitsConstructor && isConstructorFunction f)
  return .of (.method facts) [marks, key, f]

/-- A field, or an accessor written like one, after its key. One that is abstract has no value. -/
def fieldRest (rules : Rules) (m : MemberModifiers) (marks key : Ast) : Parse Ast := do
  let facts := m.facts
  ensure (m.fitsField && !isKeyOf "constructor" facts key && !(m.isAccessor && facts.isOptional))
  if !facts.isOptional && !(← afterBreak) then discard (eat "!")
  let type ← typeAnnotation rules
  let value ← within
    (fun c => { c with
        allowIn := true, allowAwait := false, allowYield := false, inDecorator := false })
    (initializer rules)
  ensure !(facts.isAbstract && !value.isAbsent)
  semicolon
  return .of (if m.isAccessor then .autoAccessor facts else .field facts) [marks, key, type, value]

/-- A member with a key, after its modifiers. -/
def keyedClassMember (rules : Rules) (m : MemberModifiers) (marks : Ast) : Parse Ast := do
  let t ← token
  let form : AccessorForm :=
    if t.isModifier "get" then .getter else if t.isModifier "set" then .setter else .plain
  let isPlain := form = .plain
  if !isPlain then
    ensure !m.isAsync
    advance
  let isGenerator ← if isPlain then eat "*" else pure false
  let (key, isComputed) ← memberKey rules m.facts
  let isOptional ← if isPlain then eat "?" else pure false
  let facts := { m.facts with form := form, isComputed := isComputed, isOptional := isOptional }
  ensure !(facts.isStatic && isKeyOf "prototype" facts key)
  if isGenerator || !isPlain || (← isPunct "(") || (← isPunct "<") then
    methodRest rules { m with facts := facts } isGenerator marks key
  else fieldRest rules { m with facts := facts } marks key

/-- A block that is run for the class, from its keyword on. -/
def staticBlock (rules : Rules) : Parse Ast := do
  expectWord "static"
  expect "\x7b"
  let statements ← within (fun c => { functionContext false false c with allowReturn := false })
    (itemsUntil "\x7d" (rules .statement))
  return .of .staticBlock statements

/-- A member of a class. -/
def classMember (rules : Rules) : Parse Ast := do
  let comments ← lead
  let marks ← decorators rules
  let m ← memberModifiers
  let t ← token
  let member ←
    if t.isWord "static" && t.next.isPunct "\x7b" then do
      ensure (marks.parts.isEmpty && m.fitsIndex && !m.facts.isStatic && !m.facts.isReadonly)
      staticBlock rules
    else if ← atIndexSignature then do
      ensure (marks.parts.isEmpty && m.fitsIndex)
      advance
      let signature ← indexSignature rules m.facts.isReadonly
      memberEnd
      pure signature
    else keyedClassMember rules m marks
  return member.withLead comments

/-- The members of a class in braces. Semicolons may stand between them. -/
def classBody (rules : Rules) : Parse (List Ast) := do
  expect "\x7b"
  let skipSeparators : Parse Unit :=
    discard (many do if ← eat ";" then return some () else return none)
  skipSeparators
  itemsUntil "\x7d" do
    let member ← classMember rules
    skipSeparators
    return member

/-- A class from its keyword on. -/
def classLike (rules : Rules) (facts : ClassFacts) (marks : Ast) : Parse Ast := do
  expectWord "class"
  let name ← if (← atVariableName) && !(← isWord "implements") then bindingName else pure .absent
  let generics ← typeParams? rules
  let (base, baseArgs) ←
    if ← eatWord "extends" then do
      let e ← rules .leftHandSide
      match e with
      | .node .instantiate _ [inner, args] => pure (inner, args)
      | other => do pure (other, ← typeArgs? rules)
    else pure (Ast.absent, Ast.absent)
  let interfaces ← if ← eatWord "implements" then separated "," (heritage rules) else pure []
  let members ← within (fun c => { c with isAmbient := c.isAmbient || facts.isDeclare })
    (classBody rules)
  return .of (.classLike facts)
    [marks, name, generics, base, baseArgs, .of .group interfaces, .of .group members]

end Nativize.Syntax.Parse
