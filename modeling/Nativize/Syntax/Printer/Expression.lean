import Nativize.Syntax.Printer.Piece

/-!
# Layout of expressions

Parentheses are printed only where the levels of operators need them. Objects with several
properties and lists with more than two elements take a line for each.
-/

namespace Nativize.Syntax.Layout

open Print

/-- The expression without parentheses around it. -/
def unwrap : Ast → Ast
  | .node .paren _ [e] => unwrap e
  | other => other

/-- Parts on lines of their own. -/
def lines (ps : List (Print Unit)) : Print Unit := do
  indented (sepBy (str ",") (ps.map fun p => do
    newline
    indent
    p))
  newline
  indent

/-- An element of a list; a hole at the end needs a comma. -/
def elements : List Piece → List (Print Unit)
  | [] => []
  | [p] => [do p.atLevel Level.comma; unless p.isThere do str ","]
  | p :: rest => p.atLevel Level.comma :: elements rest

def array (ps : List Piece) : Print Unit := do
  str "["
  if ps.length > 2 then lines (elements ps) else list (elements ps)
  str "]"

/-- An object. One with comments before it is in parentheses, together with them. -/
def object (lead : List Comment) (ps : List Piece) (place : Place) : Print Unit := do
  let hasComments ← anyPending lead
  let isOpening := (← atStatementStart) || (← atArrowStart)
  wrap (hasComments || isOpening) do
    if hasComments then
      comments lead
      indent
    str "\x7b"
    match ps with
    | [] => pure ()
    | [p] => do
      space
      p.within place
      space
    | _ => lines (ps.map fun p => p.within place)
    str "\x7d"

/-- A key, in brackets where it is computed. -/
def key (p : Piece) (isComputed : Bool) : Print Unit := do
  if isComputed then
    str "["
    p.atLevel Level.comma
    str "]"
  else p.atLevel Level.comma

/-- A key and a value of the same name are written once. -/
def isShort (keyTree value : Ast) : Bool :=
  match keyTree, unwrap value with
  | .node (.name k) _ _, .node (.reference v) _ _ => k = v && k != "__proto__"
  | _, _ => false

/-- A key that needs brackets, because its number is negative or infinite. -/
def needsBrackets : Ast → Bool
  | .node (.number (.finite true _) _) _ _ => true
  | .node (.number (.infinite _) _) _ _ => true
  | _ => false

/-- The words and signs before the key of a method. -/
def functionMarks : Ast → Print Unit
  | .node (.functionLike facts) _ _ => do
    if facts.isAsync then word "async "
    if facts.isGenerator then str "*"
  | _ => pure ()

def accessorMark : AccessorForm → Print Unit
  | .plain => pure ()
  | .getter => str "get "
  | .setter => str "set "

/-- The type parameters, parameters and result type of a function. -/
def signature (generics ps result : Piece) : Print Unit := do
  generics.print
  str "("
  ps.print
  str ")"
  result.after ": "

/-- The parts of a function from its type parameters on. -/
def functionTail (ps : List Piece) (place : Place) : Print Unit := do
  signature (nth ps 1) (nth ps 2) (nth ps 3)
  if (nth ps 4).isThere then
    space
    (nth ps 4).within place

def isReceiver : Ast → Bool
  | .node .thisParam _ _ => true
  | _ => false

/-- The method of an object after its key. The type of its receiver is not printed. -/
def objectMethodTail (ps : List Piece) (place : Place) : Print Unit := do
  (nth ps 1).print
  str "("
  list (((nth ps 2).parts.filter fun p => !isReceiver p.tree).map Piece.print)
  str ")"
  (nth ps 3).after ": "
  if (nth ps 4).isThere then
    space
    (nth ps 4).within place

def property (facts : PropertyFacts) (ps : List Piece) (place : Place) : Print Unit := do
  let k := nth ps 0
  let value := nth ps 1
  if facts.isMethod || facts.form ≠ .plain then
    accessorMark facts.form
    functionMarks value.tree
    key k facts.isComputed
    objectMethodTail value.parts place
  else
    let isProto := match k.tree with
      | .node (.name "__proto__") _ _ => true
      | _ => false
    let isShorthand := !facts.isComputed &&
      (isShort k.tree value.tree || (isProto && facts.isShorthand))
    unless isShorthand do
      key k (facts.isComputed || needsBrackets k.tree)
      str ": "
    value.atLevel Level.comma

/-- A pattern property whose key and name are the same. -/
def isShortPattern (keyTree value : Ast) : Bool :=
  match keyTree, value with
  | .node (.name k) _ _, .node (.binding v) _ _ => k = v
  | .node (.name k) _ _, .node .defaulted _ (.node (.binding v) _ _ :: _) => k = v
  | _, _ => false

def patternProperty (isComputed : Bool) (ps : List Piece) : Print Unit := do
  let k := nth ps 0
  let value := nth ps 1
  unless !isComputed && isShortPattern k.tree value.tree do
    key k isComputed
    str ": "
  value.print

def objectPattern (ps : List Piece) : Print Unit := do
  if ps.isEmpty then str "\x7b\x7d"
  else
    str "\x7b "
    list (ps.map Piece.print)
    str " \x7d"

def isRestNode : Ast → Bool
  | .node .rest _ _ => true
  | .node .targetRest _ _ => true
  | _ => false

/-- The elements of a list of patterns or targets. -/
def patternElements : List Piece → List (Print Unit)
  | [] => []
  | [p] => [do p.print; unless p.isThere do str ","]
  | p :: rest => p.print :: patternElements rest

/-- A list of patterns. What takes the rest alone has a blank before it. -/
def arrayPattern (ps : List Piece) : Print Unit := do
  str "["
  match ps with
  | [p] => if isRestNode p.tree then space
  | _ => pure ()
  list (patternElements ps)
  str "]"

def arrayTarget (ps : List Piece) : Print Unit := do
  str "["
  list (patternElements ps)
  str "]"

def objectTarget (ps : List Piece) : Print Unit := do
  str "\x7b"
  list (ps.map Piece.print)
  str "\x7d"

def targetName (ps : List Piece) : Print Unit := do
  (nth ps 0).print
  if (nth ps 1).isThere then
    str " = "
    (nth ps 1).atLevel Level.comma

def targetProperty (isComputed : Bool) (ps : List Piece) : Print Unit := do
  key (nth ps 0) isComputed
  str ": "
  (nth ps 1).print

def defaulted (ps : List Piece) : Print Unit := do
  (nth ps 0).print
  str " = "
  (nth ps 1).atLevel Level.comma

/-- What takes the rest, after its decorators. -/
def rest (ps : List Piece) : Print Unit := do
  all ((nth ps 2).parts.map fun p => do p.print; space)
  str "..."
  (nth ps 0).print
  (nth ps 1).after ": "

/-- An object before a member. Calls in the callee of `new` stay in parentheses. -/
def receiver (p : Piece) (place : Place) : Print Unit :=
  p.printer { level := Level.after, forbidCall := place.forbidCall }

/-- The expression is the variable `let`, with a type or not. -/
def isLet : Ast → Bool
  | .node (.reference name) _ _ => name = "let"
  | .node .paren _ [e] => isLet e
  | .node .nonNull _ [e] => isLet e
  | .node .asType _ [e, _] => isLet e
  | .node .satisfies _ [e, _] => isLet e
  | .node .instantiate _ [e, _] => isLet e
  | _ => false

def member (name : String) (optional : Bool) (ps : List Piece) (place : Place) : Print Unit := do
  receiver (nth ps 0) place
  if optional then str "?"
  else
    let p ← get
    if p.numberEnd = some p.size then space
  str "."
  str name

def privateMember (name : String) (optional : Bool) (ps : List Piece) (place : Place) :
    Print Unit := do
  receiver (nth ps 0) place
  if optional then str "?"
  str (".#" ++ name)

def index (optional : Bool) (ps : List Piece) (place : Place) : Print Unit := do
  wrap (isLet (nth ps 0).tree) (receiver (nth ps 0) place)
  if optional then str "?."
  str "["
  (nth ps 1).print
  str "]"

/-- An argument on a line of its own, after its comments. -/
def argumentLine (p : Piece) : Print Unit := do
  unless ← argumentComments p.tree.lead do newline
  indent
  p.atLevel Level.comma

/-- Arguments in parentheses, on lines of their own where there are comments among them. -/
def arguments (ps : List Piece) (closing : List Comment) : Print Unit := do
  str "("
  if ← anyPending (closing ++ ps.flatMap fun p => p.tree.lead) then
    deeper
    sepBy (str ",") (ps.map argumentLine)
    unless ← argumentComments closing do newline
    shallower
    indent
  else list (items ps)
  str ")"

/-- The mark of a call without effects. -/
def pureMark : String := "/* @__PURE__ */ "

/-- A call. Where it starts a statement or export, its callee does, also after the mark. -/
def call (optional isPure : Bool) (closing : List Comment) (ps : List Piece) (place : Place) :
    Print Unit := do
  let isStatement ← atStatementStart
  let isExport ← atExportStart
  wrap (Level.construct ≤ place.level || place.forbidCall ||
    (isPure && Level.after ≤ place.level)) do
    if isPure then str pureMark
    if isExport then startExport else if isStatement then startStatement
    (nth ps 0).atLevel Level.after
    if optional then str "?."
    (nth ps 1).print
    arguments (ps.drop 2) closing

def newCall (isPure : Bool) (closing : List Comment) (ps : List Piece) (place : Place) :
    Print Unit :=
  wrap (Level.call ≤ place.level || (isPure && Level.after ≤ place.level)) do
    if isPure then str pureMark
    word "new "
    (nth ps 0).printer { level := Level.construct, forbidCall := true }
    (nth ps 1).print
    arguments (ps.drop 2) closing

/-- The source of an imported module and its options. With comments each takes a line, but the
closing parenthesis is not shifted. -/
def importArguments (closing : List Comment) (ps : List Piece) : Print Unit := do
  let source := nth ps 0
  let options := nth ps 1
  if ← anyPending (closing ++ source.tree.lead ++ options.tree.lead) then
    indented do
      argumentLine source
      if options.isThere then
        str ",\n"
        indent
        options.atLevel Level.comma
      unless ← argumentComments closing do newline
  else list (items ([source, options].filter Piece.isThere))

def importCall (phase : Option String) (closing : List Comment) (ps : List Piece) (place : Place) :
    Print Unit :=
  wrap (Level.construct ≤ place.level || place.forbidCall) do
    word "import"
    match phase with
    | some p => str ("." ++ p)
    | none => pure ()
    str "("
    importArguments closing ps
    str ")"

def chain (ps : List Piece) (place : Place) : Print Unit :=
  wrap (Level.after ≤ place.level) ((nth ps 0).printer place)

def isInfinity : Ast → Bool
  | .node (.number (.infinite false) _) _ _ => true
  | _ => false

/-- An operator before an expression. A number that is printed as a name may not be deleted. -/
def unary (op : String) (ps : List Piece) (place : Place) : Print Unit :=
  wrap (Level.before ≤ place.level) do
    if op.toList.all Char.isAlpha then
      word op
      space
    else
      spaceBeforeOperator op
      str op
      markOperator op
    let isGuarded := op == "delete" && isInfinity (nth ps 0).tree
    if isGuarded then str "(0, "
    (nth ps 0).printer (place.withLevel Level.exponent)
    if isGuarded then str ")"

def update (op : String) (isBefore : Bool) (ps : List Piece) (place : Place) : Print Unit :=
  wrap ((if isBefore then Level.before else Level.after) ≤ place.level) do
    spaceBeforeOperator op
    if isBefore then
      str op
      markOperator op
      (nth ps 0).printer (place.withLevel Level.before)
    else
      (nth ps 0).printer (place.withLevel Level.after)
      str op
      markOperator op

/-- A node that needs parentheses as the base of a power. -/
def isBareOperator (t : Ast) : Bool :=
  match unwrap t with
  | .node (.unary _) _ _ => true
  | _ => false

/-- A node that needs parentheses beside the operator for missing values. -/
def isOtherLogical (t : Ast) : Bool :=
  match unwrap t with
  | .node (.logical op) _ _ => op = "||" || op = "&&"
  | _ => false

/-- An operation of two expressions. -/
def operation (op : String) (isLogical : Bool) (ps : List Piece) (place : Place) : Print Unit := do
  let own := Level.ofOperator op
  let isWrapped := own ≤ place.level || (op == "in" && place.forbidIn)
  let left := nth ps 0
  let right := nth ps 1
  let leftLevel :=
    if op == "**" then (if isBareOperator left.tree then 21 else own)
    else if op == "??" && isOtherLogical left.tree then Level.before
    else own - 1
  let rightLevel :=
    if op == "**" then own - 1
    else if isLogical then
      if op == "??" && isOtherLogical right.tree then Level.before else own - 1
    else own
  let forbidIn := place.forbidIn && !isWrapped
  wrap isWrapped do
    left.printer { level := leftLevel, forbidIn := forbidIn }
    space
    spaceBeforeOperator op
    str op
    markOperator op
    space
    right.printer { level := rightLevel, forbidIn := forbidIn }

/-- A test for a private name. -/
def privateIn (ps : List Piece) (place : Place) : Print Unit :=
  wrap (Level.compare ≤ place.level) do
    (nth ps 0).print
    str " in "
    (nth ps 1).printer { level := Level.equals, forbidIn := true }

def isPrivateName : Ast → Bool
  | .node (.privateName _) _ _ => true
  | _ => false

/-- An operation that is not logical. -/
def binary (op : String) (ps : List Piece) (place : Place) : Print Unit :=
  if isPrivateName (nth ps 0).tree then privateIn ps place else operation op false ps place

def conditional (ps : List Piece) (place : Place) : Print Unit := do
  let isWrapped := Level.conditional ≤ place.level
  let forbidIn := place.forbidIn && !isWrapped
  wrap isWrapped do
    (nth ps 0).printer { level := Level.conditional, forbidIn := forbidIn }
    str " ? "
    (nth ps 1).atLevel Level.yieldValue
    str " : "
    (nth ps 2).printer { level := Level.yieldValue, forbidIn := forbidIn }

def isObjectTarget : Ast → Bool
  | .node .objectTarget _ _ => true
  | _ => false

def assign (op : String) (ps : List Piece) (place : Place) : Print Unit := do
  let target := nth ps 0
  let isOpening := (← atStatementStart) || (← atArrowStart)
  wrap ((isOpening && isObjectTarget target.tree) || Level.assign ≤ place.level) do
    target.print
    str (" " ++ op ++ " ")
    (nth ps 1).printer (place.withLevel Level.comma)

def sequence (ps : List Piece) (place : Place) : Print Unit :=
  wrap (Level.comma ≤ place.level)
    (list (ps.map fun p => p.printer { place.body with forbidCall := false }))

def awaitValue (ps : List Piece) (place : Place) : Print Unit :=
  wrap (Level.before ≤ place.level) do
    word "await "
    (nth ps 0).printer (place.withLevel Level.exponent)

def yieldValue (delegate : Bool) (ps : List Piece) (place : Place) : Print Unit :=
  wrap (Level.assign ≤ place.level) do
    word "yield"
    if delegate then str "*"
    if (nth ps 0).isThere then
      space
      (nth ps 0).atLevel Level.yieldValue

/-- A template: the texts of its fixed parts with the substitutions between them. -/
def templateParts (texts : List String) (ps : List Piece) : Print Unit :=
  match texts, ps with
  | [], _ => pure ()
  | text :: texts, [] => do
    str text
    templateParts texts []
  | text :: texts, p :: ps => do
    str text
    str "$\x7b"
    p.print
    str "\x7d"
    templateParts texts ps

def template (quasis : List Quasi) (ps : List Piece) : Print Unit := do
  str "\x60"
  templateParts (quasis.map fun q => guarded q.raw) ps
  str "\x60"

def taggedTemplate (ps : List Piece) (place : Place) : Print Unit := do
  (nth ps 0).printer (place.withLevel Level.after)
  (nth ps 1).print
  (nth ps 2).print

/-- An expression with a type after it. -/
def typed (keyword : String) (ps : List Piece) (place : Place) : Print Unit :=
  wrap (Level.compare ≤ place.level) do
    (nth ps 0).printer (place.withLevel Level.exponent)
    str keyword
    (nth ps 1).print

def isParen : Ast → Bool
  | .node .paren _ _ => true
  | _ => false

/-- An expression that is surely there. Its parentheses are kept. -/
def nonNull (ps : List Piece) (place : Place) : Print Unit := do
  wrap (isParen (nth ps 0).tree) ((nth ps 0).printer place)
  str "!"

/-- The flags of a regular expression in their fixed order. -/
def orderedFlags (flags : String) : String :=
  String.ofList ("gimsuydv".toList.filter flags.toList.contains)

def regex (pattern flags : String) : Print Unit := do
  if (← get).last = some '/' then space
  str ("/" ++ pattern ++ "/" ++ orderedFlags flags)
  markRegex

end Nativize.Syntax.Layout
