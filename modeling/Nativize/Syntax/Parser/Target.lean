import Nativize.Syntax.Ast

/-!
# Targets of assignments

What stands left of an assignment is first read as an expression and then understood as a target:
a variable or member, or an object or list of targets.
-/

namespace Nativize.Syntax

namespace Ast

/-- A variable or member as a target. Parentheses are dropped. -/
def simpleTarget? : Ast → Option Ast
  | .node (.reference name) l p => some (.node (.reference name) l p)
  | .node (.member property false) l p => some (.node (.member property false) l p)
  | .node (.index false) l p => some (.node (.index false) l p)
  | .node (.privateMember property false) l p => some (.node (.privateMember property false) l p)
  | .node .paren _ [e] => simpleTarget? e
  | .node .nonNull l [e] => (simpleTarget? e).map fun _ => .node .nonNull l [e]
  | .node .asType l [e, type] => (simpleTarget? e).map fun _ => .node .asType l [e, type]
  | .node .satisfies l [e, type] => (simpleTarget? e).map fun _ => .node .satisfies l [e, type]
  | _ => none

mutual

/-- An expression as a target. -/
def target? : Ast → Option Ast
  | .node .object _ items => (propertyTargets? items).map (of .objectTarget)
  | .node .array _ items => (elementTargets? items).map (of .arrayTarget)
  | other => simpleTarget? other

/-- The properties of an object as targets. What takes the rest comes last, with no comma
after it. -/
def propertyTargets? : List Ast → Option (List Ast)
  | [] => some []
  | .node (.spread isFollowed) _ [e] :: rest =>
    if rest.isEmpty && !isFollowed then (target? e).map fun t => [of .targetRest [t]] else none
  | .node .coverDefault _ [name, value] :: rest =>
    (propertyTargets? rest).map (of .targetName [name, value] :: ·)
  | .node (.property facts) _ [key, value] :: rest =>
    if facts.isShorthand then (propertyTargets? rest).map (of .targetName [value, absent] :: ·)
    else if facts.isMethod || facts.form ≠ .plain then none
    else do
      let t ← elementTarget? value
      let ts ← propertyTargets? rest
      return of (.targetProperty facts.isComputed) [key, t] :: ts
  | _ :: _ => none

/-- The elements of a list as targets. What takes the rest comes last, with no comma
after it. -/
def elementTargets? : List Ast → Option (List Ast)
  | [] => some []
  | .node .absent _ _ :: rest => (elementTargets? rest).map (absent :: ·)
  | .node (.spread isFollowed) _ [e] :: rest =>
    if rest.isEmpty && !isFollowed then (target? e).map fun t => [of .targetRest [t]] else none
  | e :: rest => do
    let t ← elementTarget? e
    let ts ← elementTargets? rest
    return t :: ts

/-- A target with an optional default. -/
def elementTarget? : Ast → Option Ast
  | .node (.assign op) l [t, value] =>
    if op = "=" then some (.node .targetDefault l [t, value]) else none
  | .node .object _ items => (propertyTargets? items).map (of .objectTarget)
  | .node .array _ items => (elementTargets? items).map (of .arrayTarget)
  | other => simpleTarget? other

end

end Ast

end Nativize.Syntax
