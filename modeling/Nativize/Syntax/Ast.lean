import Nativize.Syntax.Kind

/-!
# Syntax trees

A tree is a node with a kind, the comments that stand before it, and its parts. Every traversal of
a program follows this one shape.
-/

namespace Nativize.Syntax

/-- A syntax tree. -/
inductive Ast where
  | node (kind : Kind) (lead : List Comment) (parts : List Ast)

namespace Ast

/-- A node without comments. -/
def of (kind : Kind) (parts : List Ast) : Ast := .node kind [] parts

/-- A node without parts. -/
def leaf (kind : Kind) : Ast := .node kind [] []

/-- A part that is not there. -/
def absent : Ast := leaf .absent

instance : Inhabited Ast := ⟨absent⟩

def kind : Ast → Kind
  | .node k _ _ => k

def lead : Ast → List Comment
  | .node _ l _ => l

def parts : Ast → List Ast
  | .node _ _ p => p

def isAbsent : Ast → Bool
  | .node .absent _ _ => true
  | _ => false

/-- The tree with comments before it. -/
def withLead (comments : List Comment) : Ast → Ast
  | .node k _ p => .node k comments p

/-- The part at a place, `absent` when there is none. -/
def part (t : Ast) (i : Nat) : Ast := (t.parts[i]?).getD absent

mutual

/-- All nodes, each before its parts, in the order in which they are written. -/
def nodes : Ast → List Ast
  | .node k l p => .node k l p :: nodesOf p

def nodesOf : List Ast → List Ast
  | [] => []
  | t :: rest => nodes t ++ nodesOf rest

end

mutual

/-- The tree with a function applied to the kind of every node, and no comments before any. -/
def mapKinds (f : Kind → Kind) : Ast → Ast
  | .node k _ p => .node (f k) [] (mapKindsOf f p)

def mapKindsOf (f : Kind → Kind) : List Ast → List Ast
  | [] => []
  | t :: rest => mapKinds f t :: mapKindsOf f rest

end

mutual

/-- Some node is of a kind that satisfies the test. -/
def anyKind (test : Kind → Bool) : Ast → Bool
  | .node k _ p => test k || anyKindOf test p

def anyKindOf (test : Kind → Bool) : List Ast → Bool
  | [] => false
  | t :: rest => anyKind test t || anyKindOf test rest

end

end Ast

/-- The directive without its comments. -/
def Directive.withoutComments (d : Directive) : Directive := { d with lead := [] }

/-- The kind without the comments that are among its facts. -/
def Kind.withoutComments : Kind → Kind
  | .body directives _ => .body (directives.map (·.withoutComments)) []
  | .moduleBody directives => .moduleBody (directives.map (·.withoutComments))
  | .call optional isPure _ => .call optional isPure []
  | .newCall isPure _ => .newCall isPure []
  | .importCall phase _ => .importCall phase []
  | .emptyContent _ => .emptyContent []
  | .program hashbang directives _ => .program hashbang (directives.map (·.withoutComments)) []
  | other => other

/-- The tree without comments anywhere. -/
def Ast.withoutComments (t : Ast) : Ast := t.mapKinds Kind.withoutComments

end Nativize.Syntax
