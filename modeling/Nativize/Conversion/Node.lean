import Nativize.Syntax.Ast
import Nativize.Text.Identifier

/-!
# Nodes that passes build and recognise
-/

namespace Nativize.Conversion

open Syntax

/-- The member of a variable. A name that is no plain identifier is put in brackets. -/
def memberOf (object property : String) : Ast :=
  let base := Ast.leaf (.reference object)
  if Text.isPlainName property then .of (.member property false) [base]
  else .of (.index false) [base, .leaf (.string ⟨property, false⟩)]

/-- A property of an object literal. -/
def namedProperty (name : String) (value : Ast) : Ast :=
  let key : Ast :=
    if Text.isPlainName name then .leaf (.name name) else .leaf (.string ⟨name, false⟩)
  .of (.property {}) [key, value]

/-- The name of a property, if it is written out as an identifier or a string. -/
def propertyName? : Ast → Option String
  | .node (.property facts) _ (key :: _) =>
    if facts.isComputed then none
    else
      match key with
      | .node (.name name) _ _ => some name
      | .node (.string value) _ _ => some value.text
      | _ => none
  | _ => none

/-- The properties of an object literal that have a name, in order. -/
def namedEntries (properties : List Ast) : List (String × Ast) :=
  properties.filterMap fun p => (propertyName? p).map fun name => (name, p.part 1)

mutual

/-- The pattern binds the name, at any depth. -/
def patternBinds (name : String) : Ast → Bool
  | .node (.binding n) _ _ => n = name
  | .node .objectPattern _ parts => anyBinds name parts
  | .node .arrayPattern _ parts => anyBinds name parts
  | .node (.patternProperty _ _) _ [_, value] => patternBinds name value
  | .node .rest _ (p :: _) => patternBinds name p
  | .node .defaulted _ (p :: _) => patternBinds name p
  | _ => false

def anyBinds (name : String) : List Ast → Bool
  | [] => false
  | t :: rest => patternBinds name t || anyBinds name rest

end

/-- The value is a call of the named variable. -/
def callsVariable (name : String) : Ast → Bool
  | .node (.call ..) _ (.node (.reference n) _ _ :: _) => n = name
  | _ => false

/-- The declarators of the variable declarations among statements. -/
def declarators (statements : List Ast) : List Ast :=
  statements.flatMap fun s =>
    match s with
    | .node (.variableDecl ..) _ items => items
    | _ => []

/-- The name of the type that a statement declares, exported or not. -/
def declaredType? : Ast → Option String
  | .node (.interfaceDecl _) _ (.node (.binding name) _ _ :: _) => some name
  | .node (.typeAlias _) _ (.node (.binding name) _ _ :: _) => some name
  | .node (.exportNamed ..) _ (.node (.interfaceDecl _) _ (.node (.binding name) _ _ :: _) :: _) =>
    some name
  | .node (.exportNamed ..) _ (.node (.typeAlias _) _ (.node (.binding name) _ _ :: _) :: _) =>
    some name
  | _ => none

/-- The declaration of an import statement. -/
def importOf? : Ast → Option ImportDecl
  | .node (.importDecl d) _ _ => some d
  | _ => none

/-- A binding of a value under the name that the module gives it. -/
def namedSpecifier (name : String) : ImportSpecifier := .byName (.ident name) name false

/-- The names that an import binds in braces, as the module calls them. -/
def namedImports (d : ImportDecl) : List String :=
  (d.specifiers.getD []).filterMap fun s =>
    match s with
    | .byName imported _ _ => some imported.text
    | _ => none

def hasNamespace (d : ImportDecl) : Bool :=
  (d.specifiers.getD []).any fun s =>
    match s with
    | .byNamespace _ => true
    | _ => false

/-- The import with one more binding at the end. -/
def addSpecifier (d : ImportDecl) (s : ImportSpecifier) : ImportDecl :=
  { d with specifiers := some (d.specifiers.getD [] ++ [s]) }

/-- The statements of a program. -/
def statements : Ast → List Ast
  | .node (.program ..) _ parts => parts
  | _ => []

/-- The program with other statements. -/
def withStatements (t : Ast) (parts : List Ast) : Ast :=
  match t with
  | .node (.program h d c) l _ => .node (.program h d c) l parts
  | other => other

end Nativize.Conversion
