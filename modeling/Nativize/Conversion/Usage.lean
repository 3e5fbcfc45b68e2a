import Nativize.Conversion.Markup
import Nativize.Conversion.Preamble

/-!
# Components in use

The names that a program needs from the platform, in the order of their first use, and the import
that provides them.
-/

namespace Nativize.Conversion

open Syntax

/-- The names that a node itself needs. A component brings the stylesheet API with it. -/
def nodeUses (p : Profile) : Ast → List String
  | .node .element _ (opening :: _) =>
    let tag := elementText opening
    if p.tables.isRecognized tag then [tag, p.names .stylesheetApi] else []
  | .node (.reference name) _ _ =>
    if p.tables.referencedIdentifiers.contains name then [name] else []
  | _ => []

/-- The names that a program needs, each once. -/
def usedNames (p : Profile) (t : Ast) : List String := (t.nodes.flatMap (nodeUses p)).eraseDups

/-- Import the names from the platform, and count those that were missing. -/
def addPlatformImports (names : Names) (used : List String) : Pass Nat := do
  let module := names .platformUiModule
  let parts ← Pass.getStatements
  match (parts.filterMap importOf?).find? (canImport module) with
  | some d =>
    let present := namedImports d
    let missing := used.filter fun name => !present.contains name
    if missing.isEmpty then return 0
    let extend (d : ImportDecl) : ImportDecl :=
      { d with specifiers := some (d.specifiers.getD [] ++ missing.map namedSpecifier) }
    Pass.setStatements ((mapImport? (canImport module) extend parts).getD parts)
    return missing.length
  | none =>
    if used.isEmpty then return 0
    prepend (namedImportText used module)
    return used.length

end Nativize.Conversion
