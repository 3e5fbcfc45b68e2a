import Nativize.Conversion.Pass
import Nativize.Profile.Basic

/-!
# Imports

The first rule that fits an import decides: the base module stays; the web router becomes the
platform router; a stylesheet is dropped; the platform's components gain the stylesheet API; an
image keeps one default binding and comes from the asset directory.
-/

namespace Nativize.Conversion

open Syntax

/-- What becomes of an import. -/
inductive ImportAction where
  | keep (decl : ImportDecl)
  | remove
deriving DecidableEq

/-- The front of a text with at most the given number of slashes in it. -/
def firstSegments : Nat → List Char → List Char
  | _, [] => []
  | 0, '/' :: _ => []
  | n + 1, '/' :: rest => '/' :: firstSegments n rest
  | n, c :: rest => c :: firstSegments n rest

/-- The last two segments of a path. -/
def lastSegments (path : String) : String :=
  String.ofList (firstSegments 1 path.toList.reverse).reverse

/-- A binding of the navigation hook becomes one of the router hook. -/
def convertHookSpecifier (names : Names) (s : ImportSpecifier) : ImportSpecifier :=
  match s with
  | .byName imported _ _ =>
    if imported.text = names .navigationHook then namedSpecifier (names .routerHook) else s
  | _ => s

/-- The import with the stylesheet API among its named bindings. -/
def withStylesheetApi (names : Names) (d : ImportDecl) : ImportDecl :=
  if hasNamespace d || (namedImports d).contains (names .stylesheetApi) then d
  else addSpecifier d (namedSpecifier (names .stylesheetApi))

/-- An image under its first binding, from the asset directory. -/
def convertImage (tables : Tables) (d : ImportDecl) : Except Breach ImportDecl :=
  match d.specifiers.getD [] with
  | [] => .error (.unboundAsset d.source.text)
  | first :: _ =>
    .ok { d with
      specifiers := some [.byDefault first.localName]
      source := ⟨tables.assetDirectory ++ "/" ++ lastSegments d.source.text, false⟩ }

/-- Decide on an import. -/
def convertImport (p : Profile) (d : ImportDecl) : Except Breach ImportAction :=
  let specifier := d.source.text
  if specifier = p.names .baseModule then .ok (.keep d)
  else if specifier = p.names .webRouterModule then
    .ok (.keep { d with
      source := ⟨p.names .platformRouterModule, false⟩
      specifiers := d.specifiers.map (·.map (convertHookSpecifier p.names)) })
  else if p.tables.isStylesheet specifier then .ok .remove
  else if specifier = p.names .platformUiModule then .ok (.keep (withStylesheetApi p.names d))
  else if p.tables.isImage specifier then (convertImage p.tables d).map .keep
  else .ok (.keep d)

/-- A statement after the decision about it. -/
structure ImportStep where
  statement : Ast
  /-- The statement is an import, and to be removed when this is set. -/
  removes : Option Bool

/-- Decide on the imports among statements, up to the first that is refused. -/
def importSteps (p : Profile) : List Ast → List ImportStep × Option Breach
  | [] => ([], none)
  | .node (.importDecl d) l parts :: rest =>
    match convertImport p d with
    | .error b => (⟨.node (.importDecl d) l parts, none⟩ :: rest.map (⟨·, none⟩), some b)
    | .ok action =>
      let (steps, breach) := importSteps p rest
      match action with
      | .keep d' => (⟨.node (.importDecl d') l parts, some false⟩ :: steps, breach)
      | .remove => (⟨.node (.importDecl d) l parts, some true⟩ :: steps, breach)
  | s :: rest =>
    let (steps, breach) := importSteps p rest
    (⟨s, none⟩ :: steps, breach)

/-- Convert the imports of a program, and count those that are removed. Nothing is removed when one
is refused. -/
def convertImports (p : Profile) : Pass Nat := do
  let (steps, breach) := importSteps p (← Pass.getStatements)
  Pass.setStatements (steps.map (·.statement))
  Pass.check breach
  let kept := steps.filter fun s => s.removes ≠ some true
  Pass.setStatements (kept.map (·.statement))
  return steps.length - kept.length

end Nativize.Conversion
