import Nativize.Conversion.Pass
import Nativize.Conversion.Template
import Nativize.Profile.Basic
import Nativize.Text.CharClass

/-!
# What a program starts with

A converted program imports the secure store and the hook that loads fonts, declares the types of
the profile after its imports, and loads the fonts in the functions that the profile names. Nothing
is added that is already there.
-/

namespace Nativize.Conversion

open Syntax

/-- Change the first import that satisfies the test. -/
def mapImport? (test : ImportDecl → Bool) (change : ImportDecl → ImportDecl) :
    List Ast → Option (List Ast)
  | [] => none
  | .node (.importDecl d) l parts :: rest =>
    if test d then some (.node (.importDecl (change d)) l parts :: rest)
    else (mapImport? test change rest).map (.node (.importDecl d) l parts :: ·)
  | s :: rest => (mapImport? test change rest).map (s :: ·)

/-- The import takes names from the module. -/
def canImport (module : String) (d : ImportDecl) : Bool := d.source.text = module && !hasNamespace d

/-- The import with a named value, which is added where it is missing. -/
def withNamed (name : String) (d : ImportDecl) : ImportDecl :=
  if (namedImports d).contains name then d else addSpecifier d (namedSpecifier name)

/-- The import binds the whole module under the name. -/
def bindsModule (name module : String) (d : ImportDecl) : Bool :=
  d.source.text = module && (d.specifiers.getD []).any fun s =>
    match s with
    | .byNamespace n => n = name
    | _ => false

/-- Put a statement before all others. -/
def prepend (text : String) : Pass Unit := do
  let statement ← Pass.require (templateStatement text)
  Pass.setStatements (statement :: (← Pass.getStatements))

/-- Import the font hook and the secure store. -/
def addLeadingImports (names : Names) : Pass Unit := do
  let parts ← Pass.getStatements
  let hasStore := (parts.filterMap importOf?).any
    (bindsModule (names .secureStoreNamespace) (names .secureStoreModule))
  match mapImport? (canImport (names .fontModule)) (withNamed (names .fontHook)) parts with
  | some changed => Pass.setStatements changed
  | none => prepend (namedImportText [names .fontHook] (names .fontModule))
  if !hasStore then
    prepend (namespaceImportText (names .secureStoreNamespace) (names .secureStoreModule))

/-- The text without blanks at either end. -/
def trim (text : List Char) : List Char :=
  (Text.trimLeft (Text.trimLeft text).reverse).reverse

/-- Statements divided behind the last import. -/
def splitAtImports : List Ast → List Ast × List Ast
  | [] => ([], [])
  | s :: rest =>
    let (before, after) := splitAtImports rest
    if before.isEmpty && (importOf? s).isNone then ([], s :: after) else (s :: before, after)

/-- Declare the types of the profile behind the imports, and count those that were missing. -/
def addTypeDeclaration (tables : Tables) : Pass Nat := do
  let text := trim tables.typeDeclaration.toList
  if text.isEmpty then return 0
  let parts ← Pass.getStatements
  let declared := parts.filterMap declaredType?
  let added := (← Pass.require (templateStatements (String.ofList text))).filter fun s =>
    match declaredType? s with
    | some name => !declared.contains name
    | none => true
  let (before, after) := splitAtImports parts
  Pass.setStatements (before ++ added ++ after)
  return added.length

/-- The statement that loads fonts, as a template. -/
def fontText (p : Profile) : String :=
  let face (f : FontFace) : String :=
    Text.quoted f.family ++ ": require(" ++ Text.quoted f.path ++ ")"
  "const [" ++ p.names .fontsLoadedBinding ++ "] = " ++ p.names .fontHook ++ "(\x7b "
    ++ String.intercalate ", " (p.tables.fontFaces.map face) ++ " \x7d);"

/-- A statement of the body declares the name. -/
def declaresName (name : String) (body : List Ast) : Bool :=
  (declarators body).any fun d => patternBinds name (d.part 0)

/-- The function declaration is to load fonts: the profile names it, and it does not do so yet. -/
def needsFonts (p : Profile) (facts : FunctionFacts) (name : Ast) (body : List Ast) : Bool :=
  match facts.form, name with
  | .declaration, .node (.binding n) _ _ =>
    p.tables.fontTargets.contains n && !declaresName (p.names .fontsLoadedBinding) body
  | _, _ => false

mutual

/-- Put the statement first in every function that is to load fonts, and count these. -/
def loadFonts (p : Profile) (statement : Ast) : Ast → StateM Nat Ast
  | .node (.functionLike facts) l [name, generics, params, result, .node (.body ds c) bl body] => do
    let needed := needsFonts p facts name body
    if needed then modify (· + 1)
    let name' ← loadFonts p statement name
    let generics ← loadFonts p statement generics
    let params ← loadFonts p statement params
    let result ← loadFonts p statement result
    let body ← loadFontsIn p statement body
    let body := if needed then statement :: body else body
    return .node (.functionLike facts) l
      [name', generics, params, result, .node (.body ds c) bl body]
  | .node k l parts => return .node k l (← loadFontsIn p statement parts)

def loadFontsIn (p : Profile) (statement : Ast) : List Ast → StateM Nat (List Ast)
  | [] => return []
  | t :: rest => return (← loadFonts p statement t) :: (← loadFontsIn p statement rest)

end

/-- Load the fonts in the functions that the profile names. -/
def addFontLoading (p : Profile) : Pass Nat := do
  if p.tables.fontTargets.isEmpty then return 0
  let statement ← Pass.require (templateStatement (fontText p))
  let (t, count) := (loadFonts p statement (← get)).run 0
  set t
  return count

end Nativize.Conversion
