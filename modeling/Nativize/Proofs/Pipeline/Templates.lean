import Nativize.Proofs.Fonts.Statement
import Nativize.Proofs.Preamble
import Nativize.Proofs.Provision
import Nativize.Proofs.Stylesheet.Binding
import Nativize.Proofs.Sweep.Settled

/-!
# Templates of a profile

What a conversion adds to a program is written as templates with names of the profile filled in.
`Readable` says that they read as they are meant and add nothing that is converted in turn. The
default profile is readable.
-/

namespace Nativize.Conversion

open Syntax

/-- The names that a program can need from the platform. -/
def usableNames (p : Profile) : List String :=
  p.tables.recognizedComponents ++ p.names .stylesheetApi :: p.tables.referencedIdentifiers

/-- The statements that declare the types of the profile. -/
def typeStatements (p : Profile) : List Ast :=
  (templateStatements (String.ofList (trim p.tables.typeDeclaration.toList))).toOption.getD []

/-- The statement that loads the fonts of the profile. -/
def fontStatement (p : Profile) : Ast := (templateStatement (fontText p)).toOption.getD .absent

/-- The statement declares a type and does nothing else. -/
def isTypeDeclaration (p : Profile) (s : Ast) : Bool :=
  (declaredType? s).isSome && (importOf? s).isNone && (topDeclarators s).isEmpty &&
    s.nodes.all fun n => n.kind.isInert && (nodeUses p n).isEmpty

/-- The statement shows that fonts are loaded, and there is nothing to convert in it. -/
def isFontLoader (p : Profile) (s : Ast) : Bool :=
  declaresName (p.names .fontsLoadedBinding) [s] &&
    s.nodes.all fun n =>
      isSettled p n && !callsVariable (p.names .navigateMember) n && !isFontTarget p n

/-- The templates of the profile read as they are meant. -/
structure Readable (p : Profile) : Prop extends Separated p where
  stylesheet (isExported : Bool) : templateStatement (stylesheetText p.names isExported) =
    .ok (stylesheetOf p.names (.leaf .object) isExported)
  fontImport : templateStatement (namedImportText [p.names .fontHook] (p.names .fontModule)) =
    .ok (.leaf (.importDecl (fontProvision p.names).fresh))
  storeImport : templateStatement
      (namespaceImportText (p.names .secureStoreNamespace) (p.names .secureStoreModule)) =
    .ok (.leaf (.importDecl (storeProvision p.names).fresh))
  usable : ∀ name ∈ usableNames p, Parse.isImportName name = true
  typeText : trim p.tables.typeDeclaration.toList ≠ []
  types : templateStatements (String.ofList (trim p.tables.typeDeclaration.toList)) =
    .ok (typeStatements p)
  isTypeDeclaration : ∀ s ∈ typeStatements p, isTypeDeclaration p s = true
  fontTargets : p.tables.fontTargets ≠ []
  fonts : templateStatement (fontText p) = .ok (fontStatement p)
  isFontLoader : isFontLoader p (fontStatement p) = true
  api : p.names .stylesheetApi ∈ p.tables.referencedIdentifiers
  apiStorage : p.names .stylesheetApi ≠ p.names .webStorage
  fontStore : p.names .fontModule ≠ p.names .secureStoreModule
  fontPlatform : p.names .fontModule ≠ p.names .platformUiModule
  storePlatform : p.names .secureStoreModule ≠ p.names .platformUiModule

/-! ## The default profile -/

theorem types_default :
    trim Tables.defaultTypeDeclaration.toList ≠ [] ∧
    ∃ t ∈ parseProgram (trim Tables.defaultTypeDeclaration.toList),
      ∀ s ∈ statements t.withoutComments, isTypeDeclaration .default s = true := by
  decide +kernel

theorem typeStatements_default :
    templateStatements (String.ofList (trim Tables.defaultTypeDeclaration.toList)) =
      .ok (typeStatements .default) ∧
    ∀ s ∈ typeStatements .default, isTypeDeclaration .default s = true := by
  obtain ⟨-, t, ht, hall⟩ := types_default
  have htemplate : templateStatements (String.ofList (trim Tables.defaultTypeDeclaration.toList)) =
      .ok (statements t.withoutComments) := by
    rw [templateStatements, String.toList_ofList, Option.mem_def.mp ht]
  have htypes : typeStatements .default = statements t.withoutComments := by
    change (templateStatements
      (String.ofList (trim Tables.defaultTypeDeclaration.toList))).toOption.getD
      [] = _
    rw [htemplate]
    rfl
  rw [htypes]
  exact ⟨htemplate, hall⟩

theorem fontStatement_default :
    templateStatement (fontText .default) = .ok (fontStatement .default) ∧
      isFontLoader .default (fontStatement .default) = true := by
  have htemplate : templateStatement (fontText .default) =
      .ok (fontLoader "fontsLoaded" "useFonts" Tables.defaultFontFaces) :=
    templateStatement_fontText (by decide +kernel) (by decide +kernel)
  have hfonts :
      fontStatement .default = fontLoader "fontsLoaded" "useFonts" Tables.defaultFontFaces := by
    rw [fontStatement, htemplate]
    rfl
  rw [hfonts]
  exact ⟨htemplate, by decide +kernel⟩

theorem readable_default : Readable .default where
  toSeparated := separated_default
  stylesheet isExported := by
    refine templateStatement_of_parse ?_ (by cases isExported <;> rfl)
    cases isExported <;> decide +kernel
  fontImport := templateStatement_of_parse (by decide +kernel) rfl
  storeImport := templateStatement_of_parse (by decide +kernel) rfl
  usable := by decide +kernel
  typeText := types_default.1
  types := typeStatements_default.1
  isTypeDeclaration := typeStatements_default.2
  fontTargets := by decide
  fonts := fontStatement_default.1
  isFontLoader := fontStatement_default.2
  api := by decide
  apiStorage := by decide
  fontStore := by decide
  fontPlatform := by decide
  storePlatform := by decide

end Nativize.Conversion
