import Nativize.Conversion.Template
import Nativize.Proofs.Syntax.Parser.Import

/-!
# Templates

What a template reads as. The import of named values is read for every list of names; other
templates depend on the profile alone.
-/

namespace Nativize.Conversion

open Syntax

/-- The text of a program with one statement is a template of it. -/
theorem templateStatement_of_parse {text : String} {s : Ast}
    (h : parseProgram text.toList = some (.of (.program none [] []) [s]))
    (hs : s.withoutComments = s) : templateStatement text = .ok s := by
  have hstatements : templateStatements text = .ok [s] := by
    rw [templateStatements, h]
    change Except.ok [s.withoutComments] = _
    rw [hs]
  rw [templateStatement, hstatements]
  rfl

theorem toList_namedImportText (names : List String) (module : String) :
    (namedImportText names module).toList = Parse.importText names module := by
  rw [Parse.importText, ← toList_intercalate]
  simp [namedImportText, Parse.importClosing, Text.quoted]

/-- An import of named values is read as one. -/
theorem templateStatement_namedImportText {names : List String} (hne : names ≠ [])
    (hnames : ∀ n ∈ names, Parse.isImportName n = true) (module : String) :
    templateStatement (namedImportText names module) =
      .ok (Parse.namedImport names ⟨module, false⟩) := by
  refine templateStatement_of_parse ?_ rfl
  rw [toList_namedImportText, parseProgram_importText hne hnames]

end Nativize.Conversion
