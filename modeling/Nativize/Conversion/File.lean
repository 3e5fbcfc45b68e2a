import Nativize.Conversion.Pipeline
import Nativize.FileTree
import Nativize.Profile.Decode

/-!
# Conversions of files
-/

namespace Nativize.Conversion

variable {m : Type → Type} [Monad m]

/-- Read the text of a file, or stop. -/
def readFile (files : Files m) (path : String) : ExceptT Failure m String := files.readText path

/-- Read a profile from a file. -/
def readProfile (files : Files m) (path : String) : ExceptT Failure m Profile := do
  let text ← readFile files path
  match Profile.decode text with
  | .ok p => return p
  | .error fault => throw (.profile (.document fault))

/-- Convert a file into another. It is written only when the conversion succeeds. -/
def convertFile (files : Files m) (mode : Mode) (p : Profile) (input output : String) :
    ExceptT Failure m Converted := do
  let source ← readFile files input
  let result ← ExceptT.mk (pure (convert mode p input source))
  match ← files.write output result.code.toUTF8 with
  | .ok _ => return result
  | .error fault => throw (.access output fault)

/-- The evaluated style table of a file. -/
def styleTableFile (files : Files m) (p : Profile) (input : String) :
    ExceptT Failure m Style.Table := do
  let source ← readFile files input
  ExceptT.mk (pure (extractStyleTable p input source))

end Nativize.Conversion
